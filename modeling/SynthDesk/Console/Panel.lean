/-
A framed text with a title.

The frame has round corners and fits its content: two columns wider than the
widest row, or four wider than the title, whichever is more, but never wider than
the screen. Where the screen is too narrow, lines are broken and the title is cut
off. The title stands in the upper edge between two blanks, as nearly in the middle
as columns allow, the odd column to its right. Content and title are markup; the
title is read first, its line ends as blanks, and styles are looked up row by row,
those of the title last.
-/
import SynthDesk.Console.Screen

set_option autoImplicit false

namespace SynthDesk.Console

/-- A title and a content, both markup: what `ConsoleStyles.print_panel` is given. -/
structure Panel where
  title : Text
  content : Text
deriving DecidableEq, Repr

namespace Panel

/-- The horizontal edge. -/
def edge : CodePoint := CodePoint.ofChar '─'

/-- The vertical edge. -/
def side : CodePoint := CodePoint.ofChar '│'

/-- The markup of a title: bold. -/
def titleMarkup (title : Text) : Text :=
  Text.ofString "[bold]" ++ title ++ Text.ofString "[/bold]"

/-- The title with a blank on either side, its line ends being blanks. -/
def titleLine (pictures : Emoji.Table) (p : Panel) : Except Markup.Refusal Styled :=
  (Markup.display pictures (titleMarkup p.title)).map fun t =>
    let flat := { t with text := t.text.map fun c => if c = Text.newline then ' ' else c }
    .join [.plain [CodePoint.ofChar ' '], flat.expandTabs, .plain [CodePoint.ofChar ' ']]

/-- The columns between the corners: the content's widest line and a blank on
either side of it, or the title and an edge on either side of it, as far as the
screen goes. -/
def innerWidth (columns : Nat) (title : Text) (content : Text) : Nat :=
  min (columns - 2) (max (content.widest + 2) (title.width + 2))

/-- The title between edges, the odd one to its right. -/
def centred (columns : Nat) (title : Text) : Text :=
  let space := columns - title.width
  Text.fill (space / 2) edge ++ title ++ Text.fill (space - space / 2) edge

/-- The upper edge, with the title in it. -/
def topRow (inner : Nat) (title : Text) : Text :=
  CodePoint.ofChar '╭' :: edge ::
    centred (inner - 2) title ++ [edge, CodePoint.ofChar '╮', Text.newline]

/-- A row of the content between the vertical edges. -/
def contentRow (inner : Nat) (row : Styled) : Text :=
  side :: CodePoint.ofChar ' ' :: row.drawIn (inner - 2) ++
    [CodePoint.ofChar ' ', side, Text.newline]

/-- The lower edge. -/
def bottomRow (inner : Nat) : Text :=
  CodePoint.ofChar '╰' :: Text.fill inner edge ++ [CodePoint.ofChar '╯', Text.newline]

/-- The fault in looking up the styles of rows and title, the first one
counting. -/
def fault? (rows : List Styled) (title : Styled) : Option Colour.ComponentError :=
  (rows.findSome? Styled.fault?).or title.fault?

/-- The frame around a content, broken into rows, and a title. -/
def frame (columns : Nat) (title content : Styled) : Except Markup.Refusal Text :=
  let inner := innerWidth columns title.text content.text
  let rows := content.wrap (inner - 2)
  match fault? rows title with
  | some e => .error (.colour e)
  | none => .ok (topRow inner (title.truncate (inner - 2)).text ++
      rows.flatMap (contentRow inner) ++ bottomRow inner)

/-- **A panel on a screen**, or what is wrong with its markup: what `print_panel` prints. -/
def render (screen : Screen) (p : Panel) : Except Markup.Refusal Text :=
  match p.titleLine screen.pictures with
  | .error e => .error e
  | .ok title => match Markup.display screen.pictures p.content with
    | .error e => .error e
    | .ok content => frame screen.columns title content

end Panel

end SynthDesk.Console
