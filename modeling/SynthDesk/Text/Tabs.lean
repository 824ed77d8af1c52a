/-
Tabs filled up with blanks.

A tab stands for at least one blank, and for as many more as lead to the next
stop. The columns before it are those of the stretch since the tab before, so a
joiner right before a tab draws its first blank in.
-/
import SynthDesk.Text.Split
import SynthDesk.Text.Width

set_option autoImplicit false

namespace SynthDesk.Text

/-- The distance between tab stops. -/
def tabStop : Nat := 8

/-- The tab. -/
def tab : CodePoint := CodePoint.ofChar '\t'

/-- What stands between tabs, each part with the tab after it; `part` is the
part begun, read backwards. -/
def tabPartsAfter (part : Text) : Text → List Text
  | [] => if part.isEmpty then [] else [part.reverse]
  | c :: r =>
    if c = tab then (c :: part).reverse :: tabPartsAfter [] r else tabPartsAfter (c :: part) r

/-- The parts of a text, each with the tab after it. -/
def tabParts (t : Text) : List Text := tabPartsAfter [] t

/-- A part with a blank in place of the tab after it. -/
def withBlank (part : Text) : Text := part.dropLast ++ [CodePoint.ofChar ' ']

/-- How many blanks follow that one, from a column on. -/
def moreBlanks (column : Nat) (part : Text) : Nat :=
  (tabStop - (column + (withBlank part).width) % tabStop) % tabStop

/-- A part with its tab filled up, from a column on, and the column after it. -/
def fillPart (column : Nat) (part : Text) : Text × Nat :=
  if part.getLast? = some tab then
    (withBlank part ++ fill (moreBlanks column part) ' ',
      column + (withBlank part).width + moreBlanks column part)
  else (part, column + part.width)

/-- Parts with their tabs filled up, from a column on. -/
def fillParts (column : Nat) : List Text → Text
  | [] => []
  | p :: r => (fillPart column p).1 ++ fillParts (fillPart column p).2 r

/-- A line with its tabs filled up. -/
def expandLine (t : Text) : Text := if t.contains tab then fillParts 0 t.tabParts else t

/-- **A text with its tabs filled up**, line by line. -/
def expandTabs (t : Text) : Text := join [newline] (t.lines.map expandLine)

example : expandTabs "ab\tc" = ofString "ab      c" := by decide +kernel

end SynthDesk.Text
