/-
Text with tags for styles.

A tag stands in square brackets: a small letter, `#`, `/` or `@` comes first,
no bracket opens inside, and the first closing bracket ends it. Backslashes
right before a tag count in pairs, each pair being one backslash; a single one
left over makes the tag ordinary text. Before a bracket that opens no tag one
backslash is dropped.

An opening tag starts a style under its normal form. A closing tag ends the
innermost open style of its name, or without a name the innermost of all; where
there is none to end, the markup is refused. Styles themselves do not show:
what is shown is the text without its tags. A tag that begins with `@` is an
action, and when it is closed its argument has to be a literal.
-/
import SynthDesk.Console.Action
import SynthDesk.Console.Status
import SynthDesk.Console.Styled

set_option autoImplicit false

namespace SynthDesk.Markup

/-! ## Pieces -/

/-- A part of a text with markup. -/
inductive Piece
  /-- Ordinary text. -/
  | text (t : Text)
  /-- A tag: where its bracket stands, and what the brackets hold. -/
  | tag (position : Nat) (body : Text)
deriving DecidableEq, Repr

/-- What can come first in a tag. -/
def startsTag (c : CodePoint) : Bool :=
  (97 ≤ c.val && c.val ≤ 122) || c = '#' || c = '/' || c = '@'

/-- What stands before the first closing bracket, if no bracket opens before it. -/
def upToClosing : Text → Option Text
  | [] => none
  | c :: r =>
    if c = ']' then some []
    else if c = '[' then none
    else (upToClosing r).map (c :: ·)

/-- The body of the tag that an opening bracket before this text opens. -/
def body? (t : Text) : Option Text :=
  match t with
  | [] => none
  | c :: r => if startsTag c then (upToClosing r).map (c :: ·) else none

/-- Backslashes. -/
def backslashes (n : Nat) : Text := Text.fill n '\\'

/-- The pieces of a text from a position on, with the number of backslashes
right before it, and the number of code points that belong to a tag already
seen. -/
def scan (position pending skip : Nat) : Text → List Piece
  | [] => [.text (backslashes pending)]
  | c :: r => match skip with
    | n + 1 => scan (position + 1) 0 n r
    | 0 =>
      if c = '\\' then scan (position + 1) (pending + 1) 0 r
      else if c = '[' then
        match body? r with
        | some b =>
          .text (backslashes (pending / 2)) ::
            (if pending % 2 = 1 then .text (CodePoint.ofChar '[' :: b ++ [CodePoint.ofChar ']'])
              else .tag position b) ::
            scan (position + 1) 0 (b.length + 1) r
        | none =>
          .text (backslashes (pending - 1) ++ [c]) :: scan (position + 1) 0 0 r
      else .text (backslashes pending ++ [c]) :: scan (position + 1) 0 0 r

/-- The pieces of a text. -/
def pieces (t : Text) : List Piece := scan 0 0 0 t

/-! ## Refusals -/

/-- Why markup is refused. -/
inductive Refusal
  /-- A nameless closing tag with nothing open. -/
  | nothingToClose (position : Nat)
  /-- A closing tag, with its brackets, whose name is not open. -/
  | notOpen (tag : Text) (position : Nat)
  /-- The argument of an action is no literal. -/
  | action (e : Action.Refusal)
  /-- A style cannot be looked up. -/
  | colour (e : Colour.ComponentError)
deriving DecidableEq, Repr

/-- How the refusal reads. -/
def Refusal.message : Refusal → Text
  | nothingToClose n =>
    Text.ofString "closing tag '[/]' at position " ++ Text.ofNat n ++
      Text.ofString " has nothing to close"
  | notOpen tag n =>
    Text.ofString "closing tag '" ++ tag ++ Text.ofString "' at position " ++ Text.ofNat n ++
      Text.ofString " doesn't match any open tag"
  | action e => e.message
  | colour e => e.message

/-! ## Matching -/

/-- An open tag: where its text begins, its name in the normal form, and what
comes after an equals sign. -/
structure OpenTag where
  start : Nat
  name : Text
  argument : Option Text
deriving DecidableEq, Repr

/-- The style of a tag: its name and its argument. -/
def OpenTag.style (t : OpenTag) : Text :=
  match t.argument with
  | none => t.name
  | some a => t.name ++ CodePoint.ofChar ' ' :: a

/-- The tag is an action, and no style is looked up for it. -/
def OpenTag.isAction (t : OpenTag) : Bool := t.name.head? = some (CodePoint.ofChar '@')

/-- The name in a tag: what stands before the first equals sign. -/
def nameOf (body : Text) : Text := body.takeWhile (· != CodePoint.ofChar '=')

/-- The argument of a tag: what stands after the first equals sign. -/
def argumentOf (body : Text) : Option Text :=
  match body.dropWhile (· != CodePoint.ofChar '=') with
  | [] => none
  | _ :: r => some r

/-- The span of a tag that is closed at a place. The argument of an action is
looked at only now. -/
def OpenTag.closedAt (t : OpenTag) (stop : Nat) : Except Refusal Console.Span :=
  if t.isAction then
    match Action.refusal? (t.argument.getD []) with
    | some e => .error (.action e)
    | none => .ok ⟨t.start, stop, none⟩
  else .ok ⟨t.start, stop, some t.style⟩

/-- What has been read so far: the text, the open tags with the innermost
first, and the spans closed with the latest first. -/
structure State where
  text : Text
  opened : List OpenTag
  spans : List Console.Span

/-- The innermost open tag of a name, and the tags without it. -/
def take? (name : Text) : List OpenTag → Option (OpenTag × List OpenTag)
  | [] => none
  | t :: r => if t.name = name then some (t, r) else (take? name r).map fun (u, r') => (u, t :: r')

/-- The state after a tag was closed. -/
def State.close (s : State) (t : OpenTag) (outer : List OpenTag) : Except Refusal State :=
  match t.closedAt s.text.length with
  | .error e => .error e
  | .ok span => .ok ⟨s.text, outer, span :: s.spans⟩

/-- The state after a tag at a position. -/
def State.tag (s : State) (position : Nat) (body : Text) : Except Refusal State :=
  match nameOf body with
  | [] => .ok s
  | c :: name =>
    if c = '/' then
      match Text.strip name with
      | [] => match s.opened with
        | [] => .error (.nothingToClose position)
        | t :: outer => s.close t outer
      | style => match StyleName.normalize style with
        | .error e => .error (.colour e)
        | .ok style => match take? style s.opened with
          | some (t, outer) => s.close t outer
          | none =>
            .error (.notOpen (CodePoint.ofChar '[' :: body ++ [CodePoint.ofChar ']']) position)
    else match StyleName.normalize (c :: name) with
      | .error e => .error (.colour e)
      | .ok style => .ok { s with opened := ⟨s.text.length, style, argumentOf body⟩ :: s.opened }

/-- The state after more text. On the way to the screen some controls are left
out. -/
def State.more (s : State) (t : Text) : State := { s with text := s.text ++ Console.visible t }

/-- The state after pieces. -/
def State.pieces (s : State) : List Piece → Except Refusal State
  | [] => .ok s
  | .text t :: r => (s.more t).pieces r
  | .tag position body :: r => match s.tag position body with
    | .error e => .error e
    | .ok s' => s'.pieces r

/-- The text with its spans. Tags that are still open reach to the end; spans
stand in the order of their beginnings, and of two with the same beginning the
one that was closed later comes first. -/
def State.finish (s : State) : Console.Styled :=
  let still := s.opened.map fun t => ⟨t.start, s.text.length, some t.style⟩
  ⟨s.text, (still.reverse ++ s.spans).mergeSort fun a b => decide (a.start ≤ b.start)⟩

/-- **What markup means**: its text without tags and the spans of the tags, or
the first tag at fault. -/
def read (t : Text) : Except Refusal Console.Styled :=
  (State.pieces ⟨[], [], []⟩ (pieces t)).map State.finish

/-- What markup shows, wherever it is shown. -/
def plain (t : Text) : Except Refusal Text := (read t).map Console.Styled.text

example : (plain "[red]a[/red]").toOption = some (Text.ofString "a") := by decide +kernel
example : (plain "\\[b] x").toOption = some (Text.ofString "[b] x") := by decide +kernel
example : (plain "a[/]").toOption = none := by decide +kernel

end SynthDesk.Markup
