/-
Pictures by name.

A name between two colons stands for a picture, if the table of pictures has it; case does
not matter, and the name may end in `-text` or `-emoji` for the form of the picture. No white
space is in it. What looks like a name and is none stays as it is, its second colon included,
so that no other name begins there.

In markup the names are looked for in each run of text between tags by itself, and in each
tag that a backslash makes ordinary text.
-/
import SynthDesk.Console.Markup
import SynthDesk.Text.Case

set_option autoImplicit false

namespace SynthDesk

namespace Emoji

/-- Pictures and their names, the names in lower case. -/
abbrev Table := List (Text × Text)

/-- What begins and ends a name. -/
def colon : CodePoint := CodePoint.ofChar ':'

/-- The forms of a picture: what is written after the name, and the selector for it. -/
def forms : List (Text × Text) :=
  [("-emoji", [CodePoint.ofNat 0xFE0F]), ("-text", [CodePoint.ofNat 0xFE0E]), ("", [])]

/-- A name after its first colon: the name itself, the form that is written after it, the
selector for the form, and the text after the second colon. -/
structure Code where
  name : Text
  form : Text
  selector : Text
  rest : Text
deriving DecidableEq, Repr

/-- What is written between the colons. -/
def Code.body (c : Code) : Text := c.name ++ c.form

/-- The form and the second colon, if they come next. -/
def ending? (t : Text) : Option Code :=
  forms.findSome? fun (form, selector) =>
    (Text.after? (form ++ [colon]) t).map fun rest => ⟨[], form, selector, rest⟩

/-- The name after a first colon, the shortest one counting. -/
def code? (t : Text) : Option Code :=
  match ending? t with
  | some found => some found
  | none => match t with
    | [] => none
    | c :: r => if c.isBlank then none else (code? r).map fun x => { x with name := c :: x.name }

/-- The picture of a name. -/
def picture? (table : Table) (name : Text) : Option Text :=
  (table.find? fun entry => entry.1 = Text.lower name).map Prod.snd

/-- What stands in place of a name and its colons. -/
def Code.shown (table : Table) (c : Code) : Text :=
  match picture? table c.name with
  | some picture => picture ++ c.selector
  | none => colon :: c.body ++ [colon]

/-- A text with pictures in place of their names; of the code points that come first, some
belong to a name already seen. -/
def replaceFrom (table : Table) (skip : Nat) : Text → Text
  | [] => []
  | c :: r => match skip with
    | n + 1 => replaceFrom table n r
    | 0 =>
      if c = colon then
        match code? r with
        | some found => found.shown table ++ replaceFrom table (found.body.length + 1) r
        | none => c :: replaceFrom table 0 r
      else c :: replaceFrom table 0 r

/-- **A text with pictures in place of their names.** -/
def replace (table : Table) (t : Text) : Text := replaceFrom table 0 t

example : replace [("smile", "S"), ("b", "B")] "x :smile:b: :Smile-text: :a b:" =
    Text.ofString "x Sb: S\uFE0E :a b:" := by decide +kernel

end Emoji

namespace Markup

/-- Markup with pictures in place of their names: the run of text begun, read backwards, the
backslashes after it, and how many code points come first that belong to a tag already seen. -/
def picturedFrom (table : Emoji.Table) (run : Text) (pending skip : Nat) : Text → Text
  | [] => Emoji.replace table (run.reverse ++ backslashes pending)
  | c :: r => match skip with
    | n + 1 => picturedFrom table [] 0 n r
    | 0 =>
      if c = '\\' then picturedFrom table run (pending + 1) 0 r
      else if c = '[' then
        match body? r with
        | some b =>
          let tag := CodePoint.ofChar '[' :: b ++ [CodePoint.ofChar ']']
          Emoji.replace table run.reverse ++ backslashes pending ++
            (if pending % 2 = 1 then Emoji.replace table tag else tag) ++
            picturedFrom table [] 0 (b.length + 1) r
        | none => picturedFrom table (c :: (backslashes pending ++ run)) 0 0 r
      else picturedFrom table (c :: (backslashes pending ++ run)) 0 0 r

/-- **Markup with pictures** in place of their names. -/
def pictured (table : Emoji.Table) (t : Text) : Text := picturedFrom table [] 0 0 t

/-- Inside a tag there are no names. -/
example : pictured [("b", "B")] "[red:b:] :b: \\[a:b:]" = Text.ofString "[red:b:] B \\[aB]" := by
  decide +kernel

/-- **Markup as it is shown**, names of pictures included: `rich.markup.render`. What is wrong
with it is told by its places before any picture is put in. -/
def display (table : Emoji.Table) (t : Text) : Except Refusal Console.Styled :=
  match read t with
  | .error e => .error e
  | .ok _ => read (pictured table t)

end Markup

end SynthDesk
