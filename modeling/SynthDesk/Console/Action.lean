/-
Actions: tags that name something to be done and give it an argument.

The argument is a name with a list in parentheses after it, or one of the two
alone; anything else is taken as a whole. The list, or the whole, has to be a
literal. The name is not looked at.
-/
import SynthDesk.Literal.Check
import SynthDesk.Text.Blank
import SynthDesk.Text.Quoted
import SynthDesk.Text.Word

set_option autoImplicit false

namespace SynthDesk.Action

/-- A code point of a name: a letter, a digit, a low line or a dot. -/
def isNamePoint (c : CodePoint) : Bool := c.isWordPoint || c = '.'

/-- The text has the form of a list in parentheses, on one line. -/
def isList (t : Text) : Bool :=
  t.head? = some (CodePoint.ofChar '(') && t.getLast? = some (CodePoint.ofChar ')') &&
    2 ≤ t.length && !t.contains Text.newline

/-- The part of an argument that has to be a literal. -/
def literalPart (argument : Text) : Text :=
  let t := argument.strip
  match t.dropWhile isNamePoint with
  | [] => "()"
  | rest => if isList rest then rest else t

/-- The argument of an action is no literal: the part that was read, the
argument as it stands, and why. -/
structure Refusal where
  part : Text
  argument : Text
  reason : Literal.Refusal
deriving DecidableEq, Repr

/-- How the refusal reads. -/
def Refusal.message (e : Refusal) : Text :=
  let opening := Text.ofString "error parsing "
  match e.reason with
  | .grammar words =>
    opening ++ e.part.quoted ++ Text.ofString " in " ++ e.argument.quoted ++
      Text.ofString "; " ++ words
  | .content words => opening ++ e.argument.quoted ++ Text.ofString "; " ++ words

/-- **The refusal of an argument**, if it is refused. An empty one is not. -/
def refusal? (argument : Text) : Option Refusal :=
  if argument.isEmpty then none
  else (Literal.refusal? (literalPart argument)).map fun r => ⟨literalPart argument, argument, r⟩

end SynthDesk.Action
