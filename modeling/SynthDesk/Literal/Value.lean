/-
What expressions stand for.

Only constants, tuples, sets and mappings of them stand for a value, a sign in
front of a number, and a complex number as the sum or the difference of its
parts. Of a value only its nature is kept: whether it is a number, and whether
it can be a member of a set or a key.
-/
import SynthDesk.Literal.Expression

set_option autoImplicit false

namespace SynthDesk.Literal

/-- The nature of a value. -/
inductive Nature
  | number (n : Number)
  /-- It is no number and can be a member or a key. -/
  | plain
  /-- It cannot, because it is or holds a value of this kind. -/
  | unhashable (kind : String)
deriving DecidableEq, Repr

namespace Nature

/-- Refuses what cannot be a member or a key. -/
def member (n : Nature) : Except Text Unit :=
  match n with
  | unhashable kind => .error (Text.ofString s!"unhashable type: '{kind}'")
  | _ => .ok ()

/-- A tuple can be a member if its parts can. -/
def ofTuple : List Nature → Nature
  | [] => plain
  | unhashable kind :: _ => unhashable kind
  | _ :: ns => ofTuple ns

/-- The nature of a constant. -/
def ofConstant : Constant → Nature
  | .number n => number n
  | _ => plain

end Nature

namespace Expression

/-- The least whole number that is too large for a number with a fraction. -/
def tooLarge : Nat := Nat.pow 2 1024 - Nat.pow 2 970

/-- What is said of an expression that stands for no value. -/
def malformed (e : Expression) : Text :=
  Text.ofString
    ("malformed node or string on line 1: <ast." ++ e.kind ++ " object at 0x7f0000000000>")

/-- The number that an expression is. -/
def number? (e : Expression) : Except Text Number :=
  match e with
  | constant (.number n) => .ok n
  | _ => .error e.malformed

/-- The number that an expression is, perhaps with one sign in front. -/
def signedNumber? (e : Expression) : Except Text Number :=
  match e with
  | prefixed mark operand =>
    if mark = Text.ofString "+" || mark = Text.ofString "-" then operand.number?
    else .error e.malformed
  | _ => e.number?

/-- A complex number from its parts. -/
def complex? (e left right : Expression) : Except Text Nature := do
  let l ← left.signedNumber?
  let r ← right.number?
  match l, r with
  | .whole n, .imaginary =>
    if tooLarge ≤ n then throw (Text.ofString "int too large to convert to float")
    else pure (.number .imaginary)
  | .real, .imaginary => pure (.number .imaginary)
  | _, _ => throw e.malformed

mutual

/-- **The nature of the value** that an expression stands for, or what is said
if there is none. -/
def nature? : Expression → Except Text Nature
  | constant c => .ok (.ofConstant c)
  | tuple items => do pure (.ofTuple (← natures? items))
  | set items => do
    members? items
    pure (.unhashable "set")
  | dict entries => do
    entries? entries
    pure (.unhashable "dict")
  | call (some (name word)) [] [] =>
    if word = Text.ofString "set" then .ok (.unhashable "set")
    else .error (malformed (call none [] []))
  | binary mark left right =>
    if mark = Text.ofString "+" || mark = Text.ofString "-" then
      complex? (binary mark left right) left right
    else .error (malformed (binary mark left right))
  | prefixed mark operand => do pure (.number (← (prefixed mark operand).signedNumber?))
  | e => .error e.malformed

/-- The natures of the parts of a tuple. -/
def natures? : List Expression → Except Text (List Nature)
  | [] => .ok []
  | e :: es => do
    let n ← nature? e
    pure (n :: (← natures? es))

/-- Reads the members of a set one after the other. -/
def members? : List Expression → Except Text Unit
  | [] => .ok ()
  | e :: es => do
    (← nature? e).member
    members? es

/-- Reads the entries of a mapping one after the other. -/
def entries? : List (Option Expression × Expression) → Except Text Unit
  | [] => .ok ()
  | (none, _) :: _ => .error "malformed node or string: None"
  | (some k, v) :: es => do
    let n ← nature? k
    let _ ← nature? v
    n.member
    entries? es

end

end Expression

end SynthDesk.Literal
