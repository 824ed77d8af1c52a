/-
Values that can stand where settings or options are expected.

Most are of a kind that a document can hold. Whole numbers are unbounded and
doubles are kept apart from them; an object keeps the order of its fields, each
name once. Anything else that a caller hands over is foreign: of it no more is
known than its class, how it is shown, and what going through it gives.
-/
import SynthDesk.Decimal.Shortest
import SynthDesk.Keyed

set_option autoImplicit false

namespace SynthDesk

/-- A value: nothing, a truth value, a number of either kind, a text, a list, an
object, or something that no document can hold. -/
inductive Value
  | null
  | bool (b : Bool)
  | int (i : Int)
  | float (x : Binary64)
  | text (t : Text)
  | list (items : List Value)
  | object (fields : List (Text × Value))
  /-- Something else: the name of its class, how it is shown (`str`), how it is shown inside a
  list (`repr`), and the items that going through it gives, if it can be gone through. -/
  | foreign (className shown inner : Text) (items : Option (List Value))

namespace Value

/-- The name of a value's kind in messages: `type(value).__name__`. -/
def kind : Value → Text
  | null => "NoneType"
  | bool _ => "bool"
  | int _ => "int"
  | float _ => "float"
  | text _ => "str"
  | list _ => "list"
  | object _ => "dict"
  | foreign className _ _ _ => className

/-- The text, if the value is one. -/
def text? : Value → Option Text
  | text t => some t
  | _ => none

/-- The texts, if all values are texts. -/
def texts? : List Value → Option (List Text)
  | [] => some []
  | v :: r => match v.text?, texts? r with
    | some t, some ts => some (t :: ts)
    | _, _ => none

/-! ## Whole numbers in print -/

/-- The most digits that a whole number may have in print. -/
def digitLimit : Nat := 4300

/-- A whole number has too many digits to be printed. -/
inductive TooManyDigits
  | mk
deriving DecidableEq, Repr

/-- How the refusal reads. -/
def TooManyDigits.message (_ : TooManyDigits) : Text :=
  "Exceeds the limit (4300 digits) for integer string conversion; use sys.set_int_max_str_digits() to increase the limit"

/-- The numeral of a whole number, unless it is too long. -/
def numeral (i : Int) : Except TooManyDigits Text :=
  let t := Text.ofNat i.natAbs
  if digitLimit < t.length then .error .mk else .ok (Text.ofInt i)

end Value

end SynthDesk
