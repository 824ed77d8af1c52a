/-
Writing a JSON document.

Members stand on lines of their own, two blanks further in than the bracket
that holds them; an array or object without members is a pair of brackets.
Strings use ASCII alone: quote, backslash and the common controls have short
escapes, every other code point outside the printable ASCII range is written
as one UTF-16 unit, or as two for a code point beyond the first plane. Half a
surrogate pair is a unit of its own, so it can be written as well. What is
foreign to documents is refused, and so is a whole number with too many digits.
-/
import SynthDesk.Value.Basic
import SynthDesk.Text.Split

set_option autoImplicit false

namespace SynthDesk.Json

/-! ## Strings -/

/-- The escape of one UTF-16 unit. -/
def unitEscape (n : Nat) : Text := CodePoint.ofChar '\\' :: CodePoint.ofChar 'u' :: Text.hex 4 n

/-- One code point inside a string. -/
def escape (c : CodePoint) : Text :=
  if c = '"' || c = '\\' then [CodePoint.ofChar '\\', c]
  else if c.val = 8 then "\\b"
  else if c.val = 12 then "\\f"
  else if c = '\n' then "\\n"
  else if c = '\r' then "\\r"
  else if c = '\t' then "\\t"
  else if 0x20 ≤ c.val && c.val ≤ 0x7E then [c]
  else if c.val < 0x10000 then unitEscape c.val
  else unitEscape (0xD800 + (c.val - 0x10000) / 0x400) ++
    unitEscape (0xDC00 + (c.val - 0x10000) % 0x400)

/-- A string between its quotes. -/
def quote (t : Text) : Text := CodePoint.ofChar '"' :: t.flatMap escape ++ [CodePoint.ofChar '"']

/-! ## Documents -/

/-- The words for the doubles that are no finite numbers. -/
def floatWords : Binary64.Words := ⟨"NaN", "Infinity"⟩

/-- A line end and the indentation of a level. -/
def newLine (level : Nat) : Text := Text.newline :: Text.fill (2 * level) ' '

/-- Members inside brackets, each on a line of its own one level further in. -/
def bracket (opening closing : Char) (level : Nat) (members : List Text) : Text :=
  match members with
  | [] => [opening, closing]
  | _ =>
    CodePoint.ofChar opening :: newLine (level + 1) ++
      Text.join (CodePoint.ofChar ',' :: newLine (level + 1)) members ++
      newLine level ++ [CodePoint.ofChar closing]

/-- Why a value has no document. -/
inductive WriteError
  | tooManyDigits (e : Value.TooManyDigits)
  /-- Something of a class that no document can hold. -/
  | unsupported (className : Text)
deriving DecidableEq, Repr

/-- How the refusal reads. -/
def WriteError.message : WriteError → Text
  | tooManyDigits e => e.message
  | unsupported className =>
    Text.ofString "Object of type " ++ className ++ Text.ofString " is not JSON serializable"

mutual

/-- A value that stands at a level of indentation. -/
def writeAt (level : Nat) : Value → Except WriteError Text
  | .null => .ok "null"
  | .bool b => .ok (if b then Text.ofString "true" else Text.ofString "false")
  | .int i => (Value.numeral i).mapError .tooManyDigits
  | .float x => .ok (x.render floatWords)
  | .text t => .ok (quote t)
  | .list items => return bracket '[' ']' level (← writeItems (level + 1) items)
  | .object fields => return bracket '\x7b' '\x7d' level (← writeFields (level + 1) fields)
  | .foreign className _ _ _ => .error (.unsupported className)

/-- The items of an array. -/
def writeItems (level : Nat) : List Value → Except WriteError (List Text)
  | [] => .ok []
  | v :: r => do
    let shown ← writeAt level v
    return shown :: (← writeItems level r)

/-- The fields of an object. -/
def writeFields (level : Nat) : List (Text × Value) → Except WriteError (List Text)
  | [] => .ok []
  | (k, v) :: r => do
    let shown ← writeAt level v
    return (quote k ++ Text.ofString ": " ++ shown) :: (← writeFields level r)

end

/-- **A document**, as `json.dumps` writes it with an indentation of two. -/
def write (v : Value) : Except WriteError Text := writeAt 0 v

end SynthDesk.Json
