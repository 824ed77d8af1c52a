/-
Numbers as they are written in a literal.

A number is decimal, whole or with a fraction, an exponent or a `j` after it;
or it is whole and hexadecimal, octal or binary. A low line may stand between
two digits. A number has to end where a name could not go on, except for the
few words that can follow one directly.
-/
import SynthDesk.Text.Numeral

set_option autoImplicit false

namespace SynthDesk.Literal

/-- A code point that could stand in a name; whether one outside of ASCII may
is settled later. -/
def isWordPart (c : CodePoint) : Bool :=
  c.isDigit || c = '_' || (65 ≤ c.val && c.val ≤ 90) || (97 ≤ c.val && c.val ≤ 122) || 128 ≤ c.val

/-- A code point that a name could begin with. -/
def beginsWord (c : CodePoint) : Bool := isWordPart c && !c.isDigit

/-- The text starts with the letter of either case. -/
def startsWith (small large : Char) (t : Text) : Bool :=
  t.head? = some (CodePoint.ofChar small) || t.head? = some (CodePoint.ofChar large)

/-- The text starts with a decimal digit. -/
def startsWithDigit (t : Text) : Bool := t.head?.any CodePoint.isDigit

namespace Numeral

/-- Words that may follow a number directly. -/
def followers : List String := ["and", "else", "for", "not", "or"]

/-- What words that may follow a number directly can start with. -/
def followingStarts : List String := ["if", "in", "is"]

/-- The text starts with a word that may follow a number directly. -/
def isFollowed (t : Text) : Bool :=
  followingStarts.any (fun w => (Text.after? (Text.ofString w) t).isSome) ||
    followers.any fun w =>
      (Text.after? (Text.ofString w) t).any fun r => !r.head?.any isWordPart

/-- **What comes after a number**: a word only if it is one of those that may.
What is outside of ASCII is looked at later. -/
def ended (kind : String) (t : Text) : Except Text Text :=
  if isFollowed t then .ok t
  else if t.head?.any fun c => isWordPart c && c.val < 128 then
    .error (Text.ofString s!"invalid {kind} literal")
  else .ok t

/-- The rest after digits with single low lines between them; fails with the
rest after a low line that no digit follows. -/
def digits (isDigit : CodePoint → Bool) : Text → Except Text Text
  | [] => .ok []
  | c :: r =>
    if isDigit c then digits isDigit r
    else if c = '_' then if r.head?.any isDigit then digits isDigit r else .error r
    else .ok (c :: r)

/-- The rest after decimal digits. -/
def decimals (t : Text) : Except Text Text :=
  match digits CodePoint.isDigit t with
  | .ok r => .ok r
  | .error _ => .error (Text.ofString "invalid decimal literal")

/-- What is said of a digit that the radix does not have, or of no digit. -/
def badDigit (kind : String) (t : Text) : Text :=
  match t with
  | [] => Text.ofString s!"invalid {kind} literal"
  | c :: _ =>
    if c.isDigit then
      Text.ofString "invalid digit '" ++ [c] ++ Text.ofString s!"' in {kind} literal"
    else Text.ofString s!"invalid {kind} literal"

/-- The rest after the digits of a radix; the first may follow a low line. -/
def radix (kind : String) (isDigit : CodePoint → Bool) (t : Text) : Except Text Text :=
  let t := if t.head? = some (CodePoint.ofChar '_') then t.tail else t
  if !t.head?.any isDigit then .error (badDigit kind t)
  else
    match digits isDigit t with
    | .error r => .error (badDigit kind r)
    | .ok r => if startsWithDigit r then .error (badDigit kind r) else ended kind r

/-- The rest after an imaginary number, from its letter on. -/
def imaginary (t : Text) : Except Text Text := ended "imaginary" t.tail

/-- The rest from an exponent, a `j` or the end on. -/
def afterFraction (t : Text) : Except Text Text :=
  let closing (r : Text) : Except Text Text :=
    if startsWith 'j' 'J' r then imaginary r else ended "decimal" r
  if startsWith 'e' 'E' t then
    let r := t.tail
    if startsWith '+' '-' r then
      if startsWithDigit r.tail then do closing (← decimals r.tail)
      else .error (Text.ofString "invalid decimal literal")
    else if startsWithDigit r then do closing (← decimals r)
    else ended "decimal" t
  else closing t

/-- The rest from after a point on. The digits may be missing, and no low line
can come before them. -/
def fraction (t : Text) : Except Text Text :=
  if startsWithDigit t then do afterFraction (← decimals t) else afterFraction t

/-- The rest after the zeros at the start of a number, low lines passed. -/
def zeros : Text → Except Text Text
  | [] => .ok []
  | c :: r =>
    if c = '0' then zeros r
    else if c = '_' then
      if startsWithDigit r then zeros r else .error (Text.ofString "invalid decimal literal")
    else .ok (c :: r)

/-- What is said of a decimal number that starts with zero. -/
def leadingZeros : Text := Text.ofString
  ("leading zeros in decimal integer literals are not permitted; " ++
    "use an 0o prefix for octal integers")

/-- The rest after a number that starts with zero and has no letter for a
radix. -/
def fromZero (t : Text) : Except Text Text := do
  let r ← zeros t
  let rest ← if startsWithDigit r then decimals r else pure r
  if rest.head? = some (CodePoint.ofChar '.') then fraction rest.tail
  else if startsWith 'e' 'E' rest then afterFraction rest
  else if startsWith 'j' 'J' rest then imaginary rest
  else if startsWithDigit r then .error leadingZeros
  else ended "decimal" rest

/-- **The rest after the number** that a text starts with, which is a digit or a
point before one. -/
def rest (t : Text) : Except Text Text :=
  if t.head? = some (CodePoint.ofChar '.') then fraction t.tail
  else if t.head? = some (CodePoint.ofChar '0') then
    let r := t.tail
    if startsWith 'x' 'X' r then radix "hexadecimal" (fun c => (Text.hexValue? c).isSome) r.tail
    else if startsWith 'o' 'O' r then radix "octal" (fun c => 48 ≤ c.val && c.val ≤ 55) r.tail
    else if startsWith 'b' 'B' r then radix "binary" (fun c => c.val = 48 || c.val = 49) r.tail
    else fromZero t
  else do
    let r ← decimals t
    if r.head? = some (CodePoint.ofChar '.') then fraction r.tail else afterFraction r

end Numeral

/-! ## What a number is -/

/-- A number as far as it matters: the value of a whole one only. -/
inductive Number
  | whole (value : Nat)
  | real
  | imaginary
deriving DecidableEq, Repr

namespace Number

/-- The value of digits of a radix. -/
def valueIn (radix : Nat) (t : Text) : Nat :=
  t.foldl (fun n c => radix * n + (Text.hexValue? c).getD 0) 0

/-- The number of digits that a decimal number may have. -/
def mostDigits : Nat := 4300

/-- What is said of a decimal number with too many digits. -/
def tooLong (digits : Nat) : Text :=
  Text.ofString "Exceeds the limit (4300 digits) for integer string conversion: value has " ++
    Text.ofNat digits ++
    Text.ofString (" digits; use sys.set_int_max_str_digits() to increase the limit - " ++
      "Consider hexadecimal for huge integer literals to avoid decimal conversion limits.")

/-- **The number that a numeral writes**, or what is said of one that is too
long. -/
def ofNumeral (t : Text) : Except Text Number :=
  let t := t.filter fun c => c ≠ CodePoint.ofChar '_'
  if t.head? = some (CodePoint.ofChar '0') && startsWith 'x' 'X' t.tail then
    .ok (.whole (valueIn 16 (t.drop 2)))
  else if t.head? = some (CodePoint.ofChar '0') && startsWith 'o' 'O' t.tail then
    .ok (.whole (valueIn 8 (t.drop 2)))
  else if t.head? = some (CodePoint.ofChar '0') && startsWith 'b' 'B' t.tail then
    .ok (.whole (valueIn 2 (t.drop 2)))
  else if t.getLast?.any fun c => startsWith 'j' 'J' [c] then .ok .imaginary
  else if !t.all CodePoint.isDigit then .ok .real
  else if mostDigits < t.length then .error (tooLong t.length)
  else .ok (.whole (valueIn 10 t))

end Number

end SynthDesk.Literal
