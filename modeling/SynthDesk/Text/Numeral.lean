/-
Whole numbers as digits.

Decimal and hexadecimal numerals, most significant digit first and without
leading zeros unless a width asks for them; a sign stands before the digits of
a negative number only.
-/
import SynthDesk.Text.Basic

set_option autoImplicit false

namespace SynthDesk.Text

/-- The decimal numeral of a natural number. -/
def ofNat (n : Nat) : Text := (Nat.toDigits 10 n).map CodePoint.ofChar

/-- The decimal numeral of an integer. -/
def ofInt (i : Int) : Text :=
  if i < 0 then CodePoint.ofChar '-' :: ofNat i.natAbs else ofNat i.natAbs

/-- The small letter or digit of a value below sixteen. -/
def hexDigit (n : Nat) : CodePoint :=
  if n < 10 then CodePoint.ofNat (48 + n) else CodePoint.ofNat (87 + n)

/-- The last `width` hexadecimal digits of a number. -/
def hex : Nat → Nat → Text
  | 0, _ => []
  | width + 1, n => hexDigit (n / Nat.pow 16 width % 16) :: hex width n

/-- The value of a hexadecimal digit of either case. -/
def hexValue? (c : CodePoint) : Option Nat :=
  if 48 ≤ c.val && c.val ≤ 57 then some (c.val - 48)
  else if 97 ≤ c.val && c.val ≤ 102 then some (c.val - 87)
  else if 65 ≤ c.val && c.val ≤ 70 then some (c.val - 55)
  else none

/-- The number that a run of decimal digits writes. -/
def natOfDigits (t : Text) : Nat := t.foldl (fun n c => 10 * n + (c.val - 48)) 0

end SynthDesk.Text
