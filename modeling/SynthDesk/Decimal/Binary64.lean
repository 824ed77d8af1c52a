/-
Numbers of the double format, read exactly from decimal numerals.

A finite number is kept as sign, significand and exponent, so that its value
is a rational number that proofs can name. Reading rounds the decimal value to
the nearest double, a tie to the even significand, in exact arithmetic on
natural numbers; nothing passes through machine floating point.
-/
import SynthDesk.Text.Numeral

set_option autoImplicit false

namespace SynthDesk

/-- A double: not a number, an infinity, or plus or minus
`significand · 2 ^ exponent`. -/
inductive Binary64
  | nan
  | infinite (negative : Bool)
  | finite (negative : Bool) (significand : Nat) (exponent : Int)
deriving DecidableEq, Repr

namespace Binary64

/-- The exponent of the smallest numbers. -/
def leastExponent : Int := -1074

/-- The exponent of the largest numbers. -/
def greatestExponent : Int := 971

/-- Zero, with a sign. -/
def zero (negative : Bool) : Binary64 := .finite negative 0 leastExponent

/-- `2 ^ e` as a fraction. -/
def powerOfTwo (e : Int) : Nat × Nat :=
  if e < 0 then (1, Nat.pow 2 e.natAbs) else (Nat.pow 2 e.natAbs, 1)

/-- `num / den` rounded to a whole number, a half to the even neighbour. -/
def roundQuotient (num den : Nat) : Nat :=
  let q := num / den
  let r := 2 * (num % den)
  if r < den then q
  else if den < r then q + 1
  else if q % 2 = 0 then q else q + 1

/-- The exponent at which `num / den` has a significand of 53 bits, or the
least one. -/
def exponentFor (num den : Nat) : Int :=
  let guess : Int := (Nat.log2 num : Int) - (Nat.log2 den : Int) - 52
  let (a, b) := powerOfTwo guess
  let e := if num * b < Nat.pow 2 52 * (den * a) then guess - 1 else guess
  max e leastExponent

/-- **Rounding.** The double nearest to `num / den`, with the given sign. -/
def ofQuotient (negative : Bool) (num den : Nat) : Binary64 :=
  if num = 0 then zero negative else
  let e := exponentFor num den
  let (a, b) := powerOfTwo e
  let m := roundQuotient (num * b) (den * a)
  let (m, e) := if m = Nat.pow 2 53 then (Nat.pow 2 52, e + 1) else (m, e)
  if greatestExponent < e then .infinite negative else .finite negative m e

/-- The double nearest to `digits · 10 ^ exponent`. Magnitudes beyond the
format are settled by their size alone. -/
def ofDecimal (negative : Bool) (digits : Nat) (exponent : Int) : Binary64 :=
  if digits = 0 then zero negative else
  let magnitude : Int := (Nat.toDigits 10 digits).length + exponent
  if 310 < magnitude then .infinite negative
  else if magnitude < -330 then zero negative
  else if exponent < 0 then ofQuotient negative digits (Nat.pow 10 exponent.natAbs)
  else ofQuotient negative (digits * Nat.pow 10 exponent.natAbs) 1

example : ofDecimal false 5 (-1) = .finite false (2 ^ 52) (-53) := by decide +kernel
example : ofDecimal true 1 400 = .infinite true := by decide +kernel

end Binary64

end SynthDesk
