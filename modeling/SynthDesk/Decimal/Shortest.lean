/-
The shortest decimal that reads back as a double.

Every real number in an interval around a double rounds to it; the ends count
when the significand is even. On the grid of decimals with one digit, then two,
up to seventeen, the two neighbours of the number are tried, and the first grid
with a neighbour inside the interval gives the digits. Of two neighbours inside
it the nearer is taken, of two equally near the even one.

The digits are laid out positionally while the leading one stands between the
fourth place after the point and the sixteenth before it, otherwise with an
exponent of at least two digits. A whole number keeps one zero after the point.
-/
import SynthDesk.Decimal.Binary64

set_option autoImplicit false

namespace SynthDesk.Binary64

/-! ## The digits -/

/-- A positive decimal: `0.d₁d₂… · 10 ^ point`. -/
structure Digits where
  digits : Text
  point : Int
deriving DecidableEq, Repr

/-- `10 ^ e` as a fraction. -/
def powerOfTen (e : Int) : Nat × Nat :=
  if e < 0 then (1, Nat.pow 10 e.natAbs) else (Nat.pow 10 e.natAbs, 1)

/-- The number of digits of `num / den` before the decimal point; for a number
below one, minus the zeros that follow the point. -/
def pointOf (num den : Nat) : Int :=
  if den ≤ num then (Nat.toDigits 10 (num / den)).length
  else
    let k := (Nat.toDigits 10 (den / num)).length - 1
    if den ≤ num * Nat.pow 10 k then 1 - (k : Int) else -(k : Int)

/-- The point of the grid of `n` digits that reads back as
`significand · 2 ^ exponent`, if there is one: a whole number of units
`10 ^ unit`. -/
def onGrid (m : Nat) (e unit : Int) : Option Nat :=
  let (two, half) := powerOfTwo (e - 2)
  let (ten, tenth) := powerOfTen unit
  let scale := two * tenth
  let step := ten * half
  let value := 4 * m * scale
  let low := (if m = Nat.pow 2 52 ∧ leastExponent < e then 4 * m - 1 else 4 * m - 2) * scale
  let high := (4 * m + 2) * scale
  let inside (c : Nat) : Bool :=
    if m % 2 = 0 then low ≤ c * step && c * step ≤ high else low < c * step && c * step < high
  let below := value / step
  let above := below + 1
  match inside below && 0 < below, inside above with
  | true, true =>
    let down := value - below * step
    let up := above * step - value
    some (if down < up then below else if up < down then above
      else if below % 2 = 0 then below else above)
  | true, false => some below
  | false, true => some above
  | false, false => none

/-- **The shortest digits** of a positive double. Seventeen digits always
suffice. -/
def shortest (m : Nat) (e : Int) : Digits :=
  let (two, half) := powerOfTwo e
  let point := pointOf (m * two) half
  let hit := (List.range 17).findSome? fun (n : Nat) =>
    let unit : Int := point - (n + 1)
    (onGrid m e unit).map (·, unit)
  match hit with
  | none => ⟨[], 0⟩
  | some (c, unit) =>
    let written := Text.ofNat c
    let trimmed := (written.reverse.dropWhile (· = CodePoint.ofChar '0')).reverse
    ⟨trimmed, written.length + unit⟩

/-! ## The layout -/

/-- Digits with a point or an exponent. -/
def Digits.layout (d : Digits) : Text :=
  let zero := CodePoint.ofChar '0'
  let dot := CodePoint.ofChar '.'
  if -4 < d.point ∧ d.point ≤ 0 then
    zero :: dot :: (Text.fill d.point.natAbs zero ++ d.digits)
  else if 0 < d.point ∧ d.point ≤ 16 then
    let n := d.point.natAbs
    if d.digits.length ≤ n then d.digits ++ Text.fill (n - d.digits.length) zero ++ [dot, zero]
    else d.digits.take n ++ dot :: d.digits.drop n
  else
    let e := d.point - 1
    let mantissa := match d.digits with
      | [] => []
      | [c] => [c]
      | c :: r => c :: dot :: r
    let places := Text.ofNat e.natAbs
    mantissa ++ CodePoint.ofChar 'e' :: CodePoint.ofChar (if e < 0 then '-' else '+') ::
      (Text.fill (2 - places.length) zero ++ places)

/-- The three words for what is no finite number. -/
structure Words where
  nan : Text
  infinity : Text

/-- The text of a double: shortest digits, and the given words. -/
def render (words : Words) : Binary64 → Text
  | .nan => words.nan
  | .infinite negative =>
    if negative then CodePoint.ofChar '-' :: words.infinity else words.infinity
  | .finite negative m e =>
    let body : Text := if m = 0 then Text.ofString "0.0" else (shortest m e).layout
    if negative then CodePoint.ofChar '-' :: body else body

example : (ofDecimal false 1 16).render ⟨[], []⟩ = Text.ofString "1e+16" := by decide +kernel
example : (ofDecimal false 1 (-5)).render ⟨[], []⟩ = Text.ofString "1e-05" := by decide +kernel
example : (ofDecimal true 5 (-324)).render ⟨[], []⟩ = Text.ofString "-5e-324" := by decide +kernel
example : (ofDecimal false 1 2).render ⟨[], []⟩ = Text.ofString "100.0" := by decide +kernel
example : (ofDecimal false 1 (-1)).render ⟨[], []⟩ = Text.ofString "0.1" := by decide +kernel

end SynthDesk.Binary64
