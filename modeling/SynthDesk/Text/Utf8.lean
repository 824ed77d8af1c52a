/-
Octets and UTF-8.

Decoding runs a machine over the octets. Between code points the machine holds
nothing; inside one it holds what the lead octet announced: the value gathered
so far, how many continuation octets are still owed, and the range in which
the next one has to lie. The range is narrower than `80..BF` only after `E0`,
`ED`, `F0` and `F4`, which is what keeps overlong forms, surrogates and values
past the code space out.

Each octet yields a list of results: a code point when one is complete, and
`none` where the octets cannot be continued. A sequence that breaks off gives
one `none` for all of its octets, and the octet that broke it is read afresh.
Two readings share the machine: the strict one, which has a text only when
there is no `none`, and the lenient one, which puts the replacement mark in
the place of each.
-/
import SynthDesk.Text.Basic

set_option autoImplicit false

namespace SynthDesk

/-- Eight bits of a file or a stream. -/
abbrev Octet := Fin 256

namespace Utf8

/-! ## Writing -/

/-- The octet with the given number, taken modulo 256. -/
def octet (n : Nat) : Octet := Fin.ofNat 256 n

/-- One code point in one to four octets. A surrogate, which UTF-8 has no place
for, is written in the three-octet shape, and no reading accepts it. -/
def encodePoint (c : CodePoint) : List Octet :=
  let n := c.val
  if n < 0x80 then [octet n]
  else if n < 0x800 then [octet (0xC0 + n / 0x40), octet (0x80 + n % 0x40)]
  else if n < 0x10000 then
    [octet (0xE0 + n / 0x1000), octet (0x80 + n / 0x40 % 0x40), octet (0x80 + n % 0x40)]
  else
    [octet (0xF0 + n / 0x40000), octet (0x80 + n / 0x1000 % 0x40),
      octet (0x80 + n / 0x40 % 0x40), octet (0x80 + n % 0x40)]

/-- The octets of a text. -/
def encode (t : Text) : List Octet := t.flatMap encodePoint

/-! ## Reading -/

/-- A code point that has begun. -/
structure Pending where
  /-- The bits gathered so far. -/
  value : Nat
  /-- Continuation octets owed after the next one. -/
  more : Nat
  /-- The least octet that may come next. -/
  low : Nat
  /-- The greatest octet that may come next. -/
  high : Nat
deriving DecidableEq, Repr

/-- What the machine has put out and where it stands. -/
abbrev Step := List (Option CodePoint) × Option Pending

/-- An octet read between code points. -/
def start (b : Octet) : Step :=
  let n := b.val
  if n < 0x80 then ([some (CodePoint.ofNat n)], none)
  else if n < 0xC2 then ([none], none)
  else if n < 0xE0 then ([], some ⟨n - 0xC0, 0, 0x80, 0xBF⟩)
  else if n = 0xE0 then ([], some ⟨0, 1, 0xA0, 0xBF⟩)
  else if n = 0xED then ([], some ⟨0xD, 1, 0x80, 0x9F⟩)
  else if n < 0xF0 then ([], some ⟨n - 0xE0, 1, 0x80, 0xBF⟩)
  else if n = 0xF0 then ([], some ⟨0, 2, 0x90, 0xBF⟩)
  else if n < 0xF4 then ([], some ⟨n - 0xF0, 2, 0x80, 0xBF⟩)
  else if n = 0xF4 then ([], some ⟨4, 2, 0x80, 0x8F⟩)
  else ([none], none)

/-- An octet read in any state. -/
def step : Option Pending → Octet → Step
  | none, b => start b
  | some p, b =>
    if p.low ≤ b.val ∧ b.val ≤ p.high then
      let value := p.value * 0x40 + (b.val - 0x80)
      match p.more with
      | 0 => ([some (CodePoint.ofNat value)], none)
      | n + 1 => ([], some ⟨value, n, 0x80, 0xBF⟩)
    else (none :: (start b).1, (start b).2)

/-- The results of all octets from a state on; what is pending at the end is
broken off there. -/
def run : Option Pending → List Octet → List (Option CodePoint)
  | none, [] => []
  | some _, [] => [none]
  | p, b :: r => (step p b).1 ++ run (step p b).2 r

/-- The code points of the octets, `none` for each part that is no code point. -/
def points (bs : List Octet) : List (Option CodePoint) := run none bs

/-- All results, if none of them is missing. -/
def complete : List (Option CodePoint) → Option Text
  | [] => some []
  | none :: _ => none
  | some c :: r => (complete r).map (c :: ·)

/-- **Strict reading.** The text, if the octets are UTF-8 throughout. -/
def decode? (bs : List Octet) : Option Text := complete (points bs)

/-- **Lenient reading.** The text, a replacement mark for each part that is no
code point. -/
def decodeLossy (bs : List Octet) : Text := (points bs).map (·.getD CodePoint.replacement)

/-- Writing goes text by text. -/
theorem encode_append (a b : Text) : encode (a ++ b) = encode a ++ encode b := by
  simp [encode]

end Utf8

end SynthDesk
