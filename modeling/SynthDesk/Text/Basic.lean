/-
Text as the desk handles it: a list of code points.

Settings files can hold halves of surrogate pairs written as escapes, and a
half that was read has to be written back. `Char` has no room for them, so a
code point here is any number below `0x110000`, and a text is a list of them.
Everything the program compares, trims, splits and prints is such a text;
`String` appears only as the way literals are written.
-/
set_option autoImplicit false

namespace SynthDesk

/-! ## Code points -/

/-- A code point: a number below `0x110000`, the surrogates included. -/
abbrev CodePoint := Fin 0x110000

namespace CodePoint

/-- The code point of a character. -/
def ofChar (c : Char) : CodePoint :=
  ⟨c.toNat, by
    have := c.valid
    simp only [UInt32.isValidChar, Nat.isValidChar] at this
    change c.val.toNat < _
    omega⟩

instance : Coe Char CodePoint := ⟨ofChar⟩

/-- The code point with the given number, taken modulo the size of the code
space; callers pass numbers that are in range. -/
def ofNat (n : Nat) : CodePoint := Fin.ofNat 0x110000 n

/-- The mark that stands for what could not be decoded. -/
def replacement : CodePoint := ofNat 0xFFFD

/-- The first half of a surrogate pair. -/
def isHighSurrogate (c : CodePoint) : Bool := 0xD800 ≤ c.val && c.val ≤ 0xDBFF

/-- The second half of a surrogate pair. -/
def isLowSurrogate (c : CodePoint) : Bool := 0xDC00 ≤ c.val && c.val ≤ 0xDFFF

/-- A decimal digit of the ASCII range. -/
def isDigit (c : CodePoint) : Bool := 48 ≤ c.val && c.val ≤ 57

/-- The code point lies in one of the ranges, ends included. -/
def isIn (ranges : List (Nat × Nat)) (c : CodePoint) : Bool :=
  ranges.any fun r => r.1 ≤ c.val && c.val ≤ r.2

/-- The character, if the code point is not a surrogate. -/
def toChar? (c : CodePoint) : Option Char :=
  if h : c.val.isValidChar then some (Char.ofNatAux c.val h) else none

end CodePoint

/-! ## Texts -/

/-- A text: code points in reading order. -/
abbrev Text := List CodePoint

namespace Text

/-- The text of a literal. -/
def ofString (s : String) : Text := s.toList.map CodePoint.ofChar

instance : Coe String Text := ⟨ofString⟩

/-- The text as a string, surrogates shown by the replacement mark. -/
def toString (t : Text) : String :=
  String.ofList (t.map fun c => c.toChar?.getD (Char.ofNat 0xFFFD))

/-- One line end. -/
def newline : CodePoint := CodePoint.ofChar '\n'

/-- `n` copies of a code point. -/
def fill (n : Nat) (c : CodePoint) : Text := List.replicate n c

/-- Code points in ascending order, a shorter text before its extensions: the
order in which names are listed. -/
def precedes (a b : Text) : Bool :=
  match a, b with
  | [], _ => true
  | _ :: _, [] => false
  | x :: xs, y :: ys => if x.val < y.val then true
    else if y.val < x.val then false
    else precedes xs ys

/-- The text after an initial part, if it starts with it. -/
def after? : Text → Text → Option Text
  | [], t => some t
  | _ :: _, [] => none
  | p :: ps, c :: cs => if p = c then after? ps cs else none

/-- The initial part after which `after?` continues was there. -/
theorem after?_eq_some_iff {p t r : Text} : after? p t = some r ↔ t = p ++ r := by
  induction p generalizing t with
  | nil => simp [after?, eq_comm]
  | cons x xs ih =>
    cases t with
    | nil => simp [after?]
    | cons c cs =>
      by_cases h : x = c
      · simp [after?, h, ih]
      · simp [after?, h, Ne.symm h]

end Text

end SynthDesk
