/-
The grammar of documents.

Which texts are documents, and of what, is said here without a reader: how blanks,
numbers, strings and words are written, how items are put between brackets, and
how values are nested. A relation holds between a text and what it writes, so that
a text which writes nothing is refused by having no relation at all.

Beyond the grammar of JSON there are the three words for the doubles that are no
finite numbers, and half a surrogate pair as an escape. Below it there is a limit:
a whole number has no more digits than could be printed.
-/
import SynthDesk.Json.Reader

set_option autoImplicit false

namespace SynthDesk.Json

/-! ## Blanks -/

/-- Nothing but blanks. -/
def Blanks (s : Text) : Prop := ∀ c ∈ s, isBlank c = true

/-- A text with blanks around it. -/
def Spaced {α : Type} (R : Text → α → Prop) (s : Text) (a : α) : Prop :=
  ∃ before w after, s = before ++ (w ++ after) ∧ Blanks before ∧ Blanks after ∧ R w a

/-! ## Numbers -/

/-- Nothing but digits. -/
def Digits (s : Text) : Prop := ∀ c ∈ s, c.isDigit = true

/-- A minus, or no sign. -/
def sign (negative : Bool) : Text := if negative then [CodePoint.ofChar '-'] else []

/-- The number with its sign. -/
def signed (negative : Bool) (n : Nat) : Int := if negative then -n else n

/-- The whole part: one zero, or digits that start with another one. -/
inductive Whole : Text → Prop
  | zero : Whole [CodePoint.ofChar '0']
  | digits {c : CodePoint} {ds : Text} (hc : c.isDigit = true) (hzero : c ≠ '0')
    (hds : Digits ds) : Whole (c :: ds)

/-- Point and decimals, or neither. -/
inductive Fraction : Text → Text → Prop
  | absent : Fraction [] []
  | decimals {ds : Text} (hne : ds ≠ []) (hds : Digits ds) :
    Fraction (CodePoint.ofChar '.' :: ds) ds

/-- What may stand before the digits of an exponent, and whether it is negative. -/
inductive PowerSign : Text → Bool → Prop
  | absent : PowerSign [] false
  | plus : PowerSign [CodePoint.ofChar '+'] false
  | minus : PowerSign [CodePoint.ofChar '-'] true

/-- An exponent, or none. -/
inductive Exponent : Text → Option Int → Prop
  | absent : Exponent [] none
  | power {e : CodePoint} {s ds : Text} {negative : Bool} (he : e = 'e' ∨ e = 'E')
    (hs : PowerSign s negative) (hne : ds ≠ []) (hds : Digits ds) :
    Exponent (e :: (s ++ ds)) (some (signed negative (Text.natOfDigits ds)))

/-- **Numbers**: whole ones, and doubles, which have a fraction or an exponent. -/
inductive Number : Text → Value → Prop
  | whole (negative : Bool) {ds : Text} (hds : Whole ds) (hlimit : ds.length ≤ Value.digitLimit) :
    Number (sign negative ++ ds) (.int (signed negative (Text.natOfDigits ds)))
  | double (negative : Bool) {ds f decimals e : Text} {power : Option Int} (hds : Whole ds)
    (hf : Fraction f decimals) (he : Exponent e power) (hne : f ++ e ≠ []) :
    Number (sign negative ++ (ds ++ (f ++ e)))
      (.float (Binary64.ofDecimal negative (Text.natOfDigits (ds ++ decimals))
        (power.getD 0 - decimals.length)))

/-! ## Strings -/

/-- What stands between the quotes, and the code points that it writes, an escape
by itself each time. -/
inductive StringBody : Text → Text → Prop
  | nil : StringBody [] []
  | plain {c : CodePoint} {w us : Text} (hlow : 0x20 ≤ c.val) (hquote : c ≠ '"') (hblack : c ≠ '\\')
    (h : StringBody w us) : StringBody (c :: w) (c :: us)
  | letter {e u : CodePoint} {w us : Text} (he : escaped? e = some u) (h : StringBody w us) :
    StringBody (CodePoint.ofChar '\\' :: e :: w) (u :: us)
  | unit {x y z k u : CodePoint} {w us : Text} (hu : unit? x y z k = some u) (h : StringBody w us) :
    StringBody (CodePoint.ofChar '\\' :: CodePoint.ofChar 'u' :: x :: y :: z :: k :: w) (u :: us)

/-- **Strings.** Halves that make a pair are one code point. -/
inductive IsString : Text → Text → Prop
  | quoted {body us : Text} (h : StringBody body us) :
    IsString (CodePoint.ofChar '"' :: (body ++ [CodePoint.ofChar '"'])) (joinHalves us)

/-- Values without parts. -/
inductive Scalar : Text → Value → Prop
  | text {w t : Text} (h : IsString w t) : Scalar w (.text t)
  | word {w : Text} {v : Value} (h : (w, v) ∈ words) : Scalar w v
  | number {w : Text} {v : Value} (h : Number w v) : Scalar w v

/-! ## Brackets -/

/-- Items with commas between them, and blanks around each. -/
inductive Listed {α : Type} (item : Text → α → Prop) : Text → List α → Prop
  | one {w : Text} {a : α} (h : Spaced item w a) : Listed item w [a]
  | more {w r : Text} {a : α} {as : List α} (h : Spaced item w a) (hr : Listed item r as) :
    Listed item (w ++ CodePoint.ofChar ',' :: r) (a :: as)

/-- What follows an opening bracket: no items or some, and the closing bracket. -/
inductive Bracketed {α : Type} (item : Text → α → Prop) (close : CodePoint) :
    Text → List α → Prop
  | empty {b : Text} (hb : Blanks b) : Bracketed item close (b ++ [close]) []
  | listed {w : Text} {as : List α} (h : Listed item w as) : Bracketed item close (w ++ [close]) as

/-- A name, a colon, a value. -/
inductive Field (value : Text → Value → Prop) : Text → Text × Value → Prop
  | mk {n b b' w : Text} {name : Text} {v : Value} (hn : IsString n name) (hb : Blanks b)
    (hb' : Blanks b') (hv : value w v) :
    Field value (n ++ (b ++ CodePoint.ofChar ':' :: (b' ++ w))) (name, v)

/-! ## Values -/

/-- Values of which the parts are written in a given way. -/
inductive Nested (value : Text → Value → Prop) : Text → Value → Prop
  | scalar {w : Text} {v : Value} (h : Scalar w v) : Nested value w v
  | list {w : Text} {items : List Value} (h : Bracketed value ']' w items) :
    Nested value (CodePoint.ofChar '[' :: w) (.list items)
  | object {w : Text} {pairs : List (Text × Value)} (h : Bracketed (Field value) '\x7d' w pairs) :
    Nested value (CodePoint.ofChar '\x7b' :: w) (.object (Keyed.ofPairs pairs))

/-- **Values** of at most so many levels. -/
def Written : Nat → Text → Value → Prop
  | 0 => Scalar
  | levels + 1 => Nested (Written levels)

/-- An object of at most so many levels and one more, with all its fields in order,
whether or not their names are different. -/
inductive WrittenObject (levels : Nat) : Text → List (Text × Value) → Prop
  | mk {w : Text} {pairs : List (Text × Value)}
    (h : Bracketed (Field (Written levels)) '\x7d' w pairs) :
    WrittenObject levels (CodePoint.ofChar '\x7b' :: w) pairs

/-- **Documents**: one value with nothing but blanks around it. -/
def IsDocument (levels : Nat) : Text → Value → Prop := Spaced (Written levels)

/-- The documents that are objects. -/
def IsObject (levels : Nat) : Text → List (Text × Value) → Prop := Spaced (WrittenObject levels)

end SynthDesk.Json
