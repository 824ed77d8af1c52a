/-
Names as the system takes them.

The system knows names by their octets. A name that came from the system with octets
that are no UTF-8 has, for each of them, one of the code points from U+DC80 to U+DCFF,
and gives that octet back; any other half of a surrogate pair stands for no octet, and a
text with one names nothing. Nor does a text with U+0000, at which a name ends.
-/
import SynthDesk.Text.Coding

set_option autoImplicit false

namespace SynthDesk

/-- Why a text is no name. -/
inductive NameFault
  /-- It holds U+0000. -/
  | nul
  /-- It holds halves of surrogate pairs that stand for no octets. -/
  | noOctets (e : Utf8.Unwritten)
deriving DecidableEq, Repr

/-- How the fault reads. -/
def NameFault.message : NameFault → Text
  | nul => "embedded null byte"
  | noOctets e => e.message

namespace Name

/-- The code point stands for one octet that is no UTF-8. -/
def isStrayOctet (c : CodePoint) : Bool := 0xDC80 ≤ c.val && c.val ≤ 0xDCFF

/-- The octets of a code point in a name. -/
def pointOctets (c : CodePoint) : List Octet :=
  if isStrayOctet c then [Utf8.octet (c.val - 0xDC00)] else Utf8.encodePoint c

/-- The octets of a name. -/
def octets (t : Text) : List Octet := t.flatMap pointOctets

/-- A hundred octets that are no UTF-8 are a hundred octets. -/
example : (octets (Text.fill 100 (CodePoint.ofNat 0xDCE9))).length = 100 := by decide +kernel

/-- The name holds U+0000 and so names nothing. -/
def hasNul (t : Text) : Bool := t.any fun c => c.val = 0

/-- Half of a surrogate pair that stands for no octet. -/
def lacksOctets (c : CodePoint) : Bool := Utf8.isHalf c && !isStrayOctet c

/-- **Why a text is no name**, whatever the tree holds: what lacks octets counts before U+0000. -/
def fault? (t : Text) : Option NameFault :=
  match Utf8.firstOf lacksOctets t with
  | some e => some (.noOctets e)
  | none => if hasNul t then some .nul else none

/-- A text without halves of pairs and without U+0000 is a name. -/
theorem fault?_eq_none {t : Text} (hnul : hasNul t = false)
    (hoctets : ∀ c ∈ t, lacksOctets c = false) : fault? t = none := by
  rw [fault?, Utf8.firstOf_eq_none_iff.mpr hoctets, hnul]
  rfl

/-- The second of these halves stands for an octet, the others for none. -/
example : (fault? [0x2F, 0xDC80, 0xD800, 0xDC80, 0x7A]).map NameFault.message =
    some "'utf-8' codec can't encode characters in position 2-3: surrogates not allowed" := by
  decide +kernel

end Name

end SynthDesk
