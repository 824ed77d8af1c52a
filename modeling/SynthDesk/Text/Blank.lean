/-
White space of the Unicode kind, and trimming.

A code point is blank when Unicode counts it as white space, or when it is one
of the four information separators U+001C to U+001F, which separate text just
as line ends do. Trimming removes blanks at both ends and touches nothing
between them.
-/
import SynthDesk.Text.Basic

set_option autoImplicit false

namespace SynthDesk

/-! ## The class -/

namespace CodePoint

/-- White space: the ASCII controls that move the cursor, the information
separators, the blank, and the spaces and separators of Unicode. -/
def isBlank (c : CodePoint) : Bool :=
  (0x09 ≤ c.val && c.val ≤ 0x0D) || (0x1C ≤ c.val && c.val ≤ 0x20) ||
  c.val = 0x85 || c.val = 0xA0 || c.val = 0x1680 ||
  (0x2000 ≤ c.val && c.val ≤ 0x200A) || c.val = 0x2028 || c.val = 0x2029 ||
  c.val = 0x202F || c.val = 0x205F || c.val = 0x3000

end CodePoint

/-! ## Trimming -/

namespace Text

/-- The text without the blanks before it. -/
def stripStart (t : Text) : Text := t.dropWhile CodePoint.isBlank

/-- The text without the blanks after it. -/
def stripEnd (t : Text) : Text := (t.reverse.dropWhile CodePoint.isBlank).reverse

/-- **Trimming.** The text without the blanks at its two ends. -/
def strip (t : Text) : Text := stripEnd (stripStart t)

/-- Nothing but blanks. -/
def isBlank (t : Text) : Bool := t.all CodePoint.isBlank

end Text

end SynthDesk
