/-
The screen that the program prints on.

Three things of it matter: how many columns it has, which pictures it knows by name, and
whether it refuses a text that UTF-8 has no octets for.
-/
import SynthDesk.Console.Emoji
import SynthDesk.Text.Coding

set_option autoImplicit false

namespace SynthDesk.Console

/-- A screen, as `Console()` finds it. -/
structure Screen where
  columns : Nat
  /-- Panels have room for a letter between their edges. -/
  roomy : 4 < columns
  pictures : Emoji.Table
  /-- What has no octets is refused, and not written in some other way. -/
  strict : Bool
deriving DecidableEq, Repr

namespace Screen

/-- A screen of eighty columns, which is what is taken where nothing is known. -/
def common (pictures : Emoji.Table) (strict : Bool) : Screen := ⟨80, by decide, pictures, strict⟩

/-- **What of a text the screen refuses.** -/
def refused? (s : Screen) (t : Text) : Option Utf8.Unwritten :=
  if s.strict then Utf8.unwritten? t else none

/-- How a refusal of the screen reads. -/
def refusalMessage (e : Utf8.Unwritten) : Text :=
  e.message ++ Text.newline ::
    Text.ofString "*** You may need to add PYTHONIOENCODING=utf-8 to your environment ***"

/-- A screen that is not strict refuses nothing. -/
theorem refused?_of_not_strict {s : Screen} (h : s.strict = false) (t : Text) :
    s.refused? t = none := by
  rw [refused?, h]
  rfl

/-- A text without halves of pairs is refused by no screen. -/
theorem refused?_of_no_half (s : Screen) {t : Text} (h : ∀ c ∈ t, Utf8.isHalf c = false) :
    s.refused? t = none := by
  rw [refused?, Utf8.unwritten?, Utf8.firstOf_eq_none_iff.mpr h]
  exact ite_self none

end Screen

end SynthDesk.Console
