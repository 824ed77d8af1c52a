/-
Cutting a text at a separator and joining pieces again.

A text with `n` separators has `n + 1` pieces, some of them perhaps empty;
joining the pieces with the same separator gives the text back.
-/
import SynthDesk.Text.Basic

set_option autoImplicit false

namespace SynthDesk.Text

/-- The pieces between the separators, never none. -/
def splitOn (sep : CodePoint) : Text → List Text
  | [] => [[]]
  | c :: r =>
    if c = sep then [] :: splitOn sep r
    else match splitOn sep r with
      | [] => [[c]]
      | p :: ps => (c :: p) :: ps

/-- The texts one after another, with a separator between neighbours. -/
def join (sep : Text) : List Text → Text
  | [] => []
  | [t] => t
  | t :: u :: r => t ++ sep ++ join sep (u :: r)

/-- The lines of a text: what stands between its line ends. -/
def lines (t : Text) : List Text := splitOn newline t

theorem splitOn_ne_nil (sep : CodePoint) (t : Text) : splitOn sep t ≠ [] := by
  induction t with
  | nil => simp [splitOn]
  | cons c r ih =>
    unfold splitOn
    split
    · simp
    · split <;> simp

/-- No piece holds the separator. -/
theorem not_mem_of_mem_splitOn {sep : CodePoint} {t p : Text} (h : p ∈ splitOn sep t) :
    sep ∉ p := by
  induction t generalizing p with
  | nil =>
    have : p = [] := by simpa [splitOn] using h
    simp [this]
  | cons c r ih =>
    unfold splitOn at h
    split at h
    · rcases List.mem_cons.mp h with rfl | h
      · simp
      · exact ih h
    · next hc =>
      cases hs : splitOn sep r with
      | nil => exact absurd hs (splitOn_ne_nil sep r)
      | cons q qs =>
        rw [hs] at h ih
        rcases List.mem_cons.mp h with rfl | h
        · intro hmem
          rcases List.mem_cons.mp hmem with rfl | hmem
          · exact hc rfl
          · exact ih (List.mem_cons_self ..) hmem
        · exact ih (List.mem_cons_of_mem _ h)

/-- **Cutting loses nothing.** -/
theorem join_splitOn (sep : CodePoint) (t : Text) : join [sep] (splitOn sep t) = t := by
  induction t with
  | nil => rfl
  | cons c r ih =>
    unfold splitOn
    have hne := splitOn_ne_nil sep r
    split
    · next h =>
      cases hs : splitOn sep r with
      | nil => exact absurd hs hne
      | cons p ps => rw [hs] at ih; simp [join, ih, h]
    · cases hs : splitOn sep r with
      | nil => exact absurd hs hne
      | cons p ps =>
        rw [hs] at ih
        cases ps with
        | nil => simpa [join] using ih
        | cons q qs => simpa [join] using ih

end SynthDesk.Text
