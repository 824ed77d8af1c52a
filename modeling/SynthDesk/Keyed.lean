/-
Values under names, in the order in which the names first appeared.

Putting a value under a name that is there already replaces the value and
keeps the place; looking a name up gives the value last put.
-/
import SynthDesk.Text.Basic

set_option autoImplicit false

namespace SynthDesk

/-- Pairs of a name and a value. -/
abbrev Keyed (α : Type) := List (Text × α)

namespace Keyed

variable {α : Type}

/-- The value under a name. -/
def get? (k : Text) : Keyed α → Option α
  | [] => none
  | (n, v) :: r => if n = k then some v else get? k r

/-- The value put under the name: in the name's place, or at the end. -/
def put (k : Text) (v : α) : Keyed α → Keyed α
  | [] => [(k, v)]
  | (n, w) :: r => if n = k then (n, v) :: r else (n, w) :: put k v r

/-- All pairs put one after another. -/
def ofPairs (pairs : List (Text × α)) : Keyed α :=
  pairs.foldl (fun m p => put p.1 p.2 m) []

/-- The names in order. -/
def names (m : Keyed α) : List Text := m.map Prod.fst

theorem get?_put_self (k : Text) (v : α) (m : Keyed α) : get? k (put k v m) = some v := by
  induction m with
  | nil => simp [put, get?]
  | cons p r ih =>
    obtain ⟨n, w⟩ := p
    by_cases h : n = k <;> simp [put, get?, h, ih]

theorem get?_put_of_ne {k l : Text} (h : l ≠ k) (v : α) (m : Keyed α) :
    get? l (put k v m) = get? l m := by
  induction m with
  | nil => simp [put, get?, h.symm]
  | cons p r ih =>
    obtain ⟨n, w⟩ := p
    by_cases hn : n = k
    · simp [put, get?, hn, h.symm]
    · simp [put, get?, hn, ih]

end Keyed

end SynthDesk
