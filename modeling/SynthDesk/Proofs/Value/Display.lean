/-
Values that have a display.

A value is shown piece by piece, and only a whole number can refuse: one with more digits than
may be printed, wherever it stands. So whether a value has a display can be said without
showing it, by the size of its numbers.
-/
import SynthDesk.Value.Display
import Mathlib.Algebra.Group.Nat.Defs
import Mathlib.Data.List.Basic

set_option autoImplicit false

namespace SynthDesk.Value

/-- **There is a number too long for print in the value**: the value itself, or one inside. -/
inductive Oversized : Value → Prop
  | int {i : Int} : 10 ^ digitLimit ≤ i.natAbs → Oversized (.int i)
  | item {items : List Value} {v : Value} : v ∈ items → Oversized v → Oversized (.list items)
  | field {fields : List (Text × Value)} {k : Text} {v : Value} :
    (k, v) ∈ fields → Oversized v → Oversized (.object fields)

theorem oversized_int_iff {i : Int} : Oversized (.int i) ↔ 10 ^ digitLimit ≤ i.natAbs := by
  constructor
  · rintro ⟨h⟩
    assumption
  · exact .int

theorem oversized_list_iff {items : List Value} :
    Oversized (.list items) ↔ ∃ v ∈ items, v.Oversized := by
  constructor
  · rintro (_ | ⟨hmem, hv⟩)
    exact ⟨_, hmem, hv⟩
  · rintro ⟨v, hmem, hv⟩
    exact .item hmem hv

theorem oversized_object_iff {fields : List (Text × Value)} :
    Oversized (.object fields) ↔ ∃ p ∈ fields, p.2.Oversized := by
  constructor
  · rintro (_ | _ | ⟨hmem, hv⟩)
    exact ⟨_, hmem, hv⟩
  · rintro ⟨⟨k, v⟩, hmem, hv⟩
    exact .field hmem hv

/-! ## Refusals -/

/-- A numeral is refused by its length, and that is by the size of the number. -/
theorem numeral_eq_error_iff {i : Int} : numeral i = .error .mk ↔ 10 ^ digitLimit ≤ i.natAbs := by
  have hlength : digitLimit < (Text.ofNat i.natAbs).length ↔ 10 ^ digitLimit ≤ i.natAbs := by
    have hle := Nat.length_toDigits_le_iff (n := i.natAbs) (b := 10) (k := digitLimit)
      (by decide) (by decide)
    rw [Text.ofNat, List.length_map]
    exact Nat.not_le.symm.trans ((not_congr hle).trans Nat.not_lt)
  rw [← hlength, numeral]
  by_cases hlong : digitLimit < (Text.ofNat i.natAbs).length
  · simp only [hlong, if_true]
  · simp only [hlong, if_false, reduceCtorEq]

section Refusals

variable {α β γ : Type}

/-- What is made of one display is refused with it. -/
theorem map_eq_error_iff {x : Except TooManyDigits α} (f : α → β) :
    (do return f (← x)) = .error .mk ↔ x = .error .mk := by
  cases x with
  | error e => exact iff_of_true rfl rfl
  | ok a => exact iff_of_false (fun h => by cases h) (fun h => by cases h)

/-- What is made of two displays is refused with either. -/
theorem map₂_eq_error_iff {x : Except TooManyDigits α} {y : Except TooManyDigits β}
    (f : α → β → γ) :
    (do let a ← x; return f a (← y)) = .error .mk ↔ x = .error .mk ∨ y = .error .mk := by
  cases x with
  | error e => exact iff_of_true rfl (.inl rfl)
  | ok a =>
    rw [or_iff_right (fun h => by cases h), ← map_eq_error_iff (f a)]
    rfl

end Refusals

mutual

theorem displayInside_eq_error_iff : ∀ v : Value, displayInside v = .error .mk ↔ v.Oversized
  | .null => iff_of_false (fun h => by cases h) (fun h => by cases h)
  | .bool _ => iff_of_false (fun h => by cases h) (fun h => by cases h)
  | .float _ => iff_of_false (fun h => by cases h) (fun h => by cases h)
  | .text _ => iff_of_false (fun h => by cases h) (fun h => by cases h)
  | .foreign _ _ _ _ => iff_of_false (fun h => by cases h) (fun h => by cases h)
  | .int i => by rw [displayInside, numeral_eq_error_iff, oversized_int_iff]
  | .list items => by
    rw [displayInside, map_eq_error_iff, displayItems_eq_error_iff items, oversized_list_iff]
  | .object fields => by
    rw [displayInside, map_eq_error_iff, displayFields_eq_error_iff fields, oversized_object_iff]

theorem displayItems_eq_error_iff :
    ∀ items : List Value, displayItems items = .error .mk ↔ ∃ v ∈ items, v.Oversized
  | [] => iff_of_false (fun h => by cases h) (fun ⟨_, h, _⟩ => by cases h)
  | v :: r => by
    rw [displayItems, map₂_eq_error_iff, displayInside_eq_error_iff v,
      displayItems_eq_error_iff r, List.exists_mem_cons_iff]

theorem displayFields_eq_error_iff :
    ∀ fields : List (Text × Value),
      displayFields fields = .error .mk ↔ ∃ p ∈ fields, p.2.Oversized
  | [] => iff_of_false (fun h => by cases h) (fun ⟨_, h, _⟩ => by cases h)
  | (k, v) :: r => by
    rw [displayFields, map₂_eq_error_iff, displayInside_eq_error_iff v,
      displayFields_eq_error_iff r, List.exists_mem_cons_iff]

end

/-- **A value has a display, unless there is a number too long for print in it.** -/
theorem exists_display_iff {v : Value} : (∃ t, v.display = .ok t) ↔ ¬ v.Oversized := by
  have hinside : v.display = .error .mk ↔ v.Oversized := by
    rw [← displayInside_eq_error_iff]
    cases v with
    | text t => exact iff_of_false (fun h => by cases h) (fun h => by cases h)
    | foreign => exact iff_of_false (fun h => by cases h) (fun h => by cases h)
    | _ => exact Iff.rfl
  rw [← hinside]
  cases v.display with
  | error e => exact iff_of_false (fun ⟨t, h⟩ => by cases h) (not_not.mpr rfl)
  | ok t => exact iff_of_true ⟨t, rfl⟩ (fun h => by cases h)

end SynthDesk.Value
