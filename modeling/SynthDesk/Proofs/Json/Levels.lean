/-
What is in the way of writing.

Two things can be wrong with a value: there is something in it that cannot be written, a
number too long for print or what is foreign to documents; or there is more in it than the
levels hold. Both are said here by what the value consists of, without going through it as the
writer does. Where nothing is wrong the value is written, and where the first thing that is
wrong cannot be written, the writer refuses it.
-/
import SynthDesk.Json.Levels
import SynthDesk.Proofs.Value.Display

set_option autoImplicit false

namespace SynthDesk

/-- **There is something in the value that cannot be written**: a number too long for print, or
something that is foreign to documents, the value itself or one inside. -/
inductive Value.Unwritable : Value → Prop
  | int {i : Int} : 10 ^ digitLimit ≤ i.natAbs → Unwritable (.int i)
  | foreign {className shown inner : Text} {items : Option (List Value)} :
    Unwritable (.foreign className shown inner items)
  | item {items : List Value} {v : Value} : v ∈ items → Unwritable v → Unwritable (.list items)
  | field {fields : List (Text × Value)} {k : Text} {v : Value} :
    (k, v) ∈ fields → Unwritable v → Unwritable (.object fields)

/-- **There is more in the value than so many levels hold**: a double or members where there
is no level left, or something foreign where there is one at most, in the value itself or
further inside. -/
inductive Value.Deeper : Nat → Value → Prop
  | double {x : Binary64} : Deeper 0 (.float x)
  | foreign {levels : Nat} {className shown inner : Text} {items : Option (List Value)} :
    levels < 2 → Deeper levels (.foreign className shown inner items)
  | items {items : List Value} : items ≠ [] → Deeper 0 (.list items)
  | fields {fields : List (Text × Value)} : fields ≠ [] → Deeper 0 (.object fields)
  | item {levels : Nat} {items : List Value} {v : Value} :
    v ∈ items → Deeper levels v → Deeper (levels + 1) (.list items)
  | field {levels : Nat} {fields : List (Text × Value)} {k : Text} {v : Value} :
    (k, v) ∈ fields → Deeper levels v → Deeper (levels + 1) (.object fields)

namespace Json

/-- What is wrong with a value that is to be written on so many levels. -/
def Faulty (levels : Nat) (v : Value) : Prop := v.Unwritable ∨ v.Deeper levels

theorem unwritable_int_iff {i : Int} :
    (Value.int i).Unwritable ↔ 10 ^ Value.digitLimit ≤ i.natAbs := by
  constructor
  · rintro ⟨h⟩
    assumption
  · exact .int

theorem unwritable_list_iff {items : List Value} :
    (Value.list items).Unwritable ↔ ∃ v ∈ items, v.Unwritable := by
  constructor
  · rintro (_ | _ | ⟨hmem, hv⟩)
    exact ⟨_, hmem, hv⟩
  · rintro ⟨v, hmem, hv⟩
    exact .item hmem hv

theorem unwritable_object_iff {fields : List (Text × Value)} :
    (Value.object fields).Unwritable ↔ ∃ p ∈ fields, p.2.Unwritable := by
  constructor
  · rintro (_ | _ | _ | ⟨hmem, hv⟩)
    exact ⟨_, hmem, hv⟩
  · rintro ⟨⟨k, v⟩, hmem, hv⟩
    exact .field hmem hv

/-! ## Where there is an obstacle -/

section Parts

variable {levels : Nat} {items : List Value} {fields : List (Text × Value)}

theorem not_faulty_int_iff {i : Int} :
    ¬ Faulty levels (.int i) ↔ ¬ Value.numeral i = .error .mk := by
  rw [Value.numeral_eq_error_iff, Faulty, unwritable_int_iff, not_or]
  exact and_iff_left (fun h => by cases h)

theorem not_faulty_float_iff {x : Binary64} : ¬ Faulty levels (.float x) ↔ levels ≠ 0 := by
  constructor
  · rintro h rfl
    exact h (.inr .double)
  · rintro hne (hwrong | hdeep)
    · cases hwrong
    · cases hdeep
      exact hne rfl

theorem not_faulty_zero_list_iff : ¬ Faulty 0 (.list items) ↔ items = [] := by
  constructor
  · intro h
    by_contra hne
    exact h (.inr (.items hne))
  · rintro rfl (hwrong | hdeep)
    · cases hwrong with
      | item hv => cases hv
    · cases hdeep with
      | items hne => exact hne rfl

theorem not_faulty_zero_object_iff : ¬ Faulty 0 (.object fields) ↔ fields = [] := by
  constructor
  · intro h
    by_contra hne
    exact h (.inr (.fields hne))
  · rintro rfl (hwrong | hdeep)
    · cases hwrong with
      | field hv => cases hv
    · cases hdeep with
      | fields hne => exact hne rfl

theorem not_faulty_list_iff :
    ¬ Faulty (levels + 1) (.list items) ↔ ∀ v ∈ items, ¬ Faulty levels v := by
  constructor
  · intro h v hv
    rintro (hwrong | hdeep)
    · exact h (.inl (.item hv hwrong))
    · exact h (.inr (.item hv hdeep))
  · rintro h (hwrong | hdeep)
    · obtain ⟨v, hv, hwrong⟩ := unwritable_list_iff.mp hwrong
      exact h v hv (.inl hwrong)
    · cases hdeep with
      | item hv hdeep => exact h _ hv (.inr hdeep)

theorem not_faulty_object_iff :
    ¬ Faulty (levels + 1) (.object fields) ↔ ∀ p ∈ fields, ¬ Faulty levels p.2 := by
  constructor
  · intro h p hp
    rintro (hwrong | hdeep)
    · exact h (.inl (.field hp hwrong))
    · exact h (.inr (.field hp hdeep))
  · rintro h (hwrong | hdeep)
    · obtain ⟨p, hp, hwrong⟩ := unwritable_object_iff.mp hwrong
      exact h p hp (.inl hwrong)
    · cases hdeep with
      | field hp hdeep => exact h _ hp (.inr hdeep)

end Parts

mutual

/-- **Nothing is in the way exactly if nothing is wrong.** -/
theorem obstacle?_eq_none_iff :
    ∀ (levels : Nat) (v : Value), obstacle? levels v = none ↔ ¬ Faulty levels v
  | _, .null => iff_of_true rfl (by rintro (h | h) <;> cases h)
  | _, .bool _ => iff_of_true rfl (by rintro (h | h) <;> cases h)
  | _, .text _ => iff_of_true rfl (by rintro (h | h) <;> cases h)
  | _, .foreign _ _ _ _ => iff_of_false (fun h => by cases h) (not_not.mpr (.inl .foreign))
  | levels, .int i => by
    rw [not_faulty_int_iff, obstacle?]
    cases Value.numeral i <;> simp
  | levels, .float x => by
    rw [not_faulty_float_iff, obstacle?]
    by_cases hlevels : levels = 0 <;> simp [hlevels]
  | 0, .list items => by
    rw [not_faulty_zero_list_iff, obstacle?, bracketObstacle?]
    cases items <;> simp
  | levels + 1, .list items => by
    rw [not_faulty_list_iff, obstacle?, bracketObstacle?]
    exact itemsObstacle?_eq_none_iff levels items
  | 0, .object fields => by
    rw [not_faulty_zero_object_iff, obstacle?, bracketObstacle?]
    cases fields <;> simp
  | levels + 1, .object fields => by
    rw [not_faulty_object_iff, obstacle?, bracketObstacle?]
    exact fieldsObstacle?_eq_none_iff levels fields

theorem itemsObstacle?_eq_none_iff :
    ∀ (levels : Nat) (items : List Value),
      itemsObstacle? levels items = none ↔ ∀ v ∈ items, ¬ Faulty levels v
  | _, [] => by simp [itemsObstacle?]
  | levels, v :: r => by
    rw [itemsObstacle?, Option.or_eq_none_iff, obstacle?_eq_none_iff levels v,
      itemsObstacle?_eq_none_iff levels r, List.forall_mem_cons]

theorem fieldsObstacle?_eq_none_iff :
    ∀ (levels : Nat) (fields : List (Text × Value)),
      fieldsObstacle? levels fields = none ↔ ∀ p ∈ fields, ¬ Faulty levels p.2
  | _, [] => by simp [fieldsObstacle?]
  | levels, (k, v) :: r => by
    rw [fieldsObstacle?, Option.or_eq_none_iff, obstacle?_eq_none_iff levels v,
      fieldsObstacle?_eq_none_iff levels r, List.forall_mem_cons]

end

/-! ## What an obstacle tells -/

/-- What is wrong with a value where there is an obstacle. -/
def Obstacle.Tells : Obstacle → Nat → Value → Prop
  | digits, _, v => v.Unwritable
  | unsupported _, _, v => v.Unwritable
  | levels, n, v => v.Deeper n

section Parts

variable {o : Obstacle} {levels : Nat} {items : List Value} {fields : List (Text × Value)}

theorem Obstacle.Tells.list {v : Value} (hv : v ∈ items) (h : o.Tells levels v) :
    o.Tells (levels + 1) (.list items) := by
  cases o with
  | digits => exact .item hv h
  | unsupported => exact .item hv h
  | levels => exact .item hv h

theorem Obstacle.Tells.object {p : Text × Value} (hp : p ∈ fields) (h : o.Tells levels p.2) :
    o.Tells (levels + 1) (.object fields) := by
  cases o with
  | digits => exact .field hp h
  | unsupported => exact .field hp h
  | levels => exact .field hp h

end Parts

mutual

/-- **An obstacle tells what is wrong.** -/
theorem tells_of_obstacle? :
    ∀ (levels : Nat) (v : Value) {o : Obstacle}, obstacle? levels v = some o → o.Tells levels v
  | levels, .int i, o, h => by
    rw [obstacle?] at h
    split at h
    · next e hnumeral =>
      cases h
      exact .int (Value.numeral_eq_error_iff.mp hnumeral)
    · cases h
  | levels, .float x, o, h => by
    rw [obstacle?] at h
    split at h
    · next hlevels =>
      cases h
      rw [hlevels]
      exact .double
    · cases h
  | levels, .foreign .., o, h => by
    rw [obstacle?] at h
    split at h
    · next hlevels =>
      cases h
      exact .foreign hlevels
    · cases h
      exact .foreign
  | 0, .list items, o, h => by
    rw [obstacle?, bracketObstacle?] at h
    split at h
    · cases h
    · next hne =>
      cases h
      exact .items (fun hnil => hne (by rw [hnil, List.length_nil]))
  | levels + 1, .list items, o, h => by
    rw [obstacle?, bracketObstacle?] at h
    obtain ⟨v, hv, htells⟩ := exists_tells_of_itemsObstacle? levels items h
    exact htells.list hv
  | 0, .object fields, o, h => by
    rw [obstacle?, bracketObstacle?] at h
    split at h
    · cases h
    · next hne =>
      cases h
      exact .fields (fun hnil => hne (by rw [hnil, List.length_nil]))
  | levels + 1, .object fields, o, h => by
    rw [obstacle?, bracketObstacle?] at h
    obtain ⟨p, hp, htells⟩ := exists_tells_of_fieldsObstacle? levels fields h
    exact htells.object hp

theorem exists_tells_of_itemsObstacle? :
    ∀ (levels : Nat) (items : List Value) {o : Obstacle}, itemsObstacle? levels items = some o →
      ∃ v ∈ items, o.Tells levels v
  | levels, v :: r, o, h => by
    rw [itemsObstacle?, Option.or_eq_some_iff] at h
    rcases h with h | ⟨-, h⟩
    · exact ⟨v, List.mem_cons_self, tells_of_obstacle? levels v h⟩
    · obtain ⟨w, hw, htells⟩ := exists_tells_of_itemsObstacle? levels r h
      exact ⟨w, List.mem_cons_of_mem v hw, htells⟩

theorem exists_tells_of_fieldsObstacle? :
    ∀ (levels : Nat) (fields : List (Text × Value)) {o : Obstacle},
      fieldsObstacle? levels fields = some o → ∃ p ∈ fields, o.Tells levels p.2
  | levels, (k, v) :: r, o, h => by
    rw [fieldsObstacle?, Option.or_eq_some_iff] at h
    rcases h with h | ⟨-, h⟩
    · exact ⟨(k, v), List.mem_cons_self, tells_of_obstacle? levels v h⟩
    · obtain ⟨p, hp, htells⟩ := exists_tells_of_fieldsObstacle? levels r h
      exact ⟨p, List.mem_cons_of_mem (k, v) hp, htells⟩

end

/-! ## What the writer refuses -/

section Refusals

variable {ε α β γ : Type}

/-- What is made of one part is refused with it, ... -/
theorem exists_map_error_iff {x : Except ε α} (f : α → β) :
    (∃ e, (do return f (← x)) = .error e) ↔ ∃ e, x = .error e := by
  cases x with
  | error e => exact iff_of_true ⟨e, rfl⟩ ⟨e, rfl⟩
  | ok a => exact iff_of_false (fun ⟨_, h⟩ => by cases h) (fun ⟨_, h⟩ => by cases h)

/-- ... and what is made of two with either. -/
theorem exists_map₂_error_iff {x : Except ε α} {y : Except ε β} (f : α → β → γ) :
    (∃ e, (do let a ← x; return f a (← y)) = .error e) ↔
      (∃ e, x = .error e) ∨ ∃ e, y = .error e := by
  cases x with
  | error e => exact iff_of_true ⟨e, rfl⟩ (.inl ⟨e, rfl⟩)
  | ok a =>
    rw [or_iff_right (fun ⟨_, h⟩ => by cases h), ← exists_map_error_iff (f a)]
    rfl

end Refusals

theorem exists_numeral_error_iff {i : Int} :
    (∃ e, (Value.numeral i).mapError WriteError.tooManyDigits = .error e) ↔
      10 ^ Value.digitLimit ≤ i.natAbs := by
  rw [← Value.numeral_eq_error_iff]
  cases Value.numeral i with
  | error e => exact iff_of_true ⟨_, rfl⟩ rfl
  | ok t => exact iff_of_false (fun ⟨_, h⟩ => by cases h) (fun h => by cases h)

mutual

/-- **The writer refuses what cannot be written**, and nothing else. -/
theorem exists_writeAt_error_iff :
    ∀ (level : Nat) (v : Value), (∃ e, writeAt level v = .error e) ↔ v.Unwritable
  | _, .null => iff_of_false (fun ⟨_, h⟩ => by cases h) (fun h => by cases h)
  | _, .bool _ => iff_of_false (fun ⟨_, h⟩ => by cases h) (fun h => by cases h)
  | _, .float _ => iff_of_false (fun ⟨_, h⟩ => by cases h) (fun h => by cases h)
  | _, .text _ => iff_of_false (fun ⟨_, h⟩ => by cases h) (fun h => by cases h)
  | _, .foreign _ _ _ _ => iff_of_true ⟨_, rfl⟩ .foreign
  | _, .int i => by rw [unwritable_int_iff, ← exists_numeral_error_iff]; rfl
  | level, .list items => by
    rw [writeAt, exists_map_error_iff, exists_writeItems_error_iff (level + 1) items,
      unwritable_list_iff]
  | level, .object fields => by
    rw [writeAt, exists_map_error_iff, exists_writeFields_error_iff (level + 1) fields,
      unwritable_object_iff]

theorem exists_writeItems_error_iff :
    ∀ (level : Nat) (items : List Value),
      (∃ e, writeItems level items = .error e) ↔ ∃ v ∈ items, v.Unwritable
  | _, [] => iff_of_false (fun ⟨_, h⟩ => by cases h) (fun ⟨_, h, _⟩ => by cases h)
  | level, v :: r => by
    rw [writeItems, exists_map₂_error_iff, exists_writeAt_error_iff level v,
      exists_writeItems_error_iff level r, List.exists_mem_cons_iff]

theorem exists_writeFields_error_iff :
    ∀ (level : Nat) (fields : List (Text × Value)),
      (∃ e, writeFields level fields = .error e) ↔ ∃ p ∈ fields, p.2.Unwritable
  | _, [] => iff_of_false (fun ⟨_, h⟩ => by cases h) (fun ⟨_, h, _⟩ => by cases h)
  | level, (k, v) :: r => by
    rw [writeFields, exists_map₂_error_iff, exists_writeAt_error_iff level v,
      exists_writeFields_error_iff level r, List.exists_mem_cons_iff]

end

end Json

end SynthDesk
