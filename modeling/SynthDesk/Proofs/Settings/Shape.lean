/-
Which objects are settings.

Four names are looked at, one after another, and the first field of the wrong kind refuses the
object, under the name that it has. A field that is not there is no offence, a field with
nothing in it is one. Nothing else about the object counts: which other fields it has, and the
sequence of all of them. And settings that are made an object are read from it as they were.
-/
import SynthDesk.Proofs.Settings.Loading
import Mathlib.Data.List.Perm.Basic

set_option autoImplicit false

namespace SynthDesk

/-! ## Fields with different names -/

namespace Keyed

variable {α : Type}

theorem put_of_not_mem {k : Text} {m : Keyed α} (h : k ∉ names m) (v : α) :
    put k v m = m ++ [(k, v)] := by
  induction m with
  | nil => rfl
  | cons p r ih =>
    obtain ⟨n, w⟩ := p
    rw [names, List.map_cons, List.mem_cons, not_or] at h
    rw [put, if_neg (Ne.symm h.1), ih h.2, List.cons_append]

/-- Pairs with different names are what they are put together to. -/
theorem ofPairs_of_nodup {m : Keyed α} (h : (names m).Nodup) : ofPairs m = m := by
  induction m using List.reverseRecOn with
  | nil => rfl
  | append_singleton m p ih =>
    rw [names, List.map_append, List.nodup_append] at h
    obtain ⟨hm, -, hdisjoint⟩ := h
    have hfresh : p.1 ∉ names m := fun hmem =>
      hdisjoint p.1 hmem p.1 (List.mem_singleton_self p.1) rfl
    rw [ofPairs_concat, ih hm, put_of_not_mem hfresh]

/-- Under a name there is what stands in its pair. -/
theorem get?_eq_some_iff {m : Keyed α} (h : (names m).Nodup) {k : Text} {v : α} :
    get? k m = some v ↔ (k, v) ∈ m := by
  refine ⟨Settings.Store.mem_of_get?, fun hmem => ?_⟩
  induction m with
  | nil => cases hmem
  | cons p r ih =>
    obtain ⟨n, w⟩ := p
    rw [names, List.map_cons, List.nodup_cons] at h
    rcases List.mem_cons.mp hmem with heq | hmem
    · cases heq
      exact if_pos rfl
    · have hne : n ≠ k := by
        intro heq
        apply h.1
        exact List.mem_map.mpr ⟨(k, v), hmem, heq.symm⟩
      rw [get?, if_neg hne]
      exact ih h.2 hmem

end Keyed

namespace Settings

/-! ## Offences -/

/-- What may stand under a name that is looked at: a list of texts under that of the tables,
one text under the others. -/
inductive Suits : Text → Value → Prop
  | tables (ts : List Text) : Suits tablesName (.list (ts.map .text))
  | entry (e : Entry) (t : Text) : Suits e.name (.text t)

/-- The names that are looked at, in their sequence. -/
def lookedAt : List Text :=
  [tablesName, Entry.model.name, Entry.dataOutput.name, Entry.syntheticGenerate.name]

/-- There is a field of the name, and what stands in it is of the wrong kind. -/
def Offends (fields : Keyed Value) (name : Text) : Prop := ∃ v, (name, v) ∈ fields ∧ ¬ Suits name v

/-- **The first of some names** under which there is an offence. -/
inductive FirstOffence (fields : Keyed Value) : List Text → Text → Prop
  | here {name : Text} {names : List Text} : Offends fields name →
    FirstOffence fields (name :: names) name
  | later {other name : Text} {names : List Text} : ¬ Offends fields other →
    FirstOffence fields names name → FirstOffence fields (other :: names) name

/-- How a refusal for a name reads. -/
def complaint (name : Text) : Text :=
  Text.ofString "'" ++ name ++ Text.ofString "' must be a " ++
    if name = tablesName then Text.ofString "list of strings" else Text.ofString "string"

theorem tables_message : ShapeError.tables.message = complaint tablesName := by decide

theorem entry_message (e : Entry) : (ShapeError.entry e).message = complaint e.name := by
  cases e <;> decide

theorem entry_name_ne (e : Entry) : e.name ≠ tablesName := by
  cases e <;> decide

/-- There is one first offence at most. -/
theorem FirstOffence.unique {fields : Keyed Value} {names : List Text} {a b : Text}
    (ha : FirstOffence fields names a) (hb : FirstOffence fields names b) : a = b := by
  induction ha with
  | here hname =>
    cases hb with
    | here _ => rfl
    | later hno _ => exact absurd hname hno
  | later hno _ ih =>
    cases hb with
    | here hname => exact absurd hname hno
    | later _ hb => exact ih hb

theorem FirstOffence.exists_mem {fields : Keyed Value} {names : List Text} {name : Text}
    (h : FirstOffence fields names name) : ∃ name ∈ names, Offends fields name := by
  induction h with
  | here hname => exact ⟨_, List.mem_cons_self, hname⟩
  | later _ _ ih =>
    obtain ⟨name, hmem, hname⟩ := ih
    exact ⟨name, List.mem_cons_of_mem _ hmem, hname⟩

theorem suits_tables_iff {v : Value} :
    Suits tablesName v ↔ ∃ ts : List Text, v = .list (ts.map .text) := by
  constructor
  · intro h
    generalize hname : tablesName = name at h
    cases h with
    | tables ts => exact ⟨ts, rfl⟩
    | entry e t => exact absurd hname.symm (entry_name_ne e)
  · rintro ⟨ts, rfl⟩
    exact .tables ts

theorem suits_entry_iff {e : Entry} {v : Value} : Suits e.name v ↔ ∃ t, v = .text t := by
  constructor
  · intro h
    generalize hname : e.name = name at h
    cases h with
    | tables ts => exact absurd hname (entry_name_ne e)
    | entry e' t => exact ⟨t, rfl⟩
  · rintro ⟨t, rfl⟩
    exact .entry e t

/-! ## One name -/

section Looking

variable {fields : Keyed Value}

theorem offends_iff (h : fields.names.Nodup) {name : Text} :
    Offends fields name ↔ ∃ v, fields.get? name = some v ∧ ¬ Suits name v := by
  simp only [Offends, Keyed.get?_eq_some_iff h]

/-- **The tables are refused for an offence, and read without one.** -/
theorem tablesOf_cases (h : fields.names.Nodup) :
    (Offends fields tablesName ∧ tablesOf fields = .error .tables) ∨
      (¬ Offends fields tablesName ∧ ∃ ts, tablesOf fields = .ok ts) := by
  rw [offends_iff h, tablesOf]
  cases fields.get? tablesName with
  | none => exact Or.inr ⟨by simp, _, rfl⟩
  | some v =>
    by_cases hsuits : Suits tablesName v
    · obtain ⟨ts, rfl⟩ := suits_tables_iff.mp hsuits
      refine Or.inr ⟨by simp [hsuits], ts, ?_⟩
      simp only [texts?_map_text]
    · refine Or.inl ⟨⟨v, rfl, hsuits⟩, ?_⟩
      rw [suits_tables_iff] at hsuits
      cases v with
      | list items =>
        cases htexts : Value.texts? items with
        | none => simp only [htexts]
        | some ts => exact absurd ⟨ts, by rw [texts?_eq_some_iff.mp htexts]⟩ hsuits
      | _ => rfl

/-- **An entry is refused for an offence, and read without one.** -/
theorem entryOf_cases (h : fields.names.Nodup) (e : Entry) (otherwise : Text) :
    (Offends fields e.name ∧ entryOf fields e otherwise = .error (.entry e)) ∨
      (¬ Offends fields e.name ∧ ∃ t, entryOf fields e otherwise = .ok t) := by
  rw [offends_iff h, entryOf]
  cases fields.get? e.name with
  | none => exact Or.inr ⟨by simp, _, rfl⟩
  | some v =>
    by_cases hsuits : Suits e.name v
    · obtain ⟨t, rfl⟩ := suits_entry_iff.mp hsuits
      exact Or.inr ⟨by simp [hsuits], t, rfl⟩
    · refine Or.inl ⟨⟨v, rfl, hsuits⟩, ?_⟩
      rw [suits_entry_iff] at hsuits
      cases v with
      | text t => exact absurd ⟨t, rfl⟩ hsuits
      | _ => rfl

/-! ## The whole object -/

/-- **The first offence refuses the object**, and without one it is read. -/
theorem ofValue_object_cases (h : fields.names.Nodup) :
    (∃ name e, FirstOffence fields lookedAt name ∧ ofValue (.object fields) = .error e ∧
      e.message = complaint name) ∨
      ((∀ name ∈ lookedAt, ¬ Offends fields name) ∧ ∃ s, ofValue (.object fields) = .ok s) := by
  rw [ofValue]
  -- Name by name, in the sequence in which they are looked at.
  rcases tablesOf_cases h with ⟨htables, hread⟩ | ⟨htables, ts, hread⟩
  · rw [hread]
    exact Or.inl ⟨_, _, .here htables, rfl, tables_message⟩
  rw [hread]
  rcases entryOf_cases h .model initial.model with ⟨hmodel, hread⟩ | ⟨hmodel, m, hread⟩
  · rw [hread]
    exact Or.inl ⟨_, _, .later htables (.here hmodel), rfl, entry_message _⟩
  rw [hread]
  rcases entryOf_cases h .dataOutput initial.dataOutput with ⟨hdata, hread⟩ | ⟨hdata, d, hread⟩
  · rw [hread]
    exact Or.inl ⟨_, _, .later htables (.later hmodel (.here hdata)), rfl, entry_message _⟩
  rw [hread]
  rcases entryOf_cases h .syntheticGenerate initial.syntheticGenerate with
    ⟨hsynthetic, hread⟩ | ⟨hsynthetic, g, hread⟩
  · rw [hread]
    exact Or.inl ⟨_, _, .later htables (.later hmodel (.later hdata (.here hsynthetic))), rfl,
      entry_message _⟩
  rw [hread]
  refine Or.inr ⟨?_, _, rfl⟩
  simp only [lookedAt, List.forall_mem_cons]
  exact ⟨htables, hmodel, hdata, hsynthetic, List.forall_mem_nil _⟩

/-- Objects that agree on the names that are looked at are read alike. -/
theorem ofValue_congr {others : Keyed Value}
    (h : ∀ name ∈ lookedAt, others.get? name = fields.get? name) :
    ofValue (.object others) = ofValue (.object fields) := by
  simp only [lookedAt, List.forall_mem_cons] at h
  obtain ⟨htables, hmodel, hdata, hsynthetic, -⟩ := h
  have hentry : ∀ {e : Entry} (otherwise : Text), others.get? e.name = fields.get? e.name →
      entryOf others e otherwise = entryOf fields e otherwise := by
    intro e otherwise hget
    rw [entryOf, entryOf, hget]
  rw [ofValue, ofValue, tablesOf, htables, ← tablesOf, hentry _ hmodel, hentry _ hdata,
    hentry _ hsynthetic]

/-- The fields that are looked at. -/
def known (fields : Keyed Value) : Keyed Value := fields.filter fun p => p.1 ∈ lookedAt

/-- The sequence of the fields does not count, and fields of other names do not. -/
theorem ofValue_known_perm {others : Keyed Value} (h : fields.names.Nodup)
    (hothers : others.names.Nodup) (hperm : (known others).Perm (known fields)) :
    ofValue (.object others) = ofValue (.object fields) := by
  apply ofValue_congr
  intro name hname
  apply Option.ext
  intro v
  have hmem : ∀ fields : Keyed Value, (name, v) ∈ known fields ↔ (name, v) ∈ fields := by
    intro fields
    simp [known, hname]
  rw [Keyed.get?_eq_some_iff h, Keyed.get?_eq_some_iff hothers, ← hmem others, ← hmem fields,
    hperm.mem_iff]

end Looking

/-- **Settings are read from well-typed objects and from nothing else.** What is no object is
refused, with the kind of value that it is. Take an object, its fields having different names.

* It is refused if and only if there is an offence under one of the four names.
* The first of these names with an offence is the one in the refusal.
* Settings are read if and only if its fields describe them: what a field holds, and the
  initial content for each that is not there.
* An object with the same fields of the four names, in any sequence and among any other
  fields, gives the same.

Settings that are made an object are read from it as they were, all of them. -/
theorem ofValue_accepts_exactly :
    (∀ v : Value, (∀ fields, v ≠ .object fields) → ∃ e, ofValue v = .error e ∧
      e.message = Text.ofString "Expected a JSON object, got " ++ v.kind) ∧
    (∀ fields : Keyed Value, fields.names.Nodup →
      ((∃ e, ofValue (.object fields) = .error e) ↔ ∃ name ∈ lookedAt, Offends fields name) ∧
      (∀ name, FirstOffence fields lookedAt name →
        ∃ e, ofValue (.object fields) = .error e ∧ e.message = complaint name) ∧
      (∀ s, ofValue (.object fields) = .ok s ↔ s.DescribedBy fields) ∧
      ∀ others : Keyed Value, others.names.Nodup → (known others).Perm (known fields) →
        ofValue (.object others) = ofValue (.object fields)) ∧
    ∀ s : Settings, ofValue s.toValue = .ok s := by
  refine ⟨?_, ?_, ofValue_toValue⟩
  · intro v hv
    cases v with
    | object fields => exact absurd rfl (hv fields)
    | _ => exact ⟨_, rfl, rfl⟩
  · intro fields h
    refine ⟨?_, ?_, ?_, ?_⟩
    · rcases ofValue_object_cases h with ⟨name, e, hfirst, hread, -⟩ | ⟨hnone, s, hread⟩
      · exact iff_of_true ⟨e, hread⟩ hfirst.exists_mem
      · rw [hread]
        exact iff_of_false (fun ⟨_, he⟩ => by cases he)
          (fun ⟨name, hmem, hname⟩ => hnone name hmem hname)
    · intro name hname
      rcases ofValue_object_cases h with ⟨first, e, hfirst, hread, hmessage⟩ | ⟨hnone, -⟩
      · rw [hname.unique hfirst]
        exact ⟨e, hread, hmessage⟩
      · obtain ⟨name, hmem, hoffends⟩ := hname.exists_mem
        exact absurd hoffends (hnone name hmem)
    · intro s
      rw [← ofValue_eq_ok_iff, Keyed.ofPairs_of_nodup h]
    · intro others hothers hperm
      exact ofValue_known_perm h hothers hperm

/-- An object with two offences, the later name first, and a field that nobody looks at. -/
def severalOffences : Keyed Value := [
  (Entry.dataOutput.name, .null),
  (Text.ofString "colour", .int 7),
  (tablesName, .list [.text (Text.ofString "jobs")]),
  (Entry.model.name, .list [])]

/-- An object that says half of the settings, and the same with more around it. -/
def half : Keyed Value := [
  (tablesName, .list [.text (Text.ofString "jobs")]),
  (Entry.model.name, .text (Text.ofString "OE"))]

def halfAmongOthers : Keyed Value := [
  (Entry.model.name, .text (Text.ofString "OE")), (Text.ofString "colour", .null),
  (tablesName, .list [.text (Text.ofString "jobs")])]

theorem ofValue_accepts_exactly_half :
    (∃ e, ofValue (.object severalOffences) = .error e ∧
      e.message = Text.ofString "'model' must be a string") ∧
    ofValue (.object half) = .ok { initial with
      model := Text.ofString "OE", tables := [Text.ofString "jobs"] } ∧
    ofValue (.object halfAmongOthers) = ofValue (.object half) := by
  obtain ⟨-, hobject, -⟩ := ofValue_accepts_exactly
  have hnodup : (Keyed.names severalOffences).Nodup := by decide
  have hmodel : FirstOffence severalOffences lookedAt Entry.model.name := by
    refine .later ?_ (.here ⟨.list [], by simp [severalOffences], ?_⟩)
    · rw [offends_iff hnodup]
      rintro ⟨v, hget, hv⟩
      cases hget
      exact hv (.tables [Text.ofString "jobs"])
    · rw [suits_entry_iff]
      rintro ⟨t, ht⟩
      cases ht
  obtain ⟨-, hfirst, -, -⟩ := hobject severalOffences hnodup
  obtain ⟨-, -, hdescribed, hsame⟩ := hobject half (by decide)
  refine ⟨?_, ?_, ?_⟩
  · obtain ⟨e, hread, hmessage⟩ := hfirst Entry.model.name hmodel
    exact ⟨e, hread, hmessage⟩
  · exact (hdescribed _).mpr ⟨rfl, rfl, rfl, rfl⟩
  · exact hsame halfAmongOthers (by decide) (.swap _ _ [])

end Settings

end SynthDesk
