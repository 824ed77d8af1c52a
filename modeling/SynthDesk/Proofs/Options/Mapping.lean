/-
What a loose mapping comes to.

A parameter has two names in a mapping, and no name is that of two parameters. So an entry
concerns one parameter or none. Going through the mapping, each entry overrides what the earlier
ones said about its parameter, and at the end the last one counts, also where it is empty. The one
thing that can go wrong is a value without a display, and it goes wrong even where a later
entry would have overridden it. If no parameter is named twice, there is nothing to override,
and the sequence of the entries does not matter.
-/
import SynthDesk.Options.Arguments
import SynthDesk.Options.Mapping
import SynthDesk.Proofs.Value.Display
import Mathlib.Algebra.Group.Int.Defs
import Mathlib.Data.List.Induction
import Mathlib.Data.List.Nodup

set_option autoImplicit false

namespace SynthDesk

/-! ## Names in a mapping -/

namespace Flag

/-- A name that means a flag in a mapping: the engine's, or the one of its entry. -/
def IsNamed (f : Flag) (k : Text) : Prop := k = f.name ∨ k = f.entryName

theorem ofAlias?_eq_some_iff {k : Text} {f : Flag} : ofAlias? k = some f ↔ f.IsNamed k := by
  constructor
  · intro h
    have hfound := List.find?_some h
    rw [Bool.or_eq_true, decide_eq_true_eq, decide_eq_true_eq] at hfound
    exact hfound.imp Eq.symm Eq.symm
  · rintro (rfl | rfl)
    · cases f <;> decide
    · cases f <;> decide

/-- **No name means two flags.** -/
theorem IsNamed.unique {f g : Flag} {k : Text} (hf : f.IsNamed k) (hg : g.IsNamed k) : f = g := by
  rw [← ofAlias?_eq_some_iff] at hf hg
  exact Option.some.inj (hf.symm.trans hg)

theorem isNamed_name (f : Flag) : f.IsNamed f.name := .inl rfl

instance (f : Flag) (k : Text) : Decidable (f.IsNamed k) := inferInstanceAs (Decidable (_ ∨ _))

end Flag

namespace Options

/-! ## One entry -/

/-- **What a value asks for**: nothing if it is empty, otherwise its display. -/
inductive Asks : Value → Option Text → Prop
  | nothing : Asks .null none
  | shown {v : Value} {t : Text} : v ≠ .null → v.display = .ok t → Asks v (some t)

theorem Asks.unique {v : Value} {x y : Option Text} (hx : Asks v x) (hy : Asks v y) : x = y := by
  cases hx with
  | nothing =>
    cases hy with
    | nothing => rfl
    | shown hne => exact absurd rfl hne
  | shown hne hx =>
    cases hy with
    | nothing => exact absurd rfl hne
    | shown _ hy => exact congrArg some (Except.ok.inj (hx.symm.trans hy))

/-- What asks for something has a display, or is empty. -/
theorem Asks.not_oversized {v : Value} {x : Option Text} (h : Asks v x) : ¬ v.Oversized := by
  cases h with
  | nothing =>
    intro hlarge
    cases hlarge
  | shown _ hshown => exact Value.exists_display_iff.mp ⟨_, hshown⟩

theorem wanted_eq {v : Value} (hne : v ≠ .null) : wanted v = v.display.map some := by
  cases v with
  | null => exact absurd rfl hne
  | _ => rfl

/-- A value asks for something, unless it has no display. -/
theorem wanted_cases (v : Value) :
    (∃ x, Asks v x ∧ wanted v = .ok x) ∨ v.Oversized ∧ wanted v = .error .mk := by
  by_cases hnull : v = .null
  · subst hnull
    exact .inl ⟨none, .nothing, rfl⟩
  · rw [wanted_eq hnull]
    cases hshown : v.display with
    | ok t => exact .inl ⟨some t, .shown hnull hshown, rfl⟩
    | error e =>
      refine .inr ⟨not_not.mp fun hsmall => ?_, rfl⟩
      obtain ⟨t, ht⟩ := Value.exists_display_iff.mpr hsmall
      rw [hshown] at ht
      cases ht

/-- **What one more entry does.** It concerns no flag, or it sets the flag that it names, or its
value has no display. -/
theorem take_cases (o : Options) (e : Text × Value) :
    ((∀ f : Flag, ¬ f.IsNamed e.1) ∧ o.take e = .ok o) ∨
    (∃ f x, f.IsNamed e.1 ∧ Asks e.2 x ∧ o.take e = .ok (o.set f x)) ∨
    ((∃ f : Flag, f.IsNamed e.1) ∧ e.2.Oversized ∧ o.take e = .error .mk) := by
  rw [take]
  cases hmeant : Flag.ofAlias? e.1 with
  | none =>
    refine .inl ⟨fun f hf => ?_, rfl⟩
    rw [Flag.ofAlias?_eq_some_iff.mpr hf] at hmeant
    cases hmeant
  | some f =>
    have hf := Flag.ofAlias?_eq_some_iff.mp hmeant
    rcases wanted_cases e.2 with ⟨x, hx, hwanted⟩ | ⟨hlarge, hwanted⟩
    · exact .inr (.inl ⟨f, x, hf, hx, by rw [hwanted]; rfl⟩)
    · exact .inr (.inr ⟨⟨f, hf⟩, hlarge, by rw [hwanted]; rfl⟩)

/-! ## All entries -/

variable {entries others : Keyed Value} {f : Flag} {o : Options}

theorem ofMapping_concat (entries : Keyed Value) (e : Text × Value) :
    ofMapping (entries ++ [e]) = ofMapping entries >>= fun o => o.take e := by
  rw [ofMapping, List.foldlM_append, ← ofMapping]
  simp only [List.foldlM_cons, List.foldlM_nil, bind_pure]

/-- An entry that names a flag and has no display. -/
def Refused (e : Text × Value) : Prop := (∃ f : Flag, f.IsNamed e.1) ∧ e.2.Oversized

/-- **What is asked for under a flag**: what its last entry asks for, nothing if it has none. -/
inductive LastAsks (entries : Keyed Value) (f : Flag) : Option Text → Prop
  | unnamed : (∀ e ∈ entries, ¬ f.IsNamed e.1) → LastAsks entries f none
  | last {before after : Keyed Value} {k : Text} {v : Value} {x : Option Text} :
    entries = before ++ (k, v) :: after → f.IsNamed k → (∀ e ∈ after, ¬ f.IsNamed e.1) →
      Asks v x → LastAsks entries f x

/-- An entry that does not name the flag changes nothing for it. -/
theorem LastAsks.concat {x : Option Text} (h : LastAsks entries f x) {e : Text × Value}
    (he : ¬ f.IsNamed e.1) : LastAsks (entries ++ [e]) f x := by
  cases h with
  | unnamed hnone =>
    apply LastAsks.unnamed
    exact List.forall_mem_append.mpr ⟨hnone, List.forall_mem_singleton.mpr he⟩
  | @last before after k v _ hsplit hk hafter hx =>
    have hconcat : entries ++ [e] = before ++ (k, v) :: (after ++ [e]) := by
      rw [hsplit, List.append_assoc, List.cons_append]
    apply LastAsks.last hconcat hk _ hx
    exact List.forall_mem_append.mpr ⟨hafter, List.forall_mem_singleton.mpr he⟩

/-- **The last entry of a flag counts**, whenever the mapping is read to its end. -/
theorem lastAsks_of_ofMapping (h : ofMapping entries = .ok o) (f : Flag) :
    LastAsks entries f (o.get f) := by
  -- The entries are read from the left, so the last of them is the last step.
  induction entries using List.reverseRecOn generalizing o with
  | nil =>
    obtain rfl := Except.ok.inj h
    exact .unnamed (List.forall_mem_nil _)
  | append_singleton entries e ih =>
    rw [ofMapping_concat] at h
    cases hread : ofMapping entries with
    | error err =>
      rw [hread] at h
      cases h
    | ok before =>
      rw [hread] at h
      replace h : before.take e = .ok o := h
      rcases take_cases before e with ⟨hnone, htake⟩ | ⟨g, x, hg, hx, htake⟩ | ⟨-, -, htake⟩
      · obtain rfl := Except.ok.inj (htake.symm.trans h)
        exact (ih hread).concat (hnone f)
      · obtain rfl := Except.ok.inj (htake.symm.trans h)
        by_cases hfg : f = g
        · rw [hfg, get_set_self]
          exact .last rfl hg (List.forall_mem_nil _) hx
        · rw [get_set_of_ne _ hfg]
          exact (ih hread).concat fun hf => hfg (hf.unique hg)
      · rw [htake] at h
        cases h

/-- **A mapping is refused exactly if one of its entries is.** -/
theorem ofMapping_eq_error_iff : ofMapping entries = .error .mk ↔ ∃ e ∈ entries, Refused e := by
  induction entries using List.reverseRecOn with
  | nil => exact iff_of_false (fun h => by cases h) (fun ⟨_, h, _⟩ => by cases h)
  | append_singleton entries e ih =>
    simp only [List.mem_append, List.mem_singleton, or_and_right, exists_or, exists_eq_left, ← ih]
    rw [ofMapping_concat]
    cases ofMapping entries with
    | error err => exact iff_of_true rfl (.inl rfl)
    | ok before =>
      rw [or_iff_right (fun h => by cases h)]
      show before.take e = .error .mk ↔ Refused e
      rcases take_cases before e with ⟨hnone, htake⟩ | ⟨g, x, hg, hx, htake⟩ | ⟨hf, hlarge, htake⟩
      · rw [htake]
        exact iff_of_false (fun h => by cases h) (fun ⟨⟨f, hf⟩, _⟩ => hnone f hf)
      · rw [htake]
        exact iff_of_false (fun h => by cases h) (fun ⟨_, hlarge⟩ => hx.not_oversized hlarge)
      · exact iff_of_true htake ⟨hf, hlarge⟩

theorem exists_ofMapping (h : ¬ ∃ e ∈ entries, Refused e) : ∃ o, ofMapping entries = .ok o := by
  rw [← ofMapping_eq_error_iff] at h
  cases hread : ofMapping entries with
  | ok o => exact ⟨o, rfl⟩
  | error err => exact absurd hread h

/-! ## The sequence of the entries -/

/-- No flag stands in a mapping under both of its names. -/
def AliasFree (entries : Keyed Value) : Prop :=
  ∀ f : Flag, f.name ∈ entries.names → f.entryName ∈ entries.names → f.name = f.entryName

/-- Without aliases there is one entry for a flag. -/
theorem AliasFree.unique (hfree : AliasFree entries) (hnames : entries.names.Nodup)
    {e e' : Text × Value} (he : e ∈ entries) (he' : e' ∈ entries) (hf : f.IsNamed e.1)
    (hf' : f.IsNamed e'.1) : e = e' := by
  have hmem : e.1 ∈ entries.names := List.mem_map_of_mem he
  have hmem' : e'.1 ∈ entries.names := List.mem_map_of_mem he'
  have hname : e.1 = e'.1 := by
    rcases hf with hk | hk <;> rcases hf' with hk' | hk' <;> rw [hk] at hmem ⊢ <;>
      rw [hk'] at hmem' ⊢
    · exact hfree f hmem hmem'
    · exact (hfree f hmem' hmem).symm
  exact List.inj_on_of_nodup_map hnames he he' hname

/-- What is asked for under a flag is asked for by one of its entries. -/
theorem LastAsks.unnamed_or {x : Option Text} (h : LastAsks entries f x) :
    (x = none ∧ ∀ e ∈ entries, ¬ f.IsNamed e.1) ∨
      ∃ e ∈ entries, f.IsNamed e.1 ∧ Asks e.2 x := by
  cases h with
  | unnamed hnone => exact .inl ⟨rfl, hnone⟩
  | @last before after k v _ hsplit hk _ hx =>
    refine .inr ⟨(k, v), ?_, hk, hx⟩
    rw [hsplit]
    exact List.mem_append_right _ List.mem_cons_self

/-- **Without aliases the sequence does not matter.** -/
theorem ofMapping_perm (hnames : entries.names.Nodup) (hfree : AliasFree entries)
    (hperm : others.Perm entries) : ofMapping others = ofMapping entries := by
  have hrefused : (∃ e ∈ others, Refused e) ↔ ∃ e ∈ entries, Refused e :=
    exists_congr fun e => and_congr_left fun _ => hperm.mem_iff
  by_cases hmishap : ∃ e ∈ entries, Refused e
  · rw [ofMapping_eq_error_iff.mpr hmishap, ofMapping_eq_error_iff.mpr (hrefused.mpr hmishap)]
  · obtain ⟨o, ho⟩ := exists_ofMapping hmishap
    obtain ⟨p, hp⟩ := exists_ofMapping (mt hrefused.mp hmishap)
    rw [ho, hp]
    refine congrArg Except.ok (ext_get fun f => ?_)
    rcases (lastAsks_of_ofMapping hp f).unnamed_or with ⟨hx, hnone⟩ | ⟨e, he, hf, hx⟩
    · rcases (lastAsks_of_ofMapping ho f).unnamed_or with ⟨hy, -⟩ | ⟨e', he', hf', -⟩
      · rw [hx, hy]
      · exact absurd hf' (hnone e' (hperm.mem_iff.mpr he'))
    · rcases (lastAsks_of_ofMapping ho f).unnamed_or with ⟨-, hnone⟩ | ⟨e', he', hf', hy⟩
      · exact absurd hf (hnone e (hperm.mem_iff.mp he))
      · -- Both are the one entry of the flag.
        obtain rfl := hfree.unique hnames (hperm.mem_iff.mp he) he' hf hf'
        exact hx.unique hy

/-- **Every value has a display**, of those that stand under a name of a flag. -/
def EveryShown (entries : Keyed Value) : Prop :=
  ∀ e ∈ entries, (∃ f : Flag, f.IsNamed e.1) → ∃ t, e.2.display = .ok t

theorem EveryShown.not_refused (h : EveryShown entries) : ¬ ∃ e ∈ entries, Refused e := by
  rintro ⟨e, he, hnamed, hlarge⟩
  exact Value.exists_display_iff.mp (h e he hnamed) hlarge

/-- **The last entry of each flag decides.** Take any entries in which every value has a display.

* They are read. What is asked for under a flag is the display of the value of its last entry,
  and nothing if that value is empty or if there is no entry for the flag. Other entries do not
  count.
* If they are a mapping that has no flag under both of its names, then in any other sequence they
  give the same options and the same arguments of both kinds. -/
theorem ofMapping_last_decides (entries : Keyed Value) (hshown : EveryShown entries) :
    ∃ o, ofMapping entries = .ok o ∧ (∀ f, LastAsks entries f (o.get f)) ∧
      (entries.names.Nodup → AliasFree entries → ∀ others, others.Perm entries →
        ofMapping others = .ok o ∧
        (ofMapping others).map directArguments = .ok o.directArguments ∧
        (ofMapping others).map interactiveArguments = .ok o.interactiveArguments) := by
  obtain ⟨o, ho⟩ := exists_ofMapping hshown.not_refused
  refine ⟨o, ho, lastAsks_of_ofMapping ho, fun hnames hfree others hperm => ?_⟩
  rw [ofMapping_perm hnames hfree hperm, ho]
  exact ⟨rfl, rfl, rfl⟩

/-- The least whole number that is too long for print. -/
def longNumber : Value := .int (10 ^ Value.digitLimit)

/-- A text for the schema that is taken back under the other name, a number for the model, and a
number too long for print under a name that means nothing. -/
def takenBack : Keyed Value :=
  [("schemaOutput", .text "schema.sql"), ("rows", longNumber), ("schema_output", .null),
    ("model", .int 7)]

/-- What is taken back is not asked for, a number too long for print does not count where it is
not named, and two entries may change places. -/
theorem ofMapping_last_decides_takenBack :
    EveryShown takenBack ∧
    (∃ o, ofMapping takenBack = .ok o ∧ LastAsks takenBack .schemaOutput (o.get .schemaOutput) ∧
      (o.get .schemaOutput, o.get .model) = (none, some (Text.ofString "7"))) ∧
    ofMapping [("data_output", .text "data.sql"), ("model", .text "HR")] =
      ofMapping [("model", .text "HR"), ("data_output", .text "data.sql")] := by
  have hshown : EveryShown takenBack := by
    intro e he hnamed
    simp only [takenBack, List.mem_cons, List.not_mem_nil, or_false] at he
    rcases he with rfl | rfl | rfl | rfl
    · exact ⟨_, rfl⟩
    · obtain ⟨f, hf⟩ := hnamed
      have hunnamed : ¬ f.IsNamed "rows" := by cases f <;> decide
      exact absurd hf hunnamed
    · exact ⟨_, rfl⟩
    · exact ⟨"7", by decide +kernel⟩
  have hpair : EveryShown [("model", .text "HR"), ("data_output", .text "data.sql")] := by
    intro e he _
    simp only [List.mem_cons, List.not_mem_nil, or_false] at he
    rcases he with rfl | rfl <;> exact ⟨_, rfl⟩
  obtain ⟨o, ho, hlast, -⟩ := ofMapping_last_decides takenBack hshown
  obtain ⟨o', ho', -, hperm⟩ := ofMapping_last_decides _ hpair
  refine ⟨hshown, ⟨o, ho, hlast _, ?_⟩, ?_⟩
  · have hread : (ofMapping takenBack).map (fun o => (o.get .schemaOutput, o.get .model)) =
        .ok (none, some (Text.ofString "7")) := by decide +kernel
    rw [ho] at hread
    exact Except.ok.inj hread
  · have hfree : AliasFree [("model", .text "HR"), ("data_output", .text "data.sql")] := by
      intro f
      cases f <;> decide
    rw [ho', (hperm (by decide) hfree _ (List.Perm.swap ..)).1]

end Options

end SynthDesk
