/-
Orders that are given by names.

Names become an order once, at the beginning: they are refused if one of them is
no flag's, and the refusal lists all such names, each once and ascending. The list
is made by putting names one by one into a list that ascends strictly, and a list
like that is determined by what is in it; so it does not matter how often or
in what sequence the names came. Names that are accepted are those of an order,
place by place. Whoever looks them up later, one after another, finds each of
them, and the arguments are those of the order.
-/
import SynthDesk.Options.Arguments
import Mathlib.Data.List.Lex
import Mathlib.Data.List.Sort

set_option autoImplicit false

namespace SynthDesk

/-! ## Ascending texts -/

namespace Text

/-- The order in which names are listed is the one by code points. -/
theorem precedes_iff {t u : Text} : t.precedes u = true ↔ ¬ u < t := by
  induction t generalizing u with
  | nil => exact iff_of_true rfl (List.not_lt_nil u)
  | cons x xs ih =>
    cases u with
    | nil => exact iff_of_false Bool.false_ne_true (not_not.mpr (List.nil_lt_cons x xs))
    | cons y ys =>
      rw [precedes, List.cons_lt_cons_iff]
      by_cases hlt : x.val < y.val
      · rw [if_pos hlt]
        refine iff_of_true rfl ?_
        rintro (hless | ⟨rfl, -⟩)
        · exact lt_asymm hlt hless
        · exact lt_irrefl _ hlt
      · rw [if_neg hlt]
        by_cases hgt : y.val < x.val
        · rw [if_pos hgt]
          exact iff_of_false Bool.false_ne_true (not_not.mpr (.inl hgt))
        · have heq : y = x := Fin.ext (by omega)
          rw [if_neg hgt, ih]
          exact not_congr ⟨fun h => .inr ⟨heq, h⟩, fun h => (h.resolve_left hgt).2⟩

/-- Ascending strictly: in order, and none of them twice. -/
abbrev Ascending (ts : List Text) : Prop := ts.Pairwise (· < ·)

/-- **An ascending list is determined by what is in it.** -/
theorem Ascending.eq_of_mem_iff {ts us : List Text} (hts : Ascending ts) (hus : Ascending us)
    (h : ∀ t, t ∈ ts ↔ t ∈ us) : ts = us := by
  have hperm : ts.Perm us :=
    (List.perm_ext_iff_of_nodup (hts.imp ne_of_lt) (hus.imp ne_of_lt)).mpr h
  exact hperm.eq_of_pairwise (fun _ _ _ _ hab hba => absurd hab (lt_asymm hba)) hts hus

end Text

/-! ## Names that are no flags' -/

/-- A name that no flag has. -/
def Flag.Unknown (t : Text) : Prop := ∀ f : Flag, t ≠ f.name

theorem Flag.ofName?_eq_some_iff {t : Text} {f : Flag} : ofName? t = some f ↔ t = f.name := by
  constructor
  · intro h
    have hfound := List.find?_some h
    exact (of_decide_eq_true hfound).symm
  · rintro rfl
    exact ofName?_name f

theorem Flag.ofName?_eq_none_iff {t : Text} : ofName? t = none ↔ Unknown t := by
  rw [Option.eq_none_iff_forall_ne_some]
  exact forall_congr' fun f => not_congr ofName?_eq_some_iff

namespace KeyOrder

theorem mem_insertName {t u : Text} {ts : List Text} : u ∈ insertName t ts ↔ u = t ∨ u ∈ ts := by
  induction ts with
  | nil => rw [insertName, List.mem_singleton, or_iff_left List.not_mem_nil]
  | cons v r ih =>
    rw [insertName]
    split
    · next h =>
      rw [h, List.mem_cons]
      exact ⟨.inr, fun hu => hu.elim .inl id⟩
    · split
      · rw [List.mem_cons]
      · rw [List.mem_cons, ih, List.mem_cons]
        exact or_left_comm

/-- A name is put in its place. -/
theorem ascending_insertName {ts : List Text} (h : Text.Ascending ts) (t : Text) :
    Text.Ascending (insertName t ts) := by
  induction ts with
  | nil => exact List.pairwise_singleton _ t
  | cons v r ih =>
    obtain ⟨hv, hr⟩ := List.pairwise_cons.mp h
    rw [insertName]
    split
    · exact h
    · next hne =>
      split
      · next hle =>
        -- Before the first, and so before all of them.
        have hlt : t < v := lt_of_le_of_ne (not_lt.mp (Text.precedes_iff.mp hle)) hne
        refine List.pairwise_cons.mpr ⟨fun u hu => ?_, h⟩
        rcases List.mem_cons.mp hu with rfl | hu
        · exact hlt
        · exact hlt.trans (hv u hu)
      · next hnot =>
        have hlt : v < t := not_not.mp fun hle => hnot (Text.precedes_iff.mpr hle)
        refine List.pairwise_cons.mpr ⟨fun u hu => ?_, ih hr⟩
        rcases mem_insertName.mp hu with rfl | hu
        · exact hlt
        · exact hv u hu

theorem ascending_unknownNames (names : List Text) : Text.Ascending (unknownNames names) := by
  rw [unknownNames]
  induction names.filter fun t => (Flag.ofName? t).isNone with
  | nil => exact List.Pairwise.nil
  | cons t r ih => exact ascending_insertName ih t

theorem mem_unknownNames {names : List Text} {t : Text} :
    t ∈ unknownNames names ↔ t ∈ names ∧ Flag.Unknown t := by
  have hmem : ∀ ts : List Text, t ∈ ts.foldr insertName [] ↔ t ∈ ts := by
    intro ts
    induction ts with
    | nil => rfl
    | cons u r ih => rw [List.foldr_cons, mem_insertName, ih, List.mem_cons]
  rw [unknownNames, hmem, List.mem_filter, Option.isNone_iff_eq_none, Flag.ofName?_eq_none_iff]

/-- The names that no flag has do not depend on how often and in what sequence the
names come. -/
theorem unknownNames_congr {names others : List Text} (h : ∀ t, t ∈ others ↔ t ∈ names) :
    unknownNames others = unknownNames names := by
  refine (ascending_unknownNames others).eq_of_mem_iff (ascending_unknownNames names) fun t => ?_
  rw [mem_unknownNames, mem_unknownNames, h]

/-! ## Accepted and refused names -/

theorem ofNames_eq_error_iff {names : List Text} {e : UnknownFlags} :
    ofNames names = .error e ↔ e.names = unknownNames names ∧ ∃ t ∈ names, Flag.Unknown t := by
  have hnone : unknownNames names = [] ↔ ¬ ∃ t ∈ names, Flag.Unknown t := by
    rw [List.eq_nil_iff_forall_not_mem]
    exact ⟨fun h ⟨t, ht⟩ => h t (mem_unknownNames.mpr ht),
      fun h t ht => h ⟨t, mem_unknownNames.mp ht⟩⟩
  rw [ofNames]
  split
  · next hnil => exact iff_of_false (fun h => by cases h) fun h => hnone.mp hnil h.2
  · next hne =>
    have hsome : ∃ t ∈ names, Flag.Unknown t := not_not.mp fun h => hne (hnone.mpr h)
    constructor
    · intro h
      obtain rfl := Except.error.inj h
      exact ⟨rfl, hsome⟩
    · rintro ⟨heq, -⟩
      rw [← heq]

/-- Names that are flags' are those of the flags that they name. -/
theorem eq_map_name {names : List Text} (h : ∀ t ∈ names, ¬ Flag.Unknown t) :
    names = (names.filterMap Flag.ofName?).map Flag.name := by
  induction names with
  | nil => rfl
  | cons t r ih =>
    obtain ⟨ht, hr⟩ := List.forall_mem_cons.mp h
    obtain ⟨f, rfl⟩ := not_forall_not.mp ht
    rw [List.filterMap_cons_some (Flag.ofName?_name f), List.map_cons, ← ih hr]

/-- **The names that are accepted are those of an order**, place by place. -/
theorem ofNames_eq_ok_iff {names : List Text} {order : KeyOrder} :
    ofNames names = .ok order ↔ names = order.map Flag.name := by
  constructor
  · intro h
    have hknown : ∀ t ∈ names, ¬ Flag.Unknown t := by
      intro t ht hunknown
      have hrefused := ofNames_eq_error_iff.mpr ⟨rfl, t, ht, hunknown⟩
      rw [h] at hrefused
      cases hrefused
    rw [ofNames] at h
    split at h
    · obtain rfl := Except.ok.inj h
      exact eq_map_name hknown
    · cases h
  · rintro rfl
    have hknown : unknownNames (order.map Flag.name) = [] := by
      refine List.eq_nil_iff_forall_not_mem.mpr fun t ht => ?_
      obtain ⟨hmem, hunknown⟩ := mem_unknownNames.mp ht
      obtain ⟨f, -, rfl⟩ := List.mem_map.mp hmem
      exact hunknown f rfl
    rw [ofNames, hknown]
    simp only [List.filterMap_map, Function.comp_def, Flag.ofName?_name, List.filterMap_some]

end KeyOrder

/-! ## Arguments by name -/

namespace Options

theorem requested_eq (o : Options) (f : Flag) : o.requested f = (o.get f).filter (· ≠ []) := by
  rw [requested]
  cases o.get f with
  | none => rfl
  | some v => cases v <;> rfl

/-- **What a name of an order contributes to the arguments**: the name after a dash and the
text of its flag, or nothing where that text is open or empty. -/
inductive Contributes (o : Options) : Text → List Text → Prop
  | given {f : Flag} {v : Text} :
    o.get f = some v → v ≠ [] → Contributes o f.name [CodePoint.ofChar '-' :: f.name, v]
  | nothing {f : Flag} :
    (∀ v, o.get f = some v → v = []) → Contributes o f.name []

theorem contributes_namedPair (o : Options) (f : Flag) :
    o.Contributes f.name (namedPair f.name (o.get f)) := by
  cases hf : o.get f with
  | none =>
    refine .nothing fun v hv => ?_
    rw [hf] at hv
    cases hv
  | some v =>
    cases v with
    | nil =>
      refine .nothing fun v hv => ?_
      rw [hf] at hv
      exact (Option.some.inj hv).symm
    | cons c r => exact .given hf (List.cons_ne_nil c r)

theorem lookUp_name (o : Options) (f : Flag) : o.lookUp f.name = .ok (o.get f) := by
  rw [lookUp, Flag.ofName?_name]

/-- **No look-up fails on the names of an order**, and each name contributes in its turn. -/
theorem namedArguments_names (o : Options) (order : KeyOrder) :
    o.namedArguments (order.map Flag.name) =
      .ok (order.map fun f => namedPair f.name (o.get f)).flatten := by
  induction order with
  | nil => rfl
  | cons f r ih =>
    rw [List.map_cons, namedArguments, lookUp_name, ih]
    rfl

theorem arguments_eq (o : Options) (order : KeyOrder) :
    o.arguments order = (order.map fun f => namedPair f.name (o.get f)).flatten := by
  rw [arguments, List.flatMap_def]
  refine congrArg List.flatten (List.map_congr_left fun f _ => ?_)
  rw [requested]
  cases o.get f with
  | none => rfl
  | some v => cases v <;> rfl

/-- What is requested, flag by flag. -/
theorem mem_present {o : Options} {f : Flag} {v : Text} :
    (f, v) ∈ o.present ↔ o.requested f = some v := by
  rw [present, List.mem_filterMap]
  constructor
  · rintro ⟨g, -, hg⟩
    obtain ⟨w, hw, heq⟩ := Option.map_eq_some_iff.mp hg
    obtain ⟨rfl, rfl⟩ := Prod.mk.inj heq
    exact hw
  · intro hf
    exact ⟨f, Flag.mem_all f, by rw [hf]; rfl⟩

/-- The arguments for an order are what is requested of it, pair by pair. -/
theorem arguments_eq_flatMap (o : Options) (order : KeyOrder) :
    o.arguments order =
      (order.filterMap fun f => (o.requested f).map (f, ·)).flatMap fun p => pair p.1 p.2 := by
  induction order with
  | nil => rfl
  | cons f r ih =>
    rw [arguments] at ih
    rw [arguments, List.flatMap_cons, ih]
    cases hf : o.requested f with
    | none => rw [List.filterMap_cons_none (by rw [hf]; rfl), List.nil_append]
    | some v => rw [List.filterMap_cons_some (by rw [hf]; rfl), List.flatMap_cons]

/-- The arguments of a command are what is requested, pair by pair. -/
theorem directArguments_eq_flatMap (o : Options) :
    o.directArguments = o.present.flatMap fun p => pair p.1 p.2 :=
  o.arguments_eq_flatMap KeyOrder.direct

end Options

/-! ## Once and for all -/

/-- **Names are validated once and for all.**

* They are refused if and only if one of them is no flag's.
* The refusal then lists all such names, each once and ascending by code points; any other
  names among which there are the same ones, however often and in whatever sequence, are refused
  in the same words.
* Names that are accepted are those of an order. For any options each of them is found when it is
  looked up, and the arguments are what the names contribute, in their sequence and with
  nothing else; they are the arguments of that order. -/
theorem KeyOrder.ofNames_validates (names : List Text) :
    ((∃ e, ofNames names = .error e) ↔ ∃ t ∈ names, Flag.Unknown t) ∧
    (∀ e, ofNames names = .error e →
      e.message = Text.ofString "Unknown engine flags: " ++ Text.join ", " e.names ∧
      Text.Ascending e.names ∧ (∀ t, t ∈ e.names ↔ t ∈ names ∧ Flag.Unknown t) ∧
      ∀ others, (∀ t, t ∈ others ↔ t ∈ names) → ofNames others = .error e) ∧
    ∀ order, ofNames names = .ok order → names = order.map Flag.name ∧
      ∀ o : Options, ∃ parts, List.Forall₂ o.Contributes names parts ∧
        o.namedArguments names = .ok parts.flatten ∧ o.arguments order = parts.flatten := by
  refine ⟨⟨?_, ?_⟩, ?_, ?_⟩
  · rintro ⟨e, he⟩
    exact (ofNames_eq_error_iff.mp he).2
  · intro hunknown
    exact ⟨⟨unknownNames names⟩, ofNames_eq_error_iff.mpr ⟨rfl, hunknown⟩⟩
  · intro e he
    obtain ⟨hnames, t, ht, hunknown⟩ := ofNames_eq_error_iff.mp he
    refine ⟨rfl, ?_, fun u => ?_, fun others hothers => ofNames_eq_error_iff.mpr ⟨?_, ?_⟩⟩
    · rw [hnames]
      exact ascending_unknownNames names
    · rw [hnames]
      exact mem_unknownNames
    · rw [hnames, unknownNames_congr hothers]
    · exact ⟨t, (hothers t).mpr ht, hunknown⟩
  · intro order horder
    obtain rfl := ofNames_eq_ok_iff.mp horder
    refine ⟨rfl, fun o => ⟨_, ?_, o.namedArguments_names order, o.arguments_eq order⟩⟩
    rw [List.forall₂_map_left_iff, List.forall₂_map_right_iff, List.forall₂_same]
    exact fun f _ => o.contributes_namedPair f

/-- Names that are no flags' are listed once, though one of them comes twice; and a flag that is
named twice contributes twice. -/
theorem KeyOrder.ofNames_validates_repeated :
    (∃ e, ofNames ["zone", "model", "area", "zone"] = .error e ∧
      e.message = "Unknown engine flags: area, zone" ∧
      ofNames ["area", "zone", "model"] = .error e) ∧
    ofNames ["tables", "model", "tables"] = .ok [.tables, .model, .tables] ∧
      ∃ parts, List.Forall₂
          ((Options.empty.set .tables (some "jobs")).set .model (some "")).Contributes
          ["tables", "model", "tables"] parts ∧
        parts.flatten = ["-tables", "jobs", "-tables", "jobs"] := by
  have hrefused : ofNames ["zone", "model", "area", "zone"] = .error ⟨["area", "zone"]⟩ := by
    decide +kernel
  have haccepted : ofNames ["tables", "model", "tables"] = .ok [.tables, .model, .tables] := by
    decide +kernel
  obtain ⟨hmessage, -, -, hothers⟩ := (ofNames_validates _).2.1 _ hrefused
  obtain ⟨-, hparts⟩ := (ofNames_validates _).2.2 _ haccepted
  obtain ⟨parts, hcontributes, -, harguments⟩ :=
    hparts ((Options.empty.set .tables (some "jobs")).set .model (some ""))
  have hleft : (["area", "zone", "model"] : List Text) ⊆ ["zone", "model", "area", "zone"] := by
    decide +kernel
  have hright : (["zone", "model", "area", "zone"] : List Text) ⊆ ["area", "zone", "model"] := by
    decide +kernel
  exact ⟨⟨_, hrefused, hmessage.trans (by decide +kernel),
    hothers _ fun t => ⟨fun ht => hleft ht, fun ht => hright ht⟩⟩, haccepted, parts, hcontributes,
    harguments.symm.trans (by decide +kernel)⟩

end SynthDesk
