/-
Four views of the same options.

What is requested, the arguments of a command, the summary for the eye and the arguments after an
interview are made from options in four places. They agree: arguments that are read two at a
time are the pairs that are requested, the summary has a line for each of them, an interview
passes on what a command would without the three parameters that it does not ask for, and a
mapping of the pairs is read as the same options again.
-/
import SynthDesk.Options.Summary
import SynthDesk.Proofs.Options.KeyOrders
import SynthDesk.Proofs.Options.Mapping

set_option autoImplicit false

namespace SynthDesk.Options

/-! ## Arguments two at a time -/

/-- Arguments read two at a time: the name of a flag, without its dash, and a text. -/
def argumentPairs : List Text → List (Text × Text)
  | flag :: value :: r => (flag.drop 1, value) :: argumentPairs r
  | _ => []

theorem argumentPairs_flatMap (ps : List (Flag × Text)) :
    argumentPairs (ps.flatMap fun p => pair p.1 p.2) = ps.map fun p => (p.1.name, p.2) := by
  induction ps with
  | nil => rfl
  | cons p r ih => exact congrArg ((p.1.name, p.2) :: ·) ih

theorem argumentPairs_directArguments (o : Options) :
    argumentPairs o.directArguments = o.present.map fun p => (p.1.name, p.2) := by
  rw [directArguments_eq_flatMap, argumentPairs_flatMap]

theorem argumentPairs_eq_nil_iff (o : Options) :
    argumentPairs o.directArguments = [] ↔ o.directArguments = [] := by
  rw [directArguments_eq_flatMap, argumentPairs_flatMap]
  cases o.present with
  | nil => exact iff_of_true rfl rfl
  | cons p r => exact iff_of_false (List.cons_ne_nil _ _) (List.cons_ne_nil _ _)

/-! ## The summary -/

/-- A line of the summary for a pair of arguments, with the mask for the key of the data
service alone. -/
def summaryEntry (p : Text × Text) : Text :=
  flagMarkup p.1 (if p.1 = Text.ofString "mockApiKey" then mask else p.2)

theorem summaryLines_eq (o : Options) :
    o.summaryLines = (argumentPairs o.directArguments).map summaryEntry := by
  have hsecret : ∀ f : Flag, isSecret f = true ↔ f.name = Text.ofString "mockApiKey" := by
    intro f
    cases f <;> decide
  rw [argumentPairs_directArguments, List.map_map, summaryLines]
  refine List.map_congr_left fun p _ => ?_
  simp only [Function.comp_def, summaryEntry, shown, hsecret]

theorem describe_eq_join (o : Options) :
    o.describe = if argumentPairs o.directArguments = [] then nothingRequested
      else Text.join [Text.newline] ((argumentPairs o.directArguments).map summaryEntry) := by
  rw [describe, summaryLines_eq]
  cases argumentPairs o.directArguments with
  | nil => rfl
  | cons p r => rfl

/-- A summary of lines is not the fixed one: it begins with the colour of a flag. -/
theorem join_ne_nothingRequested (p : Text × Text) (r : List (Text × Text)) :
    Text.join [Text.newline] ((p :: r).map summaryEntry) ≠ nothingRequested := by
  have hhead : (Text.join [Text.newline] ((p :: r).map summaryEntry)).take 2 = "[c" := by
    cases r <;> rfl
  intro heq
  rw [heq] at hhead
  revert hhead
  decide

theorem describe_eq_nothingRequested_iff (o : Options) :
    o.describe = nothingRequested ↔ o.directArguments = [] := by
  rw [describe_eq_join, ← argumentPairs_eq_nil_iff]
  cases argumentPairs o.directArguments with
  | nil => exact iff_of_true rfl rfl
  | cons p r => exact iff_of_false (join_ne_nothingRequested p r) (List.cons_ne_nil p r)

/-! ## The mapping of the pairs -/

/-- The options with nothing asked for where the text is empty. -/
def withoutEmpty (o : Options) : Options := ⟨fun f => (o.get f).filter (· ≠ [])⟩

/-- The mapping that the pairs of a command's arguments make. -/
def mapping (o : Options) : Keyed Value :=
  (argumentPairs o.directArguments).map fun p => (p.1, .text p.2)

theorem mapping_eq (o : Options) : o.mapping = o.present.map fun p => (p.1.name, .text p.2) := by
  rw [mapping, argumentPairs_directArguments, List.map_map]
  rfl

/-- No name comes twice in it. -/
theorem nodup_names_mapping (o : Options) : o.mapping.names.Nodup := by
  have hnames : o.mapping.names =
      Flag.all.filterMap fun f => (o.requested f).map fun _ => f.name := by
    rw [mapping_eq, Keyed.names, present, List.map_map, List.map_filterMap]
    simp only [Option.map_map, Function.comp_def]
  have hall : Flag.all.Nodup := by decide
  rw [hnames]
  refine hall.filterMap fun f g name hf hg => ?_
  obtain ⟨_, -, rfl⟩ := Option.map_eq_some_iff.mp hf
  obtain ⟨_, -, hname⟩ := Option.map_eq_some_iff.mp hg
  exact Flag.name_injective hname.symm

theorem get_withoutEmpty (o : Options) (f : Flag) : o.withoutEmpty.get f = o.requested f :=
  (o.requested_eq f).symm

/-- **The mapping of the pairs is read as the same options**, in whatever sequence they come. -/
theorem ofMapping_of_perm {o : Options} {entries : Keyed Value} (hperm : entries.Perm o.mapping) :
    ofMapping entries = .ok o.withoutEmpty := by
  have hmem : ∀ e ∈ entries, ∃ g t, o.requested g = some t ∧ e = (g.name, .text t) := by
    intro e he
    rw [hperm.mem_iff, mapping_eq] at he
    obtain ⟨⟨g, t⟩, hgt, rfl⟩ := List.mem_map.mp he
    exact ⟨g, t, mem_present.mp hgt, rfl⟩
  have hshown : ¬ ∃ e ∈ entries, Refused e := by
    rintro ⟨e, he, -, hlarge⟩
    obtain ⟨g, t, -, rfl⟩ := hmem e he
    cases hlarge
  obtain ⟨p, hp⟩ := exists_ofMapping hshown
  rw [hp]
  refine congrArg Except.ok (ext_get fun f => ?_)
  rw [get_withoutEmpty]
  rcases (lastAsks_of_ofMapping hp f).unnamed_or with ⟨hx, hnone⟩ | ⟨e, he, hf, hx⟩
  · rw [hx, eq_comm, Option.eq_none_iff_forall_ne_some]
    intro t ht
    refine hnone (f.name, .text t) ?_ f.isNamed_name
    rw [hperm.mem_iff, mapping_eq]
    exact List.mem_map_of_mem (mem_present.mpr ht)
  · obtain ⟨g, t, hg, rfl⟩ := hmem e he
    obtain rfl := hf.unique g.isNamed_name
    rw [hg]
    exact hx.unique (.shown (fun h => by cases h) rfl)

/-! ## Agreement -/

/-- **The four views agree.** For any options

* the arguments of a command are, pair by pair, what is requested, and read two at a time they are
  these pairs;
* the summary has one line for each pair, in the same order, which shows the text or, for the key
  alone, the mask; it is the fixed line if and only if there are no arguments;
* the arguments after an interview are those of a command for the same options without the three
  parameters that an interview does not ask for;
* the pairs make a mapping, and in whatever sequence its entries come, it is read as the same
  options, with nothing asked for where a text was empty. -/
theorem views_agree (o : Options) :
    (o.directArguments = o.present.flatMap (fun p => pair p.1 p.2) ∧
      argumentPairs o.directArguments = o.present.map fun p => (p.1.name, p.2)) ∧
    (o.describe = (if argumentPairs o.directArguments = [] then nothingRequested
        else Text.join [Text.newline] ((argumentPairs o.directArguments).map summaryEntry)) ∧
      (o.describe = nothingRequested ↔ o.directArguments = [])) ∧
    o.interactiveArguments =
      (((o.set .diagram none).set .schemaOutput none).set .mockApiKey none).directArguments ∧
    o.mapping.names.Nodup ∧
    ∀ entries : Keyed Value, entries.Perm o.mapping → ofMapping entries = .ok o.withoutEmpty := by
  refine ⟨⟨o.directArguments_eq_flatMap, o.argumentPairs_directArguments⟩,
    ⟨o.describe_eq_join, o.describe_eq_nothingRequested_iff⟩, ?_, o.nodup_names_mapping,
    fun entries hperm => ofMapping_of_perm hperm⟩
  rw [interactiveArguments, directArguments, arguments_eq, arguments_eq]
  rfl

/-- Options with an empty model and a key. -/
def someOptions : Options :=
  ((empty.set .model (some "")).set .tables (some "jobs")).set .mockApiKey (some "s3cret")

/-- The empty model is neither passed on nor shown, the key is shown by its mask, and the two
entries of the mapping may change places. -/
theorem views_agree_someOptions :
    someOptions.describe =
      Text.join [Text.newline] ["[cyan]-tables:[/cyan] jobs", "[cyan]-mockApiKey:[/cyan] ****"] ∧
    someOptions.interactiveArguments = ["-tables", "jobs"] ∧
    ofMapping [("mockApiKey", .text "s3cret"), ("tables", .text "jobs")] =
      .ok someOptions.withoutEmpty ∧
    someOptions.withoutEmpty.get .model = none := by
  obtain ⟨-, ⟨hdescribe, -⟩, -, -, hmapping⟩ := views_agree someOptions
  refine ⟨hdescribe.trans (by decide +kernel), by decide +kernel, hmapping _ ?_, by decide⟩
  -- The mapping has the two entries the other way round.
  exact List.Perm.swap (Text.ofString "tables", Value.text "jobs") _ []

end SynthDesk.Options
