/-
Saving is all or nothing.

Three things can go wrong with a draft, and one with the file: the tables have no items,
something in it cannot be written in a document, the draft is nested too deep, the path cannot
be written. Each of them comes before anything is written, so whatever went wrong, the whole
file tree is the one before. And where nothing went wrong one file has changed, the store's
own, and it has the whole document.

One path is neither: that of a device, to which anything can be saved, and which has nothing
of it afterwards.
-/
import SynthDesk.Settings.Saving
import SynthDesk.Proofs.Files.Changes
import SynthDesk.Proofs.Json.Levels
import SynthDesk.Proofs.Settings.RoundTrip

set_option autoImplicit false

namespace SynthDesk

/-! ## The members of an object -/

namespace Json

variable {level : Nat}

theorem writeAt_object_eq_ok_iff {fields : List (Text × Value)} {text : Text} :
    writeAt level (.object fields) = .ok text ↔ ∃ members, writeFields (level + 1) fields =
      .ok members ∧ text = bracket '\x7b' '\x7d' level members := by
  rw [writeAt]
  cases writeFields (level + 1) fields with
  | error e => simp [bind, Except.bind]
  | ok members => simp [bind, Except.bind, pure, Except.pure, eq_comm]

theorem writeFields_nil_eq_ok_iff {members : List Text} :
    writeFields level [] = .ok members ↔ members = [] := by
  rw [writeFields, Except.ok.injEq, eq_comm]

theorem writeFields_cons_eq_ok_iff {k : Text} {v : Value} {r : List (Text × Value)}
    {members : List Text} :
    writeFields level ((k, v) :: r) = .ok members ↔
      ∃ shown rest, writeAt level v = .ok shown ∧ writeFields level r = .ok rest ∧
        members = (quote k ++ Text.ofString ": " ++ shown) :: rest := by
  rw [writeFields]
  cases writeAt level v with
  | error e => simp [bind, Except.bind]
  | ok shown =>
    cases writeFields level r with
    | error e => simp [bind, Except.bind]
    | ok rest => simp [bind, Except.bind, pure, Except.pure, eq_comm]

end Json

namespace Settings

/-! ## The document of a draft -/

/-- A document of four members, as they are written in it. -/
def documentText (model tables dataOutput syntheticGenerate : Text) : Text :=
  Text.ofString "\x7b\n  \"model\": " ++ model ++
    Text.ofString ",\n  \"tables\": " ++ tables ++
    Text.ofString ",\n  \"dataOutput\": " ++ dataOutput ++
    Text.ofString ",\n  \"syntheticGenerate\": " ++ syntheticGenerate ++
    Text.ofString "\n\x7d"

/-- **The text is the whole document of the draft.** -/
def Draft.IsDocument (d : Draft) (text : Text) : Prop :=
  ∃ items, itemsOf d.tables = .ok items ∧ ∃ model tables dataOutput syntheticGenerate,
    Json.writeAt 1 d.model = .ok model ∧
    Json.writeAt 1 (.list items) = .ok tables ∧
    Json.writeAt 1 d.dataOutput = .ok dataOutput ∧
    Json.writeAt 1 d.syntheticGenerate = .ok syntheticGenerate ∧
    text = documentText model tables dataOutput syntheticGenerate

/-- The members of a draft, with the items of its tables. -/
def Draft.members (d : Draft) (items : List Value) : List (Text × Value) := [
  (Entry.model.name, d.model),
  (tablesName, .list items),
  (Entry.dataOutput.name, d.dataOutput),
  (Entry.syntheticGenerate.name, d.syntheticGenerate)]

theorem toValue_eq_ok_iff {d : Draft} {v : Value} :
    d.toValue = .ok v ↔ ∃ items, itemsOf d.tables = .ok items ∧ v = .object (d.members items) := by
  rw [Draft.toValue]
  cases itemsOf d.tables with
  | error e => simp
  | ok items => simp [Draft.members, eq_comm]

theorem bracket_eq_documentText (model tables dataOutput syntheticGenerate : Text) :
    Json.bracket '\x7b' '\x7d' 0 [
      Json.quote Entry.model.name ++ Text.ofString ": " ++ model,
      Json.quote tablesName ++ Text.ofString ": " ++ tables,
      Json.quote Entry.dataOutput.name ++ Text.ofString ": " ++ dataOutput,
      Json.quote Entry.syntheticGenerate.name ++ Text.ofString ": " ++ syntheticGenerate] =
    documentText model tables dataOutput syntheticGenerate := by
  simp only [Json.bracket, Text.join, documentText, List.append_assoc, List.cons_append]
  rfl

theorem write_members_eq_ok_iff {d : Draft} {items : List Value} {text : Text} :
    Json.write (.object (d.members items)) = .ok text ↔
      ∃ model tables dataOutput syntheticGenerate,
        Json.writeAt 1 d.model = .ok model ∧
        Json.writeAt 1 (.list items) = .ok tables ∧
        Json.writeAt 1 d.dataOutput = .ok dataOutput ∧
        Json.writeAt 1 d.syntheticGenerate = .ok syntheticGenerate ∧
        text = documentText model tables dataOutput syntheticGenerate := by
  rw [Json.write, Json.writeAt_object_eq_ok_iff]
  simp only [Draft.members, Json.writeFields_cons_eq_ok_iff, Json.writeFields_nil_eq_ok_iff]
  constructor
  · rintro ⟨_, ⟨model, _, hmodel, ⟨tables, _, htables, ⟨dataOutput, _, hdataOutput,
      ⟨syntheticGenerate, _, hsynthetic, rfl, rfl⟩, rfl⟩, rfl⟩, rfl⟩, rfl⟩
    exact ⟨model, tables, dataOutput, syntheticGenerate, hmodel, htables, hdataOutput, hsynthetic,
      bracket_eq_documentText ..⟩
  · rintro ⟨model, tables, dataOutput, syntheticGenerate, hmodel, htables, hdataOutput, hsynthetic,
      rfl⟩
    exact ⟨_, ⟨_, _, hmodel, ⟨_, _, htables, ⟨_, _, hdataOutput, ⟨_, _, hsynthetic, rfl, rfl⟩,
      rfl⟩, rfl⟩, rfl⟩, (bracket_eq_documentText ..).symm⟩

theorem document_eq_ok_iff_write {d : Draft} {text : Text} :
    d.document = .ok text ↔ ∃ v, d.toValue = .ok v ∧ Json.write v = .ok text := by
  rw [Draft.document]
  cases d.toValue with
  | error e => simp
  | ok v =>
    simp only [Except.ok.injEq, exists_eq_left']
    cases Json.write v with
    | error e => simp
    | ok written => simp

/-- **What the document of a draft is.** -/
theorem document_eq_ok_iff {d : Draft} {text : Text} :
    d.document = .ok text ↔ d.IsDocument text := by
  rw [document_eq_ok_iff_write, Draft.IsDocument]
  constructor
  · rintro ⟨v, hv, hwrite⟩
    obtain ⟨items, hitems, rfl⟩ := toValue_eq_ok_iff.mp hv
    exact ⟨items, hitems, write_members_eq_ok_iff.mp hwrite⟩
  · rintro ⟨items, hitems, hmembers⟩
    exact ⟨_, toValue_eq_ok_iff.mpr ⟨items, hitems, rfl⟩, write_members_eq_ok_iff.mpr hmembers⟩

/-- A draft has a document, unless the tables have no items or something cannot be written. -/
theorem exists_document_iff {d : Draft} :
    (∃ text, d.document = .ok text) ↔ ∃ v, d.toValue = .ok v ∧ ¬ v.Unwritable := by
  have hwrite : ∀ v : Value, (∃ text, Json.write v = .ok text) ↔ ¬ v.Unwritable := by
    intro v
    rw [← Json.exists_writeAt_error_iff 0 v, ← Json.write]
    cases Json.write v with
    | error e => simp
    | ok text => simp
  simp only [document_eq_ok_iff_write, ← hwrite]
  constructor
  · rintro ⟨text, v, hv, htext⟩
    exact ⟨v, hv, text, htext⟩
  · rintro ⟨v, hv, text, htext⟩
    exact ⟨text, v, hv, htext⟩

namespace Store

variable {store : Store} {levels : Nat} {t : FileTree} {d : Draft}

/-! ## The endings of a saving -/

/-- The note about a saving. -/
def savedNote (store : Store) : Log.Record :=
  ⟨.info, Log.settingsPart, Text.ofString "Configuration saved to " ++ store.path.toText,
    none⟩

/-- The note about a saving that failed. -/
def failureNote (store : Store) (e : SaveFailure) : Log.Record :=
  ⟨.error, Log.settingsPart, Text.ofString "Failed to save configuration to " ++
    store.path.toText ++ Text.ofString ": " ++ e.message, none⟩

/-- **The endings of a saving.** The levels give out; or there is a document and it is written;
or one of the two fails. -/
inductive Ends (store : Store) (levels : Nat) (t : FileTree) (d : Draft) : SaveEnding → Prop
  | outOfLevels : d.exceeds levels = true → Ends store levels t d ⟨.error .mk, t, []⟩
  | saved {text : Text} {t' : FileTree} : d.exceeds levels = false → d.document = .ok text →
    t.write store.path (Utf8.encode text) = .ok t' →
      Ends store levels t d ⟨.ok true, t', [store.savedNote]⟩
  | failed {e : SaveFailure} : d.exceeds levels = false → store.write t d = .error e →
    Ends store levels t d ⟨.ok false, t, [store.failureNote e]⟩

theorem write_eq_ok_iff {t' : FileTree} : store.write t d = .ok t' ↔
    ∃ text, d.document = .ok text ∧ t.write store.path (Utf8.encode text) = .ok t' := by
  rw [write]
  cases d.document with
  | error e => simp
  | ok text =>
    simp only [Except.ok.injEq, exists_eq_left']
    cases t.write store.path (Utf8.encode text) with
    | error e => simp
    | ok written => simp

theorem saveWithin_ends (store : Store) (levels : Nat) (t : FileTree) (d : Draft) :
    Ends store levels t d (store.saveWithin levels t d) := by
  rw [saveWithin]
  by_cases hexceeds : d.exceeds levels = true
  · rw [if_pos hexceeds]
    exact .outOfLevels hexceeds
  · have hwithin : d.exceeds levels = false := Bool.eq_false_iff.mpr hexceeds
    rw [if_neg hexceeds, save]
    cases hwrite : store.write t d with
    | error e => exact .failed hwithin hwrite
    | ok t' =>
      obtain ⟨text, htext, hput⟩ := write_eq_ok_iff.mp hwrite
      exact .saved hwithin htext hput

/-- There is nothing wrong with a draft that has a document and stays within the levels. -/
theorem exists_not_faulty_iff :
    (∃ v, d.toValue = .ok v ∧ ¬ Json.Faulty levels v) ↔
      d.exceeds levels = false ∧ ∃ text, d.document = .ok text := by
  rw [exists_document_iff, Draft.exceeds]
  cases d.toValue with
  | error e => simp
  | ok v =>
    simp only [Except.ok.injEq, exists_eq_left', decide_eq_false_iff_not]
    constructor
    · intro h
      rw [Json.obstacle?_eq_none_iff levels v |>.mpr h]
      exact ⟨by simp, fun hwrong => h (.inl hwrong)⟩
    · -- The first obstacle would be something unwritable or a level, and both are ruled out.
      rintro ⟨hlevels, hwrong⟩
      rw [← Json.obstacle?_eq_none_iff]
      cases hobstacle : Json.obstacle? levels v with
      | none => rfl
      | some o =>
        cases o with
        | digits => exact absurd (Json.tells_of_obstacle? levels v hobstacle) hwrong
        | unsupported => exact absurd (Json.tells_of_obstacle? levels v hobstacle) hwrong
        | levels => exact absurd hobstacle hlevels

theorem deeper_of_exceeds (h : d.exceeds levels = true) :
    ∃ v, d.toValue = .ok v ∧ v.Deeper levels := by
  unfold Draft.exceeds at h
  split at h
  · cases h
  · next v hv =>
    rw [decide_eq_true_eq] at h
    exact ⟨v, hv, Json.tells_of_obstacle? levels v h⟩

/-- **What is saved.** A draft with nothing wrong, where the path can be written. -/
theorem Ends.saved_iff {e : SaveEnding} (h : Ends store levels t d e) : e.answer = .ok true ↔
    (∃ v, d.toValue = .ok v ∧ ¬ Json.Faulty levels v) ∧ t.CanWrite store.path := by
  rw [exists_not_faulty_iff]
  cases h with
  | outOfLevels hexceeds => simp [hexceeds]
  | saved hexceeds htext hwrite =>
    exact iff_of_true rfl ⟨⟨hexceeds, _, htext⟩, FileTree.exists_update_iff.mp ⟨_, hwrite⟩⟩
  | failed hexceeds hfailed =>
    refine iff_of_false (fun h => by cases h) ?_
    rintro ⟨⟨-, text, htext⟩, hcan⟩
    obtain ⟨t', hwrite⟩ : ∃ t', t.write store.path (Utf8.encode text) = .ok t' :=
      FileTree.exists_update_iff.mpr hcan
    rw [write_eq_ok_iff.mpr ⟨text, htext, hwrite⟩] at hfailed
    cases hfailed

/-- Two levels hold all settings: one for the members, one for the tables. -/
theorem not_deeper_toValue (s : Settings) (n : Nat) : ¬ s.toValue.Deeper (n + 2) := by
  have htext : ∀ (levels : Nat) (text : Text), ¬ (Value.text text).Deeper levels := by
    intro levels text h
    cases h
  intro h
  rw [toValue_eq_object] at h
  cases h with
  | field hmem hdeep =>
    simp only [fields, List.mem_cons, Prod.mk.injEq, List.not_mem_nil, or_false] at hmem
    rcases hmem with ⟨-, rfl⟩ | ⟨-, rfl⟩ | ⟨-, rfl⟩ | ⟨-, rfl⟩
    · exact htext _ _ hdeep
    · cases hdeep with
      | item hmem hdeep =>
        obtain ⟨text, -, rfl⟩ := List.mem_map.mp hmem
        exact htext _ _ hdeep
    · exact htext _ _ hdeep
    · exact htext _ _ hdeep

/-- The levels do not give out on settings. -/
theorem saveWithin_toDraft (store : Store) (n : Nat) (t : FileTree) (s : Settings) :
    store.saveWithin (n + 2) t s.toDraft =
      ⟨.ok (store.save t s.toDraft).saved, (store.save t s.toDraft).tree,
        (store.save t s.toDraft).records⟩ := by
  have hexceeds : ¬ s.toDraft.exceeds (n + 2) = true := by
    intro h
    obtain ⟨v, hv, hdeep⟩ := deeper_of_exceeds h
    rw [toValue_toDraft] at hv
    cases hv
    exact not_deeper_toValue s n hdeep
  rw [saveWithin, if_neg hexceeds]

/-- **Saving is all or nothing.** Take any store, any number of levels, any file tree, and any
draft, whatever stands in its four entries.

* Where the levels give out, nothing has changed and nothing is noted; and there is more in
  the draft than the levels hold.
* Where the saving fails, nothing has changed, and there is one note, with what was refused.
* Where it succeeds, there is the whole document of the draft. Either the path leads to a
  device, which takes it and keeps nothing of it, and nothing has changed; or one file has
  changed, the one that the path leads to, and the document is what is in it.
* It succeeds exactly if there is nothing wrong with the draft and the path can be written. -/
theorem saveWithin_all_or_nothing (store : Store) (levels : Nat) (t : FileTree) (d : Draft) :
    ((store.saveWithin levels t d).answer = .error .mk →
      (store.saveWithin levels t d).tree = t ∧ (store.saveWithin levels t d).records = [] ∧
      ∃ v, d.toValue = .ok v ∧ v.Deeper levels) ∧
    ((store.saveWithin levels t d).answer = .ok false →
      (store.saveWithin levels t d).tree = t ∧
      ∃ e, store.write t d = .error e ∧
        (store.saveWithin levels t d).records = [store.failureNote e]) ∧
    ((store.saveWithin levels t d).answer = .ok true →
      (store.saveWithin levels t d).records = [store.savedNote] ∧
      ∃ text, d.IsDocument text ∧
        ((t.LeadsToDevice store.path ∧ (store.saveWithin levels t d).tree = t) ∨
          ∃ at_, t.locate store.path = .ok at_ ∧
            t.OnlyFile at_ (Utf8.encode text) (store.saveWithin levels t d).tree)) ∧
    ((store.saveWithin levels t d).answer = .ok true ↔
      (∃ v, d.toValue = .ok v ∧ ¬ Json.Faulty levels v) ∧ t.CanWrite store.path) := by
  have hends := saveWithin_ends store levels t d
  -- From here on all that is known of the saving is how it ends.
  generalize store.saveWithin levels t d = e at hends ⊢
  refine ⟨?_, ?_, ?_, hends.saved_iff⟩
  · intro h
    cases hends with
    | outOfLevels hexceeds => exact ⟨rfl, rfl, deeper_of_exceeds hexceeds⟩
    | _ => cases h
  · intro h
    cases hends with
    | failed _ hfailed => exact ⟨rfl, _, hfailed, rfl⟩
    | _ => cases h
  · intro h
    cases hends with
    | saved _ htext hwrite =>
      exact ⟨rfl, _, document_eq_ok_iff.mp htext, FileTree.onlyFile_of_write hwrite⟩
    | _ => cases h

/-- A draft of which no entry is as it should be. -/
def oddDraft : Draft where
  model := .null
  tables := .text (Text.ofString "ab")
  dataOutput := .list [.bool true, .int 7]
  syntheticGenerate := .object [(Text.ofString "a", .null)]

/-- Another one, with tables that have no items. -/
def itemless : Draft := { oddDraft with tables := .bool false }

theorem saveWithin_all_or_nothing_oddDraft :
    ((⟨.ofText fileName⟩ : Store).saveWithin 1 scribbled oddDraft).tree = scribbled ∧
    ((⟨.ofText fileName⟩ : Store).saveWithin 2 scribbled itemless).tree = scribbled ∧
    ∃ text at_, oddDraft.IsDocument text ∧ scribbled.OnlyFile at_ (Utf8.encode text)
      ((⟨.ofText fileName⟩ : Store).saveWithin 2 scribbled oddDraft).tree := by
  obtain ⟨herror, -, -, -⟩ := saveWithin_all_or_nothing ⟨.ofText fileName⟩ 1 scribbled oddDraft
  obtain ⟨-, hfailed, -, -⟩ := saveWithin_all_or_nothing ⟨.ofText fileName⟩ 2 scribbled itemless
  obtain ⟨-, -, hsaved, -⟩ := saveWithin_all_or_nothing ⟨.ofText fileName⟩ 2 scribbled oddDraft
  refine ⟨(herror rfl).1, (hfailed rfl).1, ?_⟩
  have hholds : scribbled.Holds (.ofText fileName) (some scribble) :=
    ⟨["desk", fileName], by decide +kernel, by decide +kernel, rfl⟩
  obtain ⟨-, text, htext, ⟨hdevice, -⟩ | ⟨at_, -, honly⟩⟩ := hsaved rfl
  · exact absurd hdevice hholds.not_leadsToDevice
  · exact ⟨text, at_, htext, honly⟩

/-- The device that keeps nothing. -/
def device : Store := ⟨.ofText (Text.ofString "/dev/null")⟩

/-- A desk, and the device. -/
def machine : FileTree :=
  ⟨["desk"], [(["desk"], .directory), (["dev"], .directory), (["dev", "null"], .sink)], []⟩

/-- Not all that was saved is there afterwards. -/
theorem saveWithin_device_keeps_nothing :
    ¬ ((device.saveWithin 2 machine initial.toDraft).answer = .ok true →
      ∃ text, initial.toDraft.IsDocument text ∧
        (device.saveWithin 2 machine initial.toDraft).tree.read device.path =
          .ok (Utf8.encode text)) := by
  intro h
  obtain ⟨text, ⟨items, -, model, tables, dataOutput, syntheticGenerate, -, -, -, -, rfl⟩, hread⟩ :=
    h rfl
  have hnothing : (device.saveWithin 2 machine initial.toDraft).tree.read device.path = .ok [] :=
    rfl
  rw [hnothing] at hread
  have hnil := Utf8.encode_eq_nil_iff.mp (Except.ok.inj hread).symm
  cases hnil

end Store

end Settings

end SynthDesk
