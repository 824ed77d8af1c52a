/-
Loading is all or nothing.

Either the file says something: its octets are a text, the text is an object, and
each of the four entries that has a field is of the right kind. Then the settings
are what it says, the last field of a name counting, with the initial content for
the entries that have none. Or it says nothing, for whatever reason, and then all
four entries are the initial ones, and there is one note about it. What the file
says is told here by the grammar of documents, without a look at the reader.
-/
import SynthDesk.Proofs.Json.Dialect
import SynthDesk.Proofs.Log.Sparing
import SynthDesk.Proofs.Settings.RoundTrip

set_option autoImplicit false

namespace SynthDesk

/-! ## Names that occur more than once -/

namespace Keyed

variable {α : Type}

/-- What the last pair of a name has. -/
def last? (k : Text) (pairs : List (Text × α)) : Option α :=
  (pairs.filter fun p => p.1 = k).getLast?.map Prod.snd

theorem ofPairs_concat (pairs : List (Text × α)) (p : Text × α) :
    ofPairs (pairs ++ [p]) = put p.1 p.2 (ofPairs pairs) := by
  rw [ofPairs, List.foldl_append]
  rfl

theorem last?_concat (k : Text) (pairs : List (Text × α)) (p : Text × α) :
    last? k (pairs ++ [p]) = if p.1 = k then some p.2 else last? k pairs := by
  rw [last?, List.filter_append]
  split
  · next h =>
    rw [List.filter_cons_of_pos (by simpa using h), List.getLast?_append]
    rfl
  · next h =>
    rw [List.filter_cons_of_neg (by simpa using h), List.filter_nil, List.append_nil]
    rfl

/-- **Of pairs with one name the last one counts.** -/
theorem get?_ofPairs (k : Text) (pairs : List (Text × α)) :
    get? k (ofPairs pairs) = last? k pairs := by
  induction pairs using List.reverseRecOn with
  | nil => rfl
  | append_singleton pairs p ih =>
    rw [ofPairs_concat, last?_concat]
    split
    · next h => rw [h, get?_put_self]
    · next h => rw [get?_put_of_ne (Ne.symm h), ih]

end Keyed

namespace Settings

/-! ## Settings that fields describe -/

/-- An entry holds what the last field of its name writes, or the initial content if
there is no such field. -/
def Described {α : Type} (fields : List (Text × Value)) (name : Text) (write : α → Value)
    (otherwise a : α) : Prop :=
  match Keyed.last? name fields with
  | none => a = otherwise
  | some v => v = write a

/-- **Settings that are described by fields**, all four entries. -/
structure DescribedBy (fields : List (Text × Value)) (s : Settings) : Prop where
  model : Described fields Entry.model.name .text initial.model s.model
  tables : Described fields tablesName (fun ts => .list (ts.map .text)) initial.tables s.tables
  dataOutput : Described fields Entry.dataOutput.name .text initial.dataOutput s.dataOutput
  syntheticGenerate : Described fields Entry.syntheticGenerate.name .text
    initial.syntheticGenerate s.syntheticGenerate

section Described

variable {fields : List (Text × Value)}

theorem entryOf_eq_ok_iff {e : Entry} {otherwise t : Text} :
    entryOf (Keyed.ofPairs fields) e otherwise = .ok t ↔
      Described fields e.name .text otherwise t := by
  rw [entryOf, Keyed.get?_ofPairs, Described]
  cases Keyed.last? e.name fields with
  | none => exact ⟨fun h => (Except.ok.inj h).symm, fun h => congrArg _ h.symm⟩
  | some v =>
    cases v with
    | text u =>
      show (Except.ok u = Except.ok t) ↔ (Value.text u = .text t)
      rw [Except.ok.injEq, Value.text.injEq]
    | _ => exact iff_of_false (fun h => by cases h) (fun h => by cases h)

theorem tablesOf_eq_ok_iff {ts : List Text} :
    tablesOf (Keyed.ofPairs fields) = .ok ts ↔
      Described fields tablesName (fun ts => .list (ts.map .text)) initial.tables ts := by
  rw [tablesOf, Keyed.get?_ofPairs, Described]
  cases Keyed.last? tablesName fields with
  | none => exact ⟨fun h => (Except.ok.inj h).symm, fun h => congrArg _ h.symm⟩
  | some v =>
    cases v with
    | list items =>
      have hitems : (Value.list items = .list (ts.map .text)) ↔ Value.texts? items = some ts := by
        rw [texts?_eq_some_iff, Value.list.injEq]
      simp only [hitems]
      cases Value.texts? items with
      | none => exact iff_of_false (fun h => by cases h) (fun h => by cases h)
      | some us =>
        show (Except.ok us = Except.ok ts) ↔ (some us = some ts)
        rw [Except.ok.injEq, Option.some.injEq]
    | _ => exact iff_of_false (fun h => by cases h) (fun h => by cases h)

/-- **Settings are read from an object exactly if its fields describe them.** -/
theorem ofValue_eq_ok_iff {s : Settings} :
    ofValue (.object (Keyed.ofPairs fields)) = .ok s ↔ s.DescribedBy fields := by
  constructor
  · intro h
    unfold ofValue at h
    obtain ⟨tables, htables, h⟩ := Json.bind_eq_ok.mp h
    obtain ⟨model, hmodel, h⟩ := Json.bind_eq_ok.mp h
    obtain ⟨dataOutput, hdataOutput, h⟩ := Json.bind_eq_ok.mp h
    obtain ⟨syntheticGenerate, hsynthetic, h⟩ := Json.bind_eq_ok.mp h
    cases h
    exact ⟨entryOf_eq_ok_iff.mp hmodel, tablesOf_eq_ok_iff.mp htables,
      entryOf_eq_ok_iff.mp hdataOutput, entryOf_eq_ok_iff.mp hsynthetic⟩
  · intro h
    rw [ofValue, tablesOf_eq_ok_iff.mpr h.tables, entryOf_eq_ok_iff.mpr h.model,
      entryOf_eq_ok_iff.mpr h.dataOutput, entryOf_eq_ok_iff.mpr h.syntheticGenerate]
    rfl

end Described

/-! ## What the file says -/

namespace Store

/-- **The file says these settings**: it can be read, it holds the octets of a text,
the text is an object, and its fields describe the settings. -/
def Says (store : Store) (t : FileTree) (s : Settings) : Prop :=
  ∃ text levels fields, t.read store.path = .ok (Utf8.encode text) ∧
    (∀ c ∈ text, c.isSurrogate = false) ∧ Json.IsObject levels text fields ∧ s.DescribedBy fields

variable {store : Store} {t : FileTree} {s : Settings}

/-- What the file says is found in it, unless it has too many levels. -/
theorem load_of_says (h : store.Says t s) (limit : Nat) :
    store.load limit t = .ok ⟨s, []⟩ ∨ ∃ n, store.load limit t = .error n := by
  obtain ⟨text, levels, fields, hread, htext, hobject, hs⟩ := h
  rw [load, hread]
  dsimp only
  rw [parse, Utf8.decode_eq_ok_iff.mpr (Utf8.decode?_encode htext)]
  dsimp only
  rcases Json.document_finds hobject.isDocument limit with hdocument | ⟨-, n, hdocument⟩
  · refine Or.inl ?_
    rw [hdocument]
    dsimp only
    rw [ofValue_eq_ok_iff.mpr hs]
    rfl
  · refine Or.inr ⟨n, ?_⟩
    rw [hdocument]

/-- Octets that are read as settings are those of an object that describes them. -/
theorem exists_isObject_of_parse {limit : Nat} {content : List Octet}
    (h : parse limit content = .ok (.ok s)) :
    ∃ text levels fields, content = Utf8.encode text ∧ (∀ c ∈ text, c.isSurrogate = false) ∧
      Json.IsObject levels text fields ∧ s.DescribedBy fields := by
  unfold parse at h
  split at h
  · cases h
  next text htext =>
  obtain ⟨hcontent, hpoints⟩ := Utf8.decode?_eq_some_iff.mp (Utf8.decode_eq_ok_iff.mp htext)
  split at h
  · cases h
  · cases h
  · cases h
  next v hdocument =>
  cases v with
  | object fields =>
    obtain ⟨levels, pairs, hobject, rfl⟩ := Json.exists_isObject (Json.document_sound hdocument)
    cases hvalue : ofValue (.object (Keyed.ofPairs pairs)) with
    | error e =>
      rw [hvalue] at h
      cases h
    | ok s' =>
      rw [hvalue] at h
      cases h
      exact ⟨text, levels, pairs, hcontent, hpoints, hobject, ofValue_eq_ok_iff.mp hvalue⟩
  | _ => cases h

/-- Loading finds what the file says, or comes to the initial settings. -/
theorem load_cases {limit : Nat} {loaded : Loaded} (h : store.load limit t = .ok loaded) :
    store.Says t loaded.settings ∧ loaded.records = [] ∨
      ∃ e, loaded = .ofResult store.path (.error e) := by
  unfold load at h
  split at h
  · next e hread =>
    cases h
    exact Or.inr ⟨_, rfl⟩
  · next content hread =>
    split at h
    · cases h
    · next result hresult =>
      cases h
      cases result with
      | error e => exact Or.inr ⟨e, rfl⟩
      | ok s =>
        obtain ⟨text, levels, fields, rfl, htext, hobject, hs⟩ := exists_isObject_of_parse hresult
        exact Or.inl ⟨⟨text, levels, fields, hread, htext, hobject, hs⟩, rfl⟩

/-- **Loading is all or nothing.** Take any file tree in which loading comes to an
end.

* If the file says settings, they are loaded, and nothing is noted.
* If it says none, all of the settings are the initial ones, and there is one note
  that they are used, with a reason.
* However the notes are taken down, the files that the log does not write are what
  they were.

The documents in which settings can be said are those of the grammar: the words for
doubles that are no finite numbers are values; digits that are too many are none;
there is no byte order mark before a document, and no control in a string. -/
theorem load_all_or_nothing (store : Store) (limit : Nat) (t : FileTree) (loaded : Loaded)
    (h : store.load limit t = .ok loaded) :
    (∀ s, store.Says t s → loaded = ⟨s, []⟩) ∧
    ((∀ s, ¬ store.Says t s) → loaded.settings = initial ∧
      ∃ reason, loaded.records = [⟨.debug, Log.settingsPart,
        Text.ofString "Using default configuration (" ++ store.path.toText ++
          Text.ofString "): " ++ reason, none⟩]) ∧
    (∀ (logger : Log.Logger) p, logger.Spares t p →
      FileTree.Keeps p t ((⟨t, logger⟩ : Desk).after (loaded.records.map .notes)).tree) ∧
    (∀ levels, Json.Written levels "NaN" (.float .nan) ∧
      Json.Written levels "Infinity" (.float (.infinite false)) ∧
      Json.Written levels "-Infinity" (.float (.infinite true))) ∧
    (∀ levels negative ds v, Json.Digits ds → 4300 < ds.length →
      ¬ Json.Written levels (Json.sign negative ++ ds) v) ∧
    (∀ levels text fields, ¬ Json.IsObject levels (CodePoint.ofNat 0xFEFF :: text) fields) ∧
    (∀ written text, Json.IsString written text → ∀ c ∈ written, 0x20 ≤ c.val) := by
  refine ⟨?_, ?_, ?_, ?_, ?_, ?_, ?_⟩
  · intro s hs
    rcases load_of_says hs limit with hload | ⟨n, hload⟩
    · exact Except.ok.inj (h.symm.trans hload)
    · cases h.symm.trans hload
  · intro hnone
    rcases load_cases h with ⟨hs, -⟩ | ⟨e, rfl⟩
    · exact absurd hs (hnone _)
    · exact ⟨rfl, e.reason, by simp only [Loaded.ofResult, List.append_assoc]⟩
  · intro logger p hp
    exact Desk.keeps_after (d := ⟨t, logger⟩) hp _
  · intro levels
    exact ⟨Json.written_word (by simp [Json.words]) levels,
      Json.written_word (by simp [Json.words]) levels,
      Json.written_word (by simp [Json.words]) levels⟩
  · intro levels negative ds v hds hmany
    exact Json.not_written_digits hds hmany levels negative v
  · intro levels text fields hobject
    exact Json.not_isDocument_mark _ _ _ hobject.isDocument
  · intro written text hstring
    exact hstring.controlless

/-- A document with two fields of one name, of which the first is of the wrong kind,
without two of the entries, and with a field that is none; and octets that are no
text. -/
theorem load_all_or_nothing_sparse :
    (⟨.ofText fileName⟩ : Store).load 2 sparse = .ok ⟨sparseSettings, []⟩ ∧
      (⟨.ofText fileName⟩ : Store).Says sparse sparseSettings ∧
      ∃ loaded, (⟨.ofText fileName⟩ : Store).load 2 scribbled = .ok loaded ∧
        loaded.settings = initial ∧ ∀ s, ¬ (⟨.ofText fileName⟩ : Store).Says scribbled s := by
  have hload : (⟨.ofText fileName⟩ : Store).load 2 sparse = .ok ⟨sparseSettings, []⟩ := by
    decide +kernel
  have hscribbled : (⟨.ofText fileName⟩ : Store).load 2 scribbled =
      .ok (.ofResult (.ofText fileName) (.error (.notUtf8 ⟨Utf8.octet 0xFF, 1, 0, .start⟩))) := by
    decide +kernel
  obtain ⟨hsaid, hunsaid, -⟩ := load_all_or_nothing _ 2 sparse _ hload
  obtain ⟨hsaid', -⟩ := load_all_or_nothing _ 2 scribbled _ hscribbled
  refine ⟨hload, ?_, _, hscribbled, rfl, fun s hs => ?_⟩
  · -- Nothing is noted, so something was said.
    by_cases hsome : ∃ s, (⟨.ofText fileName⟩ : Store).Says sparse s
    · obtain ⟨s, hs⟩ := hsome
      cases hsaid s hs
      exact hs
    · obtain ⟨-, reason, hrecords⟩ := hunsaid (not_exists.mp hsome)
      cases hrecords
  · cases hsaid' s hs

end Store

end Settings

end SynthDesk
