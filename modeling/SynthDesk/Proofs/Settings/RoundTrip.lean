/-
Settings are kept.

What was saved is loaded again, and the file is ASCII throughout: the writer of
the document and its reader are inverse to each other on settings without pairs
of halves, and the file gives back what was written to it. Loading gives
nothing but such settings, whatever the file holds, so what was loaded can be
saved and loaded for good: from the first saving on, nothing moves any more.
-/
import SynthDesk.Settings.Store
import SynthDesk.Proofs.Files.Writing
import SynthDesk.Proofs.Json.Documents

set_option autoImplicit false

namespace SynthDesk.Settings

/-- No text of the settings holds a high half with a low half right after it. -/
structure Unpaired (s : Settings) : Prop where
  model : s.model.Unpaired
  tables : ∀ t ∈ s.tables, t.Unpaired
  dataOutput : s.dataOutput.Unpaired
  syntheticGenerate : s.syntheticGenerate.Unpaired

/-! ## Settings and values -/

theorem texts?_map_text (ts : List Text) : Value.texts? (ts.map .text) = some ts := by
  induction ts with
  | nil => rfl
  | cons t r ih => rw [List.map_cons, Value.texts?, ih, Value.text?]

/-- Values that are texts throughout are the texts that are found in them. -/
theorem texts?_eq_some_iff {items : List Value} {ts : List Text} :
    Value.texts? items = some ts ↔ items = ts.map .text := by
  constructor
  · intro h
    induction items generalizing ts with
    | nil =>
      cases h
      rfl
    | cons v r ih =>
      rw [Value.texts?] at h
      split at h
      · next t us ht hus =>
        cases h
        cases v with
        | text u =>
          cases ht
          rw [ih hus, List.map_cons]
        | _ => cases ht
      · cases h
  · rintro rfl
    exact texts?_map_text ts

/-- The fields of the object that settings are. -/
def fields (s : Settings) : Keyed Value := [
  (Entry.model.name, .text s.model),
  (tablesName, .list (s.tables.map .text)),
  (Entry.dataOutput.name, .text s.dataOutput),
  (Entry.syntheticGenerate.name, .text s.syntheticGenerate)]

theorem toValue_eq_object (s : Settings) : s.toValue = .object s.fields := rfl

/-- Settings are read from the value that they are. -/
theorem ofValue_toValue (s : Settings) : ofValue s.toValue = .ok s := by
  have hget : s.fields.get? tablesName = some (.list (s.tables.map .text)) := rfl
  have htables : tablesOf s.fields = .ok s.tables := by
    rw [tablesOf, hget]
    simp only [texts?_map_text]
  rw [toValue_eq_object, ofValue, htables]
  rfl

/-! ## The document -/

/-- What the members of the document are, one after another. -/
def documentMembers (s : Settings) : List Text := [
  Json.quote Entry.model.name ++ Text.ofString ": " ++ Json.quote s.model,
  Json.quote tablesName ++ Text.ofString ": " ++
    Json.bracket '[' ']' 1 (s.tables.map Json.quote),
  Json.quote Entry.dataOutput.name ++ Text.ofString ": " ++ Json.quote s.dataOutput,
  Json.quote Entry.syntheticGenerate.name ++ Text.ofString ": " ++ Json.quote s.syntheticGenerate]

theorem writeItems_map_text (level : Nat) (ts : List Text) :
    Json.writeItems level (ts.map .text) = .ok (ts.map Json.quote) := by
  induction ts with
  | nil => rfl
  | cons t r ih =>
    rw [List.map_cons, Json.writeItems, Json.writeAt, ih]
    rfl

/-- **The document of settings.** -/
theorem document_toDraft (s : Settings) :
    s.toDraft.document = .ok (Json.bracket '\x7b' '\x7d' 0 s.documentMembers) := by
  have hwrite : Json.write s.toValue = .ok (Json.bracket '\x7b' '\x7d' 0 s.documentMembers) := by
    simp only [Json.write, toValue, Json.writeAt, Json.writeFields, writeItems_map_text]
    rfl
  rw [Draft.document, toValue_toDraft]
  simp only [hwrite]

theorem document_isAscii (s : Settings) :
    ∀ c ∈ Json.bracket '\x7b' '\x7d' 0 s.documentMembers, c.isAscii = true := by
  have hcolon : ∀ c ∈ Text.ofString ": ", c.isAscii = true := List.all_eq_true.mp rfl
  have hfield : ∀ (k shown : Text), (∀ c ∈ shown, c.isAscii = true) →
      ∀ c ∈ Json.quote k ++ Text.ofString ": " ++ shown, c.isAscii = true := by
    intro k shown hshown c hc
    rcases List.mem_append.mp hc with hc | hc
    · rcases List.mem_append.mp hc with hc | hc
      · exact Json.quote_isAscii k c hc
      · exact hcolon c hc
    · exact hshown c hc
  have htables : ∀ c ∈ Json.bracket '[' ']' 1 (s.tables.map Json.quote), c.isAscii = true := by
    apply Json.bracket_isAscii rfl rfl
    intro t ht
    obtain ⟨u, -, rfl⟩ := List.mem_map.mp ht
    exact Json.quote_isAscii u
  apply Json.bracket_isAscii rfl rfl
  intro t ht
  simp only [documentMembers, List.mem_cons, List.not_mem_nil, or_false] at ht
  rcases ht with rfl | rfl | rfl | rfl
  · exact hfield _ _ (Json.quote_isAscii _)
  · exact hfield _ _ htables
  · exact hfield _ _ (Json.quote_isAscii _)
  · exact hfield _ _ (Json.quote_isAscii _)

/-- **The document is read as the settings' value.** -/
theorem document_documentMembers {s : Settings} (hs : s.Unpaired) (levels : Nat) :
    Json.document (levels + 2) (Json.bracket '\x7b' '\x7d' 0 s.documentMembers) =
      .ok s.toValue := by
  have hname : ∀ e : Entry, e.name.Unpaired := by
    intro e
    cases e <;> decide
  have htablesName : tablesName.Unpaired := by decide
  -- The document opens one level for the fields, and a second one for the tables.
  have htext : ∀ (k : Text) {t : Text}, k.Unpaired → t.Unpaired →
      Json.Reads (Json.field (Json.value (levels + 1))) (CodePoint.ofChar '\x7d')
        (Json.quote k ++ Text.ofString ": " ++ Json.quote t) (k, .text t) := by
    intro k t hk ht
    have hread : Json.Reads (Json.value (levels + 1)) (CodePoint.ofChar '\x7d') (Json.quote t)
        (.text t) := Json.reads_quote (by decide) (levels + 1) ht
    exact Json.reads_field hk hread
  have hitems : List.Forall₂ (Json.Reads (Json.value levels) (CodePoint.ofChar ']'))
      (s.tables.map Json.quote) (s.tables.map .text) := by
    rw [List.forall₂_map_left_iff, List.forall₂_map_right_iff, List.forall₂_same]
    intro t ht
    exact Json.reads_quote (by decide) levels (hs.tables t ht)
  have hlist : Json.Reads (Json.value (levels + 1)) (CodePoint.ofChar '\x7d')
      (Json.bracket '[' ']' 1 (s.tables.map Json.quote)) (.list (s.tables.map .text)) :=
    Json.reads_list (by decide) 1 hitems
  have htables : Json.Reads (Json.field (Json.value (levels + 1))) (CodePoint.ofChar '\x7d')
      (Json.quote tablesName ++ Text.ofString ": " ++
        Json.bracket '[' ']' 1 (s.tables.map Json.quote))
      (tablesName, .list (s.tables.map .text)) :=
    Json.reads_field htablesName hlist
  have hmembers : List.Forall₂
      (Json.Reads (Json.field (Json.value (levels + 1))) (CodePoint.ofChar '\x7d'))
      s.documentMembers s.fields :=
    .cons (htext _ (hname _) hs.model) (.cons htables (.cons (htext _ (hname _) hs.dataOutput)
      (.cons (htext _ (hname _) hs.syntheticGenerate) .nil)))
  have hread : Json.Reads (Json.value (levels + 2)) (CodePoint.ofChar '"')
      (Json.bracket '\x7b' '\x7d' 0 s.documentMembers) s.toValue :=
    Json.reads_object (by decide) 0 hmembers
  exact Json.document_of_reads hread

namespace Store

variable {store : Store} {t t' : FileTree} {s : Settings}

/-- **What the file says is what was written.** -/
theorem parse_document (hs : s.Unpaired) (levels : Nat) :
    parse (levels + 2) (Utf8.encode (Json.bracket '\x7b' '\x7d' 0 s.documentMembers)) =
      .ok (.ok s) := by
  have hascii : ∀ c ∈ Json.bracket '\x7b' '\x7d' 0 s.documentMembers, c.isSurrogate = false :=
    fun c hc => CodePoint.not_isSurrogate_of_isAscii (s.document_isAscii c hc)
  rw [parse, Utf8.decode_eq_ok_iff.mpr (Utf8.decode?_encode hascii)]
  simp only [document_documentMembers hs levels, ofValue_toValue]
  rfl

/-! ## Saving -/

/-- Saving is writing the document. -/
theorem save_of_write (hwrite : t.write store.path
    (Utf8.encode (Json.bracket '\x7b' '\x7d' 0 s.documentMembers)) = .ok t') :
    (store.save t s.toDraft).saved = true ∧ (store.save t s.toDraft).tree = t' := by
  have hstore : store.write t s.toDraft = .ok t' := by
    rw [write, document_toDraft]
    simp only [hwrite]
  rw [save, hstore]
  exact ⟨rfl, rfl⟩

/-- What was saved was written. -/
theorem exists_write_of_saved (hsaved : (store.save t s.toDraft).saved = true) :
    ∃ t', t.write store.path
      (Utf8.encode (Json.bracket '\x7b' '\x7d' 0 s.documentMembers)) = .ok t' := by
  cases hwrite : t.write store.path
      (Utf8.encode (Json.bracket '\x7b' '\x7d' 0 s.documentMembers)) with
  | ok t' => exact ⟨t', rfl⟩
  | error e =>
    have hstore : store.write t s.toDraft = .error (.file e) := by
      rw [write, document_toDraft]
      simp only [hwrite]
    rw [save, hstore] at hsaved
    cases hsaved

/-- Loading a file in which settings stand gives the settings. -/
theorem load_of_read (hs : s.Unpaired) (levels : Nat) (hread : t.read store.path =
    .ok (Utf8.encode (Json.bracket '\x7b' '\x7d' 0 s.documentMembers))) :
    store.load (levels + 2) t = .ok ⟨s, []⟩ := by
  rw [load, hread]
  simp only [parse_document hs levels]
  rfl

/-- **What was saved is loaded again.** If settings without pairs of halves were
saved, whatever the file held before, and also if there was none, then loading
gives these settings, with nothing to note about them, and the file is ASCII
throughout. The reader takes two levels for it, and may have more. -/
theorem load_save (store : Store) (levels : Nat) (t : FileTree) (previous : Option (List Octet))
    (hprevious : t.Holds store.path previous) (s : Settings) (hs : s.Unpaired)
    (hsaved : (store.save t s.toDraft).saved = true) :
    store.load (levels + 2) (store.save t s.toDraft).tree = .ok ⟨s, []⟩ ∧
      ∃ content, (store.save t s.toDraft).tree.read store.path = .ok content ∧
        ∀ b ∈ content, b.val < 0x80 := by
  obtain ⟨t', hwrite⟩ := exists_write_of_saved hsaved
  rw [(save_of_write hwrite).2]
  rcases FileTree.read_of_write hwrite hprevious.mayRead with ⟨hdevice, -⟩ | hread
  · exact absurd hdevice hprevious.not_leadsToDevice
  · exact ⟨load_of_read hs levels hread, _, hread, Utf8.encode_ascii s.document_isAscii⟩

/-- Settings with all that is awkward to write: a quote, a backslash, controls, code
points of every plane, and halves in the wrong order; a table without a name and
an empty text. -/
def awkward : Settings where
  model := [0x22, 0x5C, 0x07, 0x7F, 0xE9, 0x20AC, 0x1F600, 0xDE00, 0xD83D].map CodePoint.ofNat
  tables := ["employees", [], "a\tb"]
  dataOutput := []
  syntheticGenerate := "\n/"

/-- A content that is no document at all. -/
def scribble : List Octet := [0x7B, 0xFF, 0x00].map Utf8.octet

/-- A desk with a file of it. -/
def scribbled : FileTree :=
  ⟨["desk"], [(["desk"], .directory), (["desk", fileName], .file scribble)], []⟩

theorem load_save_awkward :
    scribbled.Holds (.ofText fileName) (some scribble) ∧ awkward.Unpaired ∧
      ((⟨.ofText fileName⟩ : Store).save scribbled awkward.toDraft).saved = true ∧
      (⟨.ofText fileName⟩ : Store).load 2
        ((⟨.ofText fileName⟩ : Store).save scribbled awkward.toDraft).tree = .ok ⟨awkward, []⟩ := by
  have hunpaired : awkward.Unpaired := ⟨by decide, by decide, by decide, by decide⟩
  have hholds : scribbled.Holds (.ofText fileName) (some scribble) :=
    ⟨["desk", fileName], by decide +kernel, by decide +kernel, rfl⟩
  have hsaved : ((⟨.ofText fileName⟩ : Store).save scribbled awkward.toDraft).saved = true := by
    decide +kernel
  exact ⟨hholds, hunpaired, hsaved,
    (load_save ⟨.ofText fileName⟩ 0 scribbled (some scribble) hholds awkward hunpaired hsaved).1⟩

/-! ## What loading gives -/

theorem mem_of_get? {α : Type} {k : Text} {v : α} {m : Keyed α} (h : m.get? k = some v) :
    (k, v) ∈ m := by
  induction m with
  | nil => cases h
  | cons p r ih =>
    obtain ⟨n, w⟩ := p
    rw [Keyed.get?] at h
    split at h
    case isTrue hn =>
      cases h
      rw [hn]
      exact List.mem_cons_self
    case isFalse => exact List.mem_cons_of_mem _ (ih h)

theorem unpaired_initial : initial.Unpaired := ⟨by decide, by decide, by decide, by decide⟩

/-- Settings hold no other texts than the value that they are read from, and
those of the initial ones. -/
theorem unpaired_of_ofValue {v : Value} (hv : v.Unpaired) (h : ofValue v = .ok s) : s.Unpaired := by
  cases hv with
  | object hfields =>
    next fields =>
    have hget : ∀ {k : Text} {w : Value}, Keyed.get? k fields = some w → w.Unpaired :=
      fun hw => hfields _ (mem_of_get? hw)
    have hentry : ∀ {e : Entry} {otherwise t : Text}, otherwise.Unpaired →
        entryOf fields e otherwise = .ok t → t.Unpaired := by
      intro e otherwise t hotherwise ht
      unfold entryOf at ht
      split at ht
      · cases ht
        exact hotherwise
      · next u hu =>
        cases ht
        cases hget hu with
        | text hu => exact hu
      · cases ht
    have htables : ∀ {ts : List Text}, tablesOf fields = .ok ts → ∀ t ∈ ts, t.Unpaired := by
      intro ts hts
      unfold tablesOf at hts
      split at hts
      · cases hts
        exact unpaired_initial.tables
      · next items hitems =>
        split at hts
        · next us hus =>
          cases hts
          intro t ht
          rw [texts?_eq_some_iff.mp hus] at hitems
          cases hget hitems with
          | list hall =>
            cases hall _ (List.mem_map_of_mem ht) with
            | text h => exact h
        · cases hts
      · cases hts
    unfold ofValue at h
    obtain ⟨tables, h1, h⟩ := Json.bind_eq_ok.mp h
    obtain ⟨model, h2, h⟩ := Json.bind_eq_ok.mp h
    obtain ⟨dataOutput, h3, h⟩ := Json.bind_eq_ok.mp h
    obtain ⟨syntheticGenerate, h4, h⟩ := Json.bind_eq_ok.mp h
    cases h
    exact ⟨hentry unpaired_initial.model h2, htables h1, hentry unpaired_initial.dataOutput h3,
      hentry unpaired_initial.syntheticGenerate h4⟩
  | _ => cases h

/-- Settings that a file says hold no pair. -/
theorem unpaired_of_parse {levels : Nat} {content : List Octet}
    (h : parse levels content = .ok (.ok s)) : s.Unpaired := by
  unfold parse at h
  split at h
  · cases h
  · split at h
    · cases h
    · cases h
    · cases h
    · next v hv =>
      have hmap : (ofValue v).mapError LoadFailure.shape = .ok s := Except.ok.inj h
      cases hvalue : ofValue v with
      | error e =>
        rw [hvalue] at hmap
        cases hmap
      | ok s' =>
        rw [hvalue] at hmap
        cases hmap
        exact unpaired_of_ofValue (Json.unpaired_of_document hv) hvalue

/-- **Loading gives settings that can be kept**, whatever the file holds. -/
theorem unpaired_of_load {levels : Nat} {loaded : Loaded} (h : store.load levels t = .ok loaded) :
    loaded.settings.Unpaired := by
  unfold load at h
  split at h
  · cases h
    exact unpaired_initial
  · split at h
    · cases h
    · next result hresult =>
      cases h
      cases result with
      | error e => exact unpaired_initial
      | ok s => exact unpaired_of_parse hresult

/-- Where nothing may be read it is the initial settings that are loaded. -/
theorem load_of_not_mayRead (levels : Nat) (h : ¬ t.MayRead store.path) :
    ∃ records, store.load levels t = .ok ⟨initial, records⟩ := by
  obtain ⟨e, hread⟩ := FileTree.exists_error_of_not_mayRead h
  exact ⟨_, by rw [load, hread]; rfl⟩

/-- **From the first saving on nothing moves.** Whatever the file held: if what
was loaded is saved, it is loaded again, and saving it once more succeeds and
leaves the whole tree as it is. The reader has two levels at least. -/
theorem load_save_loaded (store : Store) (levels : Nat) (t : FileTree) (loaded : Loaded)
    (hload : store.load (levels + 2) t = .ok loaded)
    (hsaved : (store.save t loaded.settings.toDraft).saved = true) :
    ∃ again, store.load (levels + 2) (store.save t loaded.settings.toDraft).tree = .ok again ∧
      again.settings = loaded.settings ∧
      (store.save (store.save t loaded.settings.toDraft).tree again.settings.toDraft).saved = true ∧
      (store.save (store.save t loaded.settings.toDraft).tree again.settings.toDraft).tree =
        (store.save t loaded.settings.toDraft).tree := by
  obtain ⟨t', hwrite⟩ := exists_write_of_saved hsaved
  have hagain : (store.save t' loaded.settings.toDraft).saved = true ∧
      (store.save t' loaded.settings.toDraft).tree = t' :=
    save_of_write (FileTree.write_of_write hwrite)
  rw [(save_of_write hwrite).2]
  by_cases hmay : t.MayRead store.path
  · rcases FileTree.read_of_write hwrite hmay with ⟨-, rfl⟩ | hread
    · -- A device keeps nothing: what is loaded from it are the initial settings as before.
      exact ⟨loaded, hload, rfl, hagain⟩
    · exact ⟨⟨loaded.settings, []⟩, load_of_read (unpaired_of_load hload) levels hread, rfl, hagain⟩
  · -- What was saved cannot be read either, and so nothing but the initial settings is loaded.
    obtain ⟨records, hfirst⟩ := load_of_not_mayRead (levels + 2) hmay
    have hmay' : ¬ t'.MayRead store.path := (FileTree.mayRead_of_update hwrite).not.mpr hmay
    obtain ⟨records', hsecond⟩ := load_of_not_mayRead (levels + 2) hmay'
    have hinitial : loaded.settings = initial :=
      congrArg Loaded.settings (Except.ok.inj (hload.symm.trans hfirst))
    rw [hinitial] at hagain ⊢
    exact ⟨_, hsecond, rfl, hagain⟩

/-- A document that says little, and that little twice: a pair of halves as two
escapes, halves the wrong way round, and a table more than there is. -/
def partialDocument : List Octet := Utf8.encode (Text.ofString "\x7b\"model\": 1,
  \"tables\": [\"a\"], \"model\": \"\\ud83d\\ude00\\ude00\\ud83d\", \"x\": [] \x7d")

/-- A desk with such a document. -/
def sparse : FileTree :=
  ⟨["desk"], [(["desk"], .directory), (["desk", fileName], .file partialDocument)], []⟩

/-- What is found there: the later model, its pair joined. -/
def sparseSettings : Settings :=
  { initial with
    model := [0x1F600, 0xDE00, 0xD83D].map CodePoint.ofNat
    tables := [Text.ofString "a"] }

theorem load_save_loaded_sparse :
    (⟨.ofText fileName⟩ : Store).load 2 sparse = .ok ⟨sparseSettings, []⟩ ∧
      ((⟨.ofText fileName⟩ : Store).save sparse sparseSettings.toDraft).saved = true ∧
      ∃ again, (⟨.ofText fileName⟩ : Store).load 2
          ((⟨.ofText fileName⟩ : Store).save sparse sparseSettings.toDraft).tree = .ok again ∧
        again.settings = sparseSettings := by
  have hload : (⟨.ofText fileName⟩ : Store).load 2 sparse = .ok ⟨sparseSettings, []⟩ := by
    decide +kernel
  have hsaved : ((⟨.ofText fileName⟩ : Store).save sparse sparseSettings.toDraft).saved = true := by
    decide +kernel
  obtain ⟨again, hagain, hsame, -⟩ := load_save_loaded ⟨.ofText fileName⟩ 0 sparse _ hload hsaved
  exact ⟨hload, hsaved, again, hagain, hsame⟩

end Store

end SynthDesk.Settings
