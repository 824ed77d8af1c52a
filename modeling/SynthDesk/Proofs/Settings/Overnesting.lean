/-
What loading fails on.

Whatever cannot be read as settings is meant to give the initial ones: a file that is
not there, a directory, octets that are no text, a text that is no document, a document
of another shape. There is one more thing a file can hold, and it is answered by nothing:
a document of more levels than the reader can go down, however many these are. The two
answers are told apart here for every content of the file, by the grammar of documents and
without the reader. As many opening brackets as levels, or fewer, are never too many.
-/
import SynthDesk.Proofs.Json.Depth
import SynthDesk.Proofs.Settings.Loading

set_option autoImplicit false

namespace SynthDesk

/-! ## Opening brackets in octets -/

namespace Utf8

/-- The octet of a bracket that opens a level. -/
def isOpening (b : Octet) : Bool := b.val = 0x5B || b.val = 0x7B

/-- No bracket is lost in the octets. -/
theorem countP_opensLevel_le (t : Text) :
    t.countP Json.opensLevel ≤ (encode t).countP isOpening := by
  induction t with
  | nil => exact Nat.le_refl 0
  | cons c r ih =>
    have hfirst : (if Json.opensLevel c = true then 1 else 0) ≤
        (encodePoint c).countP isOpening := by
      split
      · next hc =>
        obtain ⟨n, hn⟩ := Option.isSome_iff_exists.mp hc
        rw [Json.opening?_eq_some_iff.mp hn]
        cases n <;> decide
      · exact Nat.zero_le _
    have hsplit : encode (c :: r) = encodePoint c ++ encode r := rfl
    rw [List.countP_cons, hsplit, List.countP_append]
    omega

end Utf8

namespace Settings.Store

/-! ## Files that are too deep -/

/-- **The file is too deep**: it can be read, it holds the octets of a text, and the text
opens one level more than the reader can go down. -/
def Overnested (store : Store) (levels : Nat) (t : FileTree) (n : Json.Nesting) : Prop :=
  ∃ text, t.read store.path = .ok (Utf8.encode text) ∧
    (∀ c ∈ text, c.isSurrogate = false) ∧ Json.Overnested levels n text

variable {store : Store} {levels : Nat} {t : FileTree} {n : Json.Nesting}

theorem parse_eq_error_iff {content : List Octet} :
    parse levels content = .error n ↔ ∃ text, content = Utf8.encode text ∧
      (∀ c ∈ text, c.isSurrogate = false) ∧ Json.Overnested levels n text := by
  constructor
  · intro h
    unfold parse at h
    split at h
    · cases h
    next text htext =>
    obtain ⟨hcontent, hpoints⟩ := Utf8.decode?_eq_some_iff.mp (Utf8.decode_eq_ok_iff.mp htext)
    split at h
    · cases h
    · cases h
    · next n' hdeep =>
      cases h
      exact ⟨text, hcontent, hpoints, Json.document_eq_tooDeep_iff.mp hdeep⟩
    · cases h
  · rintro ⟨text, rfl, hpoints, hdeep⟩
    simp only [parse, Utf8.decode_eq_ok_iff.mpr (Utf8.decode?_encode hpoints),
      Json.document_eq_tooDeep_iff.mpr hdeep]

theorem load_eq_error_iff_parse :
    store.load levels t = .error n ↔
      ∃ content, t.read store.path = .ok content ∧ parse levels content = .error n := by
  constructor
  · intro h
    unfold load at h
    split at h
    · cases h
    · next content hread =>
      split at h
      · next n' hparse =>
        cases h
        exact ⟨content, hread, hparse⟩
      · cases h
  · rintro ⟨content, hread, hparse⟩
    simp only [load, hread, hparse]

/-- Loading fails exactly on files that are too deep. -/
theorem load_eq_error_iff : store.load levels t = .error n ↔ store.Overnested levels t n := by
  rw [load_eq_error_iff_parse]
  constructor
  · rintro ⟨content, hread, hparse⟩
    obtain ⟨text, rfl, hpoints, hdeep⟩ := parse_eq_error_iff.mp hparse
    exact ⟨text, hread, hpoints, hdeep⟩
  · rintro ⟨text, hread, hpoints, hdeep⟩
    exact ⟨_, hread, parse_eq_error_iff.mpr ⟨text, rfl, hpoints, hdeep⟩⟩

/-- Loading that does not fail gives settings. -/
theorem exists_load_iff :
    (∃ loaded, store.load levels t = .ok loaded) ↔ ∀ n, ¬ store.Overnested levels t n := by
  constructor
  · rintro ⟨loaded, hload⟩ n hdeep
    cases hload.symm.trans (load_eq_error_iff.mpr hdeep)
  · intro hshallow
    cases hload : store.load levels t with
    | ok loaded => exact ⟨loaded, rfl⟩
    | error n => exact absurd (load_eq_error_iff.mp hload) (hshallow n)

/-- A file that is too deep has more opening brackets than there are levels. -/
theorem Overnested.lt_countP (h : store.Overnested levels t n) {content : List Octet}
    (hread : t.read store.path = .ok content) :
    levels < content.countP Utf8.isOpening := by
  obtain ⟨text, hfile, -, hdeep⟩ := h
  obtain rfl : content = Utf8.encode text := Except.ok.inj (hread.symm.trans hfile)
  exact Nat.lt_of_lt_of_le hdeep.lt_countP (Utf8.countP_opensLevel_le text)

/-- **What loading fails on.** Take any store, any file tree, and a reader that can go down so
many levels.

* Loading fails exactly if the file is too deep, and the failure tells the bracket at
  which it is. In every other case there are settings.
* So there are settings if the file cannot be read, for whatever reason, and if no more
  of its octets are opening brackets than there are levels, whatever else there is in it. -/
theorem load_fails_only_overnested (store : Store) (levels : Nat) (t : FileTree) :
    (∀ n, store.load levels t = .error n ↔ store.Overnested levels t n) ∧
    ((∃ loaded, store.load levels t = .ok loaded) ↔ ∀ n, ¬ store.Overnested levels t n) ∧
    (∀ e, t.read store.path = .error e → ∃ loaded, store.load levels t = .ok loaded) ∧
    (∀ content, t.read store.path = .ok content → content.countP Utf8.isOpening ≤ levels →
      ∃ loaded, store.load levels t = .ok loaded) := by
  refine ⟨fun n => load_eq_error_iff, exists_load_iff, ?_, ?_⟩
  · intro e hread
    refine exists_load_iff.mpr ?_
    rintro n ⟨text, hfile, -⟩
    cases hread.symm.trans hfile
  · intro content hread hfew
    refine exists_load_iff.mpr fun n hdeep => ?_
    exact absurd (hdeep.lt_countP hread) (Nat.not_lt.mpr hfew)

/-! ## Brackets and nothing else -/

/-- A tree with an entry where the settings are kept. -/
def keeping (e : SynthDesk.Entry) : FileTree :=
  ⟨["desk"], [(["desk"], .directory), (["desk", fileName], e)], []⟩

/-- So many opening brackets. -/
def brackets (k : Nat) : Text := Text.fill k '['

theorem read_keeping (content : List Octet) :
    (keeping (.file content)).read (.ofText fileName) = .ok content := rfl

theorem length_encode_brackets (k : Nat) : (Utf8.encode (brackets k)).length = k := by
  induction k with
  | zero => rfl
  | succ k ih => exact congrArg Nat.succ ih

theorem isAscii_of_mem_brackets {k : Nat} : ∀ c ∈ brackets k, c.isAscii = true := by
  intro c hc
  rw [List.eq_of_mem_replicate hc]
  rfl

/-- One bracket more than levels is too many. -/
theorem overnested_brackets {k : Nat} (hk : levels < k) :
    (⟨.ofText fileName⟩ : Store).Overnested levels (keeping (.file (Utf8.encode (brackets k))))
      .array := by
  refine ⟨brackets k, read_keeping _, ?_, ?_⟩
  · intro c hc
    exact CodePoint.not_isSurrogate_of_isAscii (isAscii_of_mem_brackets c hc)
  · have hdeep := Json.overnested_fill hk []
    rwa [List.append_nil] at hdeep

/-- A directory in the file's place, as many brackets as levels, and one more; the levels are
those of a reader that has a thousand steps and takes ten of them itself. -/
theorem load_fails_only_overnested_brackets :
    (∃ loaded, (⟨.ofText fileName⟩ : Store).load 990 (keeping .directory) = .ok loaded) ∧
    (∃ loaded, (⟨.ofText fileName⟩ : Store).load 990
      (keeping (.file (Utf8.encode (brackets 990)))) = .ok loaded) ∧
    (⟨.ofText fileName⟩ : Store).load 990
      (keeping (.file (Utf8.encode (brackets 991)))) = .error .array := by
  obtain ⟨-, -, hunreadable, -⟩ :=
    load_fails_only_overnested ⟨.ofText fileName⟩ 990 (keeping .directory)
  obtain ⟨-, -, -, hfew⟩ := load_fails_only_overnested ⟨.ofText fileName⟩ 990
    (keeping (.file (Utf8.encode (brackets 990))))
  obtain ⟨hfails, -⟩ := load_fails_only_overnested ⟨.ofText fileName⟩ 990
    (keeping (.file (Utf8.encode (brackets 991))))
  refine ⟨hunreadable _ rfl, hfew _ (read_keeping _) ?_, ?_⟩
  · have hle := List.countP_le_length (p := Utf8.isOpening) (l := Utf8.encode (brackets 990))
    rwa [length_encode_brackets] at hle
  · exact (hfails .array).mpr (overnested_brackets (by decide))

/-- **Loading need not come to settings**: of all numbers of levels below five thousand none is
enough for five thousand brackets. -/
theorem load_brackets_no_settings :
    ¬ ∃ levels loaded, levels < 5000 ∧ (⟨.ofText fileName⟩ : Store).load levels
      (keeping (.file (Utf8.encode (brackets 5000)))) = .ok loaded := by
  rintro ⟨levels, loaded, hlevels, hload⟩
  have hdeep := load_eq_error_iff.mpr (overnested_brackets hlevels)
  cases hdeep.symm.trans hload

end Settings.Store

end SynthDesk
