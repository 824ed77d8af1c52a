/-
Answers that are remembered stand.

The answer for the tables is a list with commas, and what is remembered of it are
its items, trimmed, without the empty ones, in their order. Such tables, put
into one line again as the default of the next interview, are read as
themselves; and an empty line keeps everything else. So whoever accepts what
is remembered changes nothing by it.
-/
import SynthDesk.Proofs.Interview.Scripts
import SynthDesk.Proofs.Settings.RoundTrip
import SynthDesk.Proofs.Text.Listing
import SynthDesk.Settings.Answers

set_option autoImplicit false

namespace SynthDesk.Settings

/-! ## Tables in a line -/

/-- The separator of tables. -/
abbrev comma : CodePoint := CodePoint.ofChar ','

/-- **A proper table**: what an entry is that was read from an answer. -/
structure ProperTable (t : Text) : Prop where
  ne_nil : t ≠ []
  comma_not_mem : comma ∉ t
  trimmed : t.Trimmed

/-- The entries that are read from an answer are proper. -/
theorem properTable_of_mem {t entry : Text} (h : entry ∈ tablesOfAnswer t) :
    ProperTable entry := by
  obtain ⟨hmem, hne⟩ := List.mem_filter.mp h
  obtain ⟨item, hitem, rfl⟩ := List.mem_map.mp hmem
  refine ⟨?_, ?_, Text.trimmed_strip item⟩
  · rintro heq
    rw [heq] at hne
    cases hne
  · exact fun hcomma => Text.not_mem_of_mem_splitOn hitem (Text.mem_of_mem_strip hcomma)

/-- **Proper tables are read as themselves**, also where there are none. -/
theorem tablesOfAnswer_join {ts : List Text} (h : ∀ t ∈ ts, ProperTable t) :
    tablesOfAnswer (Text.join [comma] ts) = ts := by
  cases ts with
  | nil => rfl
  | cons t r =>
    have hstrip : (t :: r).map Text.strip = t :: r :=
      (List.map_congr_left fun u hu => Text.strip_of_trimmed (h u hu).trimmed).trans
        (List.map_id _)
    rw [tablesOfAnswer, Text.splitOn_join (fun u hu => (h u hu).comma_not_mem)
      (List.cons_ne_nil t r), hstrip, List.filter_eq_self]
    intro u hu
    cases u with
    | nil => exact absurd rfl (h [] hu).ne_nil
    | cons c s => rfl

/-- An answer is a list of items with commas between them, and what is read are the
items, trimmed, without those of which nothing is left. -/
theorem exists_items (t : Text) :
    ∃ items, items ≠ [] ∧ (∀ item ∈ items, comma ∉ item) ∧ t = Text.join [comma] items ∧
      tablesOfAnswer t = (items.map Text.strip).filter fun entry => !entry.isEmpty :=
  ⟨Text.splitOn comma t, Text.splitOn_ne_nil comma t,
    fun _ hitem => Text.not_mem_of_mem_splitOn hitem, (Text.join_splitOn comma t).symm, rfl⟩

/-! ## Answers that repeat what is remembered -/

/-- A text that repeats what is remembered. -/
theorem getD_requested {o : Options} {f : Flag} {t : Text} (h : o.get f = some t) :
    (o.requested f).getD t = t := by
  rw [Options.requested, h]
  cases t <;> rfl

/-- What is remembered, given as answers once more. -/
def asAnswers (s : Settings) : Options :=
  Interview.Answers.options
    ⟨s.model, Text.join [comma] s.tables, s.dataOutput, s.syntheticGenerate⟩

/-- The tables after an interview: those that the answer lists, if it says anything. -/
theorem tables_withAnswers (s : Settings) (o : Options) :
    (s.withAnswers o).tables = ((o.requested .tables).map tablesOfAnswer).getD s.tables := by
  rw [withAnswers]
  cases o.requested .tables <;> rfl

/-- Settings with proper tables are not changed by answers that repeat them. -/
theorem withAnswers_asAnswers {s : Settings} (h : ∀ t ∈ s.tables, ProperTable t) :
    s.withAnswers s.asAnswers = s := by
  have hmodel : (s.withAnswers s.asAnswers).model = s.model := getD_requested rfl
  have hdataOutput : (s.withAnswers s.asAnswers).dataOutput = s.dataOutput := getD_requested rfl
  have hrows : (s.withAnswers s.asAnswers).syntheticGenerate = s.syntheticGenerate :=
    getD_requested rfl
  have htables : (s.withAnswers s.asAnswers).tables = s.tables := by
    have hgiven : s.asAnswers.get .tables = some (Text.join [comma] s.tables) := rfl
    have hread := tablesOfAnswer_join h
    rw [tables_withAnswers, Options.requested, hgiven]
    -- An empty line stands for the tables that there are, and a line of tables reads as these.
    cases hline : Text.join [comma] s.tables with
    | nil => rfl
    | cons c r =>
      rw [hline] at hread
      exact hread
  calc
    s.withAnswers s.asAnswers
      = ⟨(s.withAnswers s.asAnswers).model, (s.withAnswers s.asAnswers).tables,
          (s.withAnswers s.asAnswers).dataOutput,
          (s.withAnswers s.asAnswers).syntheticGenerate⟩ := rfl
    _ = s := by rw [hmodel, htables, hdataOutput, hrows]

/-- **Four empty lines repeat what is remembered.** -/
theorem collect_of_empty (s : Settings) (later : Interview.Keyboard) :
    (Interview.collect s (Interview.typed [[], [], [], []] ++ later)).Yields (.ok s.asAnswers)
      later := by
  have hfour : Interview.FourAnsweredBy s ([[]] ++ ([[]] ++ ([[]] ++ [[]])))
      ⟨s.model, Text.join [comma] s.tables, s.dataOutput, s.syntheticGenerate⟩ :=
    .intro (.accepted rfl) (.accepted rfl) (.accepted rfl) (.accepted rfl)
  exact (Interview.goesBy_collect s).answered ⟨_, hfour, rfl⟩ later

/-- Saving the same settings once more succeeds, and leaves the tree as it is. -/
theorem save_save (store : Store) (t : FileTree) (s : Settings)
    (hsaved : (store.save t s.toDraft).saved = true) :
    (store.save (store.save t s.toDraft).tree s.toDraft).saved = true ∧
      (store.save (store.save t s.toDraft).tree s.toDraft).tree =
        (store.save t s.toDraft).tree := by
  obtain ⟨t', hwrite⟩ := Store.exists_write_of_saved hsaved
  rw [(Store.save_of_write hwrite).2]
  exact Store.save_of_write (FileTree.write_of_write hwrite)

/-! ## The next interview -/

/-- **Remembered answers are a fixed point of the next interview.** Take any settings,
and any answers with some text for the tables. In the settings after the
interview

* every table is a proper one;
* they are the items that were typed, trimmed, in the order in which they were
  typed, without those of which nothing is left.

And in an interview over these settings in which four empty lines are typed,
there are four answers; folded into the settings they change nothing, so where
the settings were saved, saving once more succeeds and leaves every file as it
is. -/
theorem withAnswers_fixpoint (base : Settings) (o : Options) (t : Text)
    (ht : o.get .tables = some t) (hne : t ≠ []) :
    (∀ table ∈ (base.withAnswers o).tables, ProperTable table) ∧
    (∃ items, items ≠ [] ∧ (∀ item ∈ items, comma ∉ item) ∧ t = Text.join [comma] items ∧
      (base.withAnswers o).tables =
        (items.map Text.strip).filter fun entry => !entry.isEmpty) ∧
    ∀ later, ∃ again,
      (Interview.collect (base.withAnswers o)
        (Interview.typed [[], [], [], []] ++ later)).Yields (.ok again) later ∧
      (base.withAnswers o).withAnswers again = base.withAnswers o ∧
      ∀ (store : Store) tree, (store.save tree (base.withAnswers o).toDraft).saved = true →
        (store.save (store.save tree (base.withAnswers o).toDraft).tree
            ((base.withAnswers o).withAnswers again).toDraft).saved = true ∧
          (store.save (store.save tree (base.withAnswers o).toDraft).tree
              ((base.withAnswers o).withAnswers again).toDraft).tree =
            (store.save tree (base.withAnswers o).toDraft).tree := by
  have htables : (base.withAnswers o).tables = tablesOfAnswer t := by
    rw [tables_withAnswers, Options.requested, ht]
    cases t with
    | nil => exact absurd rfl hne
    | cons c r => rfl
  have hproper : ∀ table ∈ (base.withAnswers o).tables, ProperTable table := by
    intro table hmem
    rw [htables] at hmem
    exact properTable_of_mem hmem
  refine ⟨hproper, ?_, ?_⟩
  · rw [htables]
    exact exists_items t
  · -- The four empty lines give what is remembered, and that is what it was.
    intro later
    have hagain := withAnswers_asAnswers hproper
    refine ⟨(base.withAnswers o).asAnswers, collect_of_empty _ later, hagain, ?_⟩
    intro store tree hsaved
    rw [hagain]
    exact save_save store tree _ hsaved

/-- Answers with an empty model, and tables between blanks of several kinds, empty
ones among them. -/
def untidyAnswers : Options :=
  Interview.Answers.options
    ⟨[], [0x3000, 0x61, 0x20, 0x62, 0x2C, 0x20, 0x2C, 0x2C, 0x63, 0xA0, 0x2C].map
      CodePoint.ofNat, "out.sql", "a b(1)"⟩

/-- Answers with commas and blanks for the tables, and nothing else. -/
def commasOnly : Options :=
  Interview.Answers.options ⟨"OE", " , ,", "out.sql", "a(1)"⟩

/-- Where only commas and blanks are typed, no table is left, and an empty line keeps
it so. -/
theorem withAnswers_fixpoint_untidy :
    ((initial.withAnswers untidyAnswers).tables = ["a b", "c"] ∧
      ∃ again, (Interview.collect (initial.withAnswers untidyAnswers)
          (Interview.typed [[], [], [], []] ++ [])).Yields (.ok again) [] ∧
        (initial.withAnswers untidyAnswers).withAnswers again =
          initial.withAnswers untidyAnswers) ∧
      (initial.withAnswers commasOnly).tables = [] ∧
      ∃ again, (Interview.collect (initial.withAnswers commasOnly)
          (Interview.typed [[], [], [], []] ++ [])).Yields (.ok again) [] ∧
        (initial.withAnswers commasOnly).withAnswers again = initial.withAnswers commasOnly := by
  obtain ⟨-, -, huntidy⟩ := withAnswers_fixpoint initial untidyAnswers _ rfl (by decide)
  obtain ⟨-, -, hcommas⟩ := withAnswers_fixpoint initial commasOnly _ rfl (by decide)
  obtain ⟨again, hyields, hsame, -⟩ := huntidy []
  obtain ⟨again', hyields', hsame', -⟩ := hcommas []
  exact ⟨⟨by decide, again, hyields, hsame⟩, by decide, again', hyields', hsame'⟩

end SynthDesk.Settings
