/-
An interview is carried through, or nothing comes of it.

Where the keyboard gives out before all five questions are answered, however
many refused lines came before, there is a line and a status and nothing else:
no start, and no change to any file but what the log takes down. Where all five
are answered the engine is started once, with these answers, whatever became of
them; and they are in the settings' file exactly if that was asked for and the
file took them.

All of this is said of a settings' file of its own. If the log wrote into it, it
would change with every note; and a device takes answers, but keeps none.
-/
import SynthDesk.Proofs.Engine.Reporting
import SynthDesk.Proofs.Engine.Starts
import SynthDesk.Proofs.Interview.Scripts
import SynthDesk.Proofs.Log.Sparing
import SynthDesk.Proofs.Session.ExitStatus
import SynthDesk.Proofs.Settings.RoundTrip

set_option autoImplicit false

namespace SynthDesk

/-! ## What the store notes -/

namespace Settings.Store

variable {store : Store} {t : FileTree}

theorem source_of_load {levels : Nat} {loaded : Loaded} (h : store.load levels t = .ok loaded) :
    ∀ r ∈ loaded.records, r.source = Log.settingsPart := by
  have hresult : ∀ result, ∀ r ∈ (Loaded.ofResult store.path result).records,
      r.source = Log.settingsPart := by
    intro result r hr
    cases result with
    | ok s => cases hr
    | error e =>
      obtain rfl := List.mem_singleton.mp hr
      rfl
  unfold load at h
  split at h
  · cases h
    exact hresult _
  · split at h
    · cases h
    · cases h
      exact hresult _

theorem source_of_save (store : Store) (t : FileTree) (d : Draft) :
    ∀ r ∈ (store.save t d).records, r.source = Log.settingsPart := by
  intro r hr
  unfold save at hr
  split at hr
  · obtain rfl := List.mem_singleton.mp hr
    rfl
  · obtain rfl := List.mem_singleton.mp hr
    rfl

/-- What was not saved has changed nothing. -/
theorem tree_of_not_saved {d : Draft} (h : (store.save t d).saved = false) :
    (store.save t d).tree = t := by
  unfold save at h ⊢
  split
  · next t' hwrite =>
    rw [hwrite] at h
    cases h
  · rfl

/-- The notes of the store tell of no start. -/
theorem starts_of_source {rs : List Log.Record} (h : ∀ r ∈ rs, r.source = Log.settingsPart) :
    Effect.starts (rs.map .notes) = [] := by
  refine Effect.starts_map_notes fun r hr heq => ?_
  rw [h r hr] at heq
  revert heq
  decide

end Settings.Store

/-! ## Effects that are of one kind -/

theorem Effect.statusLines_map_notes (rs : List Log.Record) :
    statusLines (rs.map .notes) = [] := by
  have hshown : shown (rs.map .notes) = [] := by
    rw [shown, List.filterMap_map]
    exact List.filterMap_eq_nil_iff.mpr fun _ _ => rfl
  rw [statusLines, hshown]
  rfl

/-- What is shown leaves the desk as it is. -/
theorem Desk.after_map_shows (d : Desk) (shown : List Shown) : d.after (shown.map .shows) = d := by
  have hnoted : Effect.noted (shown.map .shows) = [] := by
    rw [Effect.noted, List.filterMap_map]
    exact List.filterMap_eq_nil_iff.mpr fun _ _ => rfl
  rw [after, hnoted]
  rfl

namespace Session

open Engine

/-! ## The two ways -/

section Interviews

variable {store : Settings.Store} {levels : Nat} {location : Location} {d : Desk}
  {keys : Interview.Keyboard} {attempt : Attempt} {loaded : Settings.Store.Loaded}

/-- What is said of a fault in an interview. -/
def faultLine (f : Fault) : Console.StatusLine :=
  if f.isCancellation then ⟨.warning, "\nCancelled."⟩
  else ⟨.error, Text.ofString "An error occurred during interactive execution: " ++ f.message⟩

/-- **An interview broken off** by a fault. It ends with one line and a status, no
start was tried, and the desk is the one before, with the notes that were taken. A
settings' file that the log does not write to is kept. -/
structure BrokenOff (store : Settings.Store) (d : Desk) (f : Fault) (e : Ending) : Prop where
  exit : e.exit = .ok (if f.isCancellation then 130 else 1)
  lines : Effect.statusLines e.effects = [faultLine f]
  command : e.command = none
  starts : Effect.starts e.effects = []
  desk : e.desk = d.after e.effects
  file : d.logger.Spares d.tree store.path → FileTree.Keeps store.path d.tree e.desk.tree

/-- The saving of answers, when it comes to it: at the desk on which the notes of
the loading have been taken. -/
def savingOf (store : Settings.Store) (d : Desk) (loaded : Settings.Store.Loaded) (o : Options) :
    Settings.Store.Saved :=
  store.save (d.after (loaded.records.map .notes)).tree (loaded.settings.withAnswers o).toDraft

/-- **An interview carried through** with answers, and the wish to remember them or
not. One start was tried, with these answers. The line of a saved file is there
exactly if the answers were to be saved and were; if not, the desk is the one before,
with the notes that were taken. A settings' file that the log does not write to is
kept where the answers are not saved. Where they are, and the path leads to no device,
the file holds them, and if it may be read they are what is loaded the next time. -/
structure Carried (store : Settings.Store) (location : Location) (d : Desk)
    (loaded : Settings.Store.Loaded) (o : Options) (wanted : Bool) (e : Ending) : Prop where
  command : e.command = some (location.command o.interactiveArguments)
  starts : Effect.starts e.effects =
    [Text.join [' '] (location.command o.interactiveArguments)]
  line : ∀ t, ⟨.info, Text.ofString "Configuration saved to " ++ t⟩ ∈
      Effect.statusLines e.effects ↔
    wanted = true ∧ (savingOf store d loaded o).saved = true ∧ t = store.path.toText
  desk : ¬ (wanted = true ∧ (savingOf store d loaded o).saved = true) →
    e.desk = d.after e.effects
  kept : ¬ (wanted = true ∧ (savingOf store d loaded o).saved = true) →
    d.logger.Spares d.tree store.path → FileTree.Keeps store.path d.tree e.desk.tree
  saved : wanted = true → (savingOf store d loaded o).saved = true →
    d.logger.Spares d.tree store.path → ¬ d.tree.LeadsToDevice store.path →
      (∃ text at_, (loaded.settings.withAnswers o).toDraft.document = .ok text ∧
        d.tree.place? store.path = some at_ ∧
        e.desk.tree.entryAt at_ = some (.file (Utf8.encode text))) ∧
      ((loaded.settings.withAnswers o).Unpaired → d.tree.MayRead store.path →
        ∀ levels, store.load (levels + 2) e.desk.tree =
          .ok ⟨loaded.settings.withAnswers o, []⟩)

/-! ## Breaking off -/

theorem interactiveFault_exit (f : Fault) :
    (interactiveFault f).status = if f.isCancellation then 130 else 1 := by
  unfold interactiveFault
  split <;> rfl

theorem statusLines_interactiveFault (f : Fault) :
    Effect.statusLines (interactiveFault f).effects = [faultLine f] := by
  unfold interactiveFault faultLine
  split <;> rfl

theorem starts_interactiveFault (f : Fault) : Effect.starts (interactiveFault f).effects = [] := by
  unfold interactiveFault
  split <;> rfl

/-- A fault of the interview ends the session. -/
theorem interactive_of_error (hload : store.load levels d.tree = .ok loaded) {f : Fault}
    (hresult : (Interview.interview loaded.settings keys).result = .error f) :
    interactive store levels location d keys attempt =
      (Ending.early (d.after (loaded.records.map .notes))
          (Interview.interview loaded.settings keys).rest (.ok (interactiveFault f).status)
          ((Interview.interview loaded.settings keys).shown.map .shows ++
            (interactiveFault f).effects)).preceded
        (loaded.records.map .notes) := by
  rw [interactive, hload]
  simp only [interviewed, hresult]

theorem brokenOff_of_error (hload : store.load levels d.tree = .ok loaded) {f : Fault}
    (hresult : (Interview.interview loaded.settings keys).result = .error f) :
    BrokenOff store d f (interactive store levels location d keys attempt) := by
  have hsource := Settings.Store.source_of_load hload
  have hunmarked := Interview.unmarked_interview loaded.settings keys
  have hdesk : (interactive store levels location d keys attempt).desk =
      d.after (interactive store levels location d keys attempt).effects := by
    rw [interactive_of_error hload hresult]
    exact (d.after_append _ _).symm
  refine ⟨?_, ?_, ?_, ?_, hdesk, ?_⟩
  · rw [interactive_of_error hload hresult, ← interactiveFault_exit]
    rfl
  · rw [interactive_of_error hload hresult, Ending.preceded, Ending.early,
      Effect.statusLines_append, Effect.statusLines_append, Effect.statusLines_map_notes,
      hunmarked, statusLines_interactiveFault]
    rfl
  · rw [interactive_of_error hload hresult]
    rfl
  · rw [interactive_of_error hload hresult, Ending.preceded, Ending.early,
      Effect.starts_append, Effect.starts_append, Settings.Store.starts_of_source hsource,
      Effect.starts_map_shows, starts_interactiveFault]
    rfl
  · intro hspares
    rw [hdesk]
    exact Desk.keeps_after hspares _

/-! ## Carrying through -/

/-- What a session does once the answers are kept or not: the run, and its
verdict. -/
def runEffects (location : Location) (o : Options) (attempt : Attempt) : List Effect :=
  (runReport location o.interactiveArguments attempt).effects ++
    (verdictOn interactiveFault (runReport location o.interactiveArguments attempt)).effects

/-- The desk on which answers were kept or not, and what was done for it. -/
def keeping (store : Settings.Store) (d : Desk) (loaded : Settings.Store.Loaded) (o : Options)
    (wanted : Bool) : Desk × List Effect :=
  if wanted then
    remember store (d.after (loaded.records.map .notes)) (loaded.settings.withAnswers o)
  else (d.after (loaded.records.map .notes), [])

/-- **The session of an interview that is answered**, in its order: the notes of the
loading, the questions, the saving, the note of the mode, the run. -/
theorem interactive_of_answered (location : Location) (attempt : Attempt)
    (hload : store.load levels d.tree = .ok loaded) {o : Options} {wanted : Bool}
    (hresult : (Interview.interview loaded.settings keys).result = .ok (o, wanted)) :
    (interactive store levels location d keys attempt).command =
        (runReport location o.interactiveArguments attempt).command ∧
      (interactive store levels location d keys attempt).effects =
        loaded.records.map .notes ++
          ((Interview.interview loaded.settings keys).shown.map .shows ++
              (keeping store d loaded o wanted).2 ++
              [modeNote "Interactive" o.interactiveArguments] ++
            runEffects location o attempt) ∧
      (interactive store levels location d keys attempt).desk =
        (keeping store d loaded o wanted).1.after
          ([modeNote "Interactive" o.interactiveArguments] ++ runEffects location o attempt) := by
  rw [interactive, hload]
  simp only [interviewed, hresult]
  refine ⟨rfl, rfl, ?_⟩
  rw [Desk.after_append]
  rfl

section Keeping

variable (store d loaded) (o : Options) (wanted : Bool)

theorem starts_keeping : Effect.starts (keeping store d loaded o wanted).2 = [] := by
  unfold keeping remember
  split
  · have hsource := Settings.Store.source_of_save store
      (d.after (loaded.records.map .notes)).tree (loaded.settings.withAnswers o).toDraft
    dsimp only
    rw [Effect.starts_append, Settings.Store.starts_of_source hsource]
    split <;> rfl
  · rfl

/-- The one line that can be shown says that the answers were saved. -/
theorem statusLines_keeping : Effect.statusLines (keeping store d loaded o wanted).2 =
    if wanted = true ∧ (savingOf store d loaded o).saved = true then
      [⟨.info, Text.ofString "Configuration saved to " ++ store.path.toText⟩] else [] := by
  unfold keeping remember savingOf
  cases wanted with
  | false => rfl
  | true =>
    simp only [if_true, true_and, Effect.statusLines_append, Effect.statusLines_map_notes,
      List.nil_append]
    split <;> rfl

variable {store d loaded o wanted}

/-- Answers that are not saved leave the desk to its notes. -/
theorem keeping_desk (h : ¬ (wanted = true ∧ (savingOf store d loaded o).saved = true)) :
    (keeping store d loaded o wanted).1 =
      (d.after (loaded.records.map .notes)).after (keeping store d loaded o wanted).2 := by
  unfold keeping
  cases wanted with
  | false => rfl
  | true =>
    have hsaved : (savingOf store d loaded o).saved = false := by simpa using h
    simp only [if_true, remember, Settings.Store.tree_of_not_saved hsaved]

/-- Answers that are saved are written into the tree, and notes are taken after. -/
theorem keeping_of_saved (hsaved : (savingOf store d loaded o).saved = true) :
    ∃ t' noted, (d.after (loaded.records.map .notes)).tree.write store.path
        (Utf8.encode (Json.bracket '\x7b' '\x7d' 0 (loaded.settings.withAnswers o).documentMembers))
          = .ok t' ∧
      (keeping store d loaded o true).1 = Desk.after ⟨t', d.logger⟩ noted := by
  obtain ⟨t', hwrite⟩ := Settings.Store.exists_write_of_saved hsaved
  refine ⟨t', (keeping store d loaded o true).2, hwrite, ?_⟩
  simp only [keeping, if_true, remember, (Settings.Store.save_of_write hwrite).2]
  rfl

end Keeping

/-- A verdict notes no start, if the handling of faults does not. -/
theorem starts_verdictOn {onFault : Fault → Verdict}
    (hfault : ∀ f, Effect.starts (onFault f).effects = []) (r : Report) :
    Effect.starts (verdictOn onFault r).effects = [] := by
  unfold verdictOn
  split
  · next o _ => cases o <;> rfl
  · exact hfault _

/-- A verdict gives a status line only for a fault, and it is none of information. -/
theorem info_not_mem_verdictOn (r : Report) (t : Text) :
    (⟨.info, t⟩ : Console.StatusLine) ∉
      Effect.statusLines (verdictOn interactiveFault r).effects := by
  unfold verdictOn
  split
  · next o _ => cases o <;> exact List.not_mem_nil
  · next f _ =>
    rw [statusLines_interactiveFault, List.mem_singleton, faultLine]
    split <;> exact fun h => by cases h

theorem starts_runEffects (o : Options) :
    Effect.starts (runEffects location o attempt) =
      [Text.join [' '] (location.command o.interactiveArguments)] := by
  rw [runEffects, Effect.starts_append, starts_verdictOn starts_interactiveFault, List.append_nil]
  exact Executor.starts_run (Executor.ready_starts location true) _ _

/-- No line of the run says that something was saved. -/
theorem saved_not_mem_runEffects (o : Options) (t : Text) :
    (⟨.info, Text.ofString "Configuration saved to " ++ t⟩ : Console.StatusLine) ∉
      Effect.statusLines (runEffects location o attempt) := by
  rw [runEffects, Effect.statusLines_append, List.mem_append]
  rintro (hrun | hverdict)
  · obtain ⟨r, hr⟩ := exists_mem_report (Executor.ready_starts location true) hrun
    -- The only information that a run gives has another second letter.
    have htake := congrArg (List.take 2) (Ruling.info_mem_report hr)
    exact absurd htake (of_decide_eq_false rfl)
  · exact info_not_mem_verdictOn _ _ hverdict

/-- Answers that are saved are written once, and from there on the file is kept: before the
saving and after it there are only notes. -/
theorem keeps_of_saved (location : Location) (attempt : Attempt)
    (hload : store.load levels d.tree = .ok loaded) {o : Options}
    (hresult : (Interview.interview loaded.settings keys).result = .ok (o, true))
    (hsaved : (savingOf store d loaded o).saved = true)
    (hspares : d.logger.Spares d.tree store.path) :
    ∃ t u, FileTree.Keeps store.path d.tree t ∧
      t.write store.path (Utf8.encode (Json.bracket '\x7b' '\x7d' 0
        (loaded.settings.withAnswers o).documentMembers)) = .ok u ∧
      FileTree.Keeps store.path u (interactive store levels location d keys attempt).desk.tree := by
  obtain ⟨-, -, hend⟩ := interactive_of_answered location attempt hload hresult
  obtain ⟨u, noted, hwrite, hkeeping⟩ := keeping_of_saved hsaved
  have hbefore := Desk.keeps_after hspares (loaded.records.map .notes)
  have hplace := FileTree.place?_of_update hwrite
  -- Nothing has moved, so the file is still one of its own.
  have hspares' : d.logger.Spares u store.path := by
    intro q least hq at_ hat
    rw [hplace, hbefore.place?] at hat ⊢
    exact hspares q least hq at_ hat
  refine ⟨_, u, hbefore, hwrite, ?_⟩
  rw [hend, hkeeping, ← Desk.after_append]
  exact Desk.keeps_after (d := ⟨u, d.logger⟩) hspares' _

theorem carried_of_answered (hload : store.load levels d.tree = .ok loaded) {o : Options}
    {wanted : Bool}
    (hresult : (Interview.interview loaded.settings keys).result = .ok (o, wanted)) :
    Carried store location d loaded o wanted
      (interactive store levels location d keys attempt) := by
  obtain ⟨hcommand, heffects, hend⟩ :=
    interactive_of_answered location attempt hload hresult
  have hdesk : ¬ (wanted = true ∧ (savingOf store d loaded o).saved = true) →
      (interactive store levels location d keys attempt).desk =
        d.after (interactive store levels location d keys attempt).effects := by
    intro h
    rw [hend, keeping_desk h, heffects]
    simp only [Desk.after_append, Desk.after_map_shows]
  refine ⟨?_, ?_, ?_, hdesk, ?_, ?_⟩
  · -- The indicator of a fresh executor starts, so the run comes to its command.
    rw [hcommand]
    exact Executor.run_command (Executor.ready_starts location true) _ _
  · have hsource := Settings.Store.source_of_load hload
    have hmode : Effect.starts [modeNote "Interactive" o.interactiveArguments] = [] := rfl
    simp only [heffects, Effect.starts_append, Settings.Store.starts_of_source hsource,
      Effect.starts_map_shows, starts_keeping, hmode, starts_runEffects, List.nil_append]
  · intro t
    have hmode : Effect.statusLines [modeNote "Interactive" o.interactiveArguments] = [] := rfl
    have hunmarked := Interview.unmarked_interview loaded.settings keys
    rw [Interview.Unmarked] at hunmarked
    simp only [heffects, Effect.statusLines_append, Effect.statusLines_map_notes, hunmarked,
      statusLines_keeping, hmode, List.nil_append, List.append_nil, List.mem_append,
      saved_not_mem_runEffects, or_false]
    split
    · next h =>
      rw [List.mem_singleton, Console.StatusLine.mk.injEq, List.append_right_inj]
      exact ⟨fun ht => ⟨h.1, h.2, ht.2⟩, fun ht => ⟨rfl, ht.2.2⟩⟩
    · next h => exact iff_of_false List.not_mem_nil fun ht => h ⟨ht.1, ht.2.1⟩
  · intro h hspares
    rw [hdesk h]
    exact Desk.keeps_after hspares _
  · rintro rfl hsaved hspares hdevice
    obtain ⟨t, u, hbefore, hwrite, hafter⟩ :=
      keeps_of_saved location attempt hload hresult hsaved hspares
    have hdevice' := hbefore.not_leadsToDevice hdevice
    constructor
    · obtain ⟨at_, hplace, hentry⟩ := FileTree.entryAt_of_write hwrite hdevice'
      refine ⟨_, at_, Settings.document_toDraft _, ?_, ?_⟩
      · rw [← hbefore.place?, hplace]
      · rw [hafter.entryAt at_ ((FileTree.place?_of_update hwrite _).trans hplace), hentry]
    · intro hunpaired hread n
      have hcontent := FileTree.content?_of_write hwrite (hbefore.mayRead hread) hdevice'
      rw [← hafter.content?] at hcontent
      exact Settings.Store.load_of_read hunpaired n (FileTree.toOption_eq_some_iff.mp hcontent)

/-- **An interview is carried through, or nothing comes of it.** Whatever the file
held for the settings to be loaded, whatever comes from the keyboard, and
whatever the engine does: either the keyboard gives out before all five
questions are answered, or it answers them; and

* where it gives out, the interview is broken off by that fault;
* where it answers, the interview is carried through with these answers.

What becomes of the settings' file is said for one that the log does not write to,
and, if answers are saved, for a path that leads to no device. -/
theorem interactive_atomicity (store : Settings.Store) (levels : Nat) (location : Location)
    (d : Desk) (keys : Interview.Keyboard) (attempt : Attempt) (loaded : Settings.Store.Loaded)
    (hload : store.load levels d.tree = .ok loaded) :
    ((∃ o wanted, Interview.Completes loaded.settings keys o wanted) ∨
      ∃ f, Interview.BreaksOff loaded.settings keys f) ∧
    (∀ f, Interview.BreaksOff loaded.settings keys f →
      BrokenOff store d f (interactive store levels location d keys attempt)) ∧
    (∀ o wanted, Interview.Completes loaded.settings keys o wanted →
      Carried store location d loaded o wanted
        (interactive store levels location d keys attempt)) := by
  refine ⟨Interview.completes_or_breaksOff _ _, ?_, ?_⟩
  · intro f h
    exact brokenOff_of_error hload (Interview.interview_of_breaksOff h)
  · intro o wanted h
    exact carried_of_answered hload (Interview.interview_of_completes h)

/-- A desk with a log that goes to a file, in which there is nothing yet, and nothing else. -/
def loggedDesk : Desk where
  tree := ⟨["desk"], [(["desk"], .directory), (["desk", Log.fileName], .file [])], []⟩
  logger := ⟨[.console .warning, .file (.ofText Log.fileName) .debug], false⟩

/-- A model that there is not, one that there is, and then an interrupt. -/
def interrupted : Interview.Keyboard := [.line "XY", .line "OE", .fault (.interrupt [])]

/-- A model that there is not, one that there is, two tables, two times what was
remembered, and after a doubt the wish to remember. -/
def hesitant : Interview.Keyboard :=
  Interview.typed ["XY", "OE", "a, b", [], [], "maybe", "y"]

/-- The answers given in this way. -/
def hesitantAnswers : Interview.Answers Text :=
  ⟨"OE", "a, b", Settings.initial.dataOutput, Settings.initial.syntheticGenerate⟩

/-- The settings with these answers. -/
def hesitantSettings : Settings := { Settings.initial with model := "OE", tables := ["a", "b"] }

/-- What is loaded from a file that there is not. -/
def nothingLoaded : Settings.Store.Loaded :=
  .ofResult (.ofText Settings.fileName)
    (.error (.file (.system (.ofReason .noEntry Settings.fileName))))

/-- The store in the working directory. -/
def homeStore : Settings.Store := ⟨.ofText Settings.fileName⟩

theorem interactive_atomicity_hesitant :
    homeStore.load 2 loggedDesk.tree = .ok nothingLoaded ∧
      loggedDesk.logger.Spares loggedDesk.tree homeStore.path ∧
      (interactive homeStore 2 .standard loggedDesk interrupted killed).exit = .ok 130 ∧
      (interactive homeStore 2 .standard loggedDesk interrupted killed).desk.tree.content?
        homeStore.path = none ∧
      (interactive homeStore 2 .standard loggedDesk hesitant killed).command =
        some (Location.standard.command hesitantAnswers.options.interactiveArguments) ∧
      homeStore.load 2 (interactive homeStore 2 .standard loggedDesk hesitant killed).desk.tree =
        .ok ⟨hesitantSettings, []⟩ := by
  have hload : homeStore.load 2 loggedDesk.tree = .ok nothingLoaded := by decide +kernel
  have hspares : loggedDesk.logger.Spares loggedDesk.tree homeStore.path := by
    intro q least hq at_ hat
    have hq' : q = .ofText Log.fileName ∧ least = .debug := by simpa [loggedDesk] using hq
    rw [← hat, hq'.1]
    decide +kernel
  have hbreaksOff : Interview.BreaksOff Settings.initial interrupted (.interrupt []) :=
    Interview.breaksOff_of_length_lt _ ["XY", "OE"] (by decide) (.fault _ _)
  have hmodel : (Interview.Memory.texts.modelQuestion Settings.initial.model).AnsweredBy
      ["XY", "OE"] hesitantAnswers.model := .refused rfl (.accepted rfl)
  have htables : (Interview.tablesQuestion (Text.join [','] Settings.initial.tables)).AnsweredBy
      ["a, b"] hesitantAnswers.tables := .accepted rfl
  have hfifth : Interview.rememberQuestion.AnsweredBy ["maybe", "y"] true :=
    .refused rfl (.accepted rfl)
  have hcompletes : Interview.Completes Settings.initial hesitant hesitantAnswers.options true :=
    ⟨_, [], rfl, .intro (.intro hmodel htables (.accepted rfl) (.accepted rfl)) hfifth⟩
  have hsaved : (savingOf homeStore loggedDesk nothingLoaded
      hesitantAnswers.options).saved = true := by
    decide +kernel
  have hnothing : loggedDesk.tree.Holds homeStore.path none :=
    ⟨["desk", Settings.fileName], by decide +kernel, by decide +kernel, rfl⟩
  have hanswers : nothingLoaded.settings.withAnswers hesitantAnswers.options =
      hesitantSettings := by
    decide +kernel
  have hunpaired : hesitantSettings.Unpaired := ⟨by decide, by decide, by decide, by decide⟩
  obtain ⟨-, hbroken, -⟩ := interactive_atomicity homeStore 2 .standard loggedDesk
    interrupted killed nothingLoaded hload
  obtain ⟨-, -, hcarried⟩ := interactive_atomicity homeStore 2 .standard loggedDesk
    hesitant killed nothingLoaded hload
  have hb := hbroken _ hbreaksOff
  have hc := hcarried _ _ hcompletes
  refine ⟨hload, hspares, hb.exit, ?_, hc.command, ?_⟩
  · rw [(hb.file hspares).content?]
    decide +kernel
  · rw [← hanswers] at hunpaired ⊢
    exact (hc.saved rfl hsaved hspares hnothing.not_leadsToDevice).2 hunpaired hnothing.mayRead 0

/-- The store in the file of the log. -/
def logStore : Settings.Store := ⟨.ofText Log.fileName⟩

/-- The store on a device that keeps nothing. -/
def deviceStore : Settings.Store := ⟨.ofText (Text.ofString "/dev/null")⟩

/-- A desk with the device. -/
def deviceDesk : Desk :=
  ⟨⟨["desk"], [(["desk"], .directory), (["dev"], .directory), (["dev", "null"], .sink)], []⟩,
    .bare⟩

/-- **An interview can change a settings' file that is the log's**, although nothing is typed and
nothing is started; and answers that were saved are not on a device. -/
theorem interactive_changes_log :
    ((interactive logStore 2 .standard loggedDesk [] killed).exit = .ok 130 ∧
      (interactive logStore 2 .standard loggedDesk [] killed).command = none ∧
      loggedDesk.tree.content? logStore.path = some [] ∧
      (interactive logStore 2 .standard loggedDesk [] killed).desk.tree.content? logStore.path ≠
        some []) ∧
    (⟨.info, Text.ofString "Configuration saved to /dev/null"⟩ ∈ Effect.statusLines
        (interactive deviceStore 2 .standard deviceDesk hesitant killed).effects ∧
      (interactive deviceStore 2 .standard deviceDesk hesitant killed).desk.tree.content?
        deviceStore.path = some []) := by
  refine ⟨⟨?_, ?_, ?_, ?_⟩, ?_, ?_⟩ <;> decide +kernel

end Interviews

end Session

end SynthDesk
