/-
What leaves the program.

A run of the program ends with a status, whatever goes wrong in the work of a
session: the fault is reported in a line, or it is the user's wish to stop. Some
things are done outside of that, and their faults leave the program. The log is
set up in the working directory, which can have been removed. The summary of a
command is drawn before the work begins; its texts are read as markup, and the
screen has to take them. The settings' path of an interview is looked at before
the work begins, and the system can refuse it.

None of this can happen where the working directory is there, the texts that are
shown open no bracket, name no picture and have octets, and the path has no part
that is too long and leads through no directory that may not be passed.
-/
import SynthDesk.Proofs.Options.Summary
import SynthDesk.Proofs.Program.Opening
import SynthDesk.Proofs.Session.Atomicity

set_option autoImplicit false

namespace SynthDesk

/-! ## Paths that the system does not refuse -/

/-- No part of the path is too long, nor is the path as a whole. -/
structure Path.Fits (p : Path) : Prop where
  whole : (Name.octets p.toText).length ≤ FileTree.pathLimit
  parts : ∀ part ∈ p.parts, (Name.octets part).length ≤ FileTree.partLimit

namespace FileTree

variable {t : FileTree}

/-- **Every directory may be passed.** -/
def Passable (t : FileTree) : Prop := ∀ at_, t.barred .pass at_ = none

theorem passable_of_bars {t' : FileTree} (hbars : t'.bars = t.bars) (h : t.Passable) :
    t'.Passable := by
  intro at_
  rw [barred, hbars]
  exact h at_

/-- A way along parts that are not too long fails for what is there, or is not
there. -/
theorem walk_of_fits (hpass : t.Passable) {parts : List Text}
    (h : ∀ part ∈ parts, (Name.octets part).length ≤ partLimit) {start : Place}
    {reason : SystemError.Reason} (hwalk : walk t start parts = .error reason) :
    reason = .noEntry ∨ reason = .notDirectory := by
  -- The other reasons are a part that is too long and a bar, and there are none.
  induction parts generalizing start with
  | nil => cases hwalk
  | cons part r ih =>
    obtain ⟨hpart, hrest⟩ := List.forall_mem_cons.mp h
    rw [walk] at hwalk
    split at hwalk
    · cases hwalk
      exact Or.inl rfl
    · rw [hpass start] at hwalk
      dsimp only at hwalk
      rw [if_neg (Nat.not_lt.mpr hpart)] at hwalk
      split at hwalk
      · exact ih hrest hwalk
      · split at hwalk
        · exact ih hrest hwalk
        · exact ih hrest hwalk
    · cases hwalk
      exact Or.inr rfl

/-- Whether such a path leads to a directory can be told. -/
theorem exists_isDirectory (hpass : t.Passable) {p : Path} (h : p.Fits) :
    ∃ found, t.isDirectory p = .ok found := by
  unfold isDirectory
  split
  · exact ⟨_, rfl⟩
  · cases hlocate : t.locate p with
    | ok at_ => exact ⟨_, rfl⟩
    | error reason =>
      rw [locate, if_neg (Nat.not_lt.mpr h.whole)] at hlocate
      rcases walk_of_fits hpass h.parts hlocate with rfl | rfl
      · exact ⟨_, rfl⟩
      · exact ⟨_, rfl⟩

end FileTree

/-- So there is a store for it. -/
theorem Settings.Store.exists_resolve {t : FileTree} (hpass : t.Passable)
    {fromEnvironment : Option Text} {p : Path}
    (hstart : startingPath t fromEnvironment none = .ok p) (h : p.Fits) :
    ∃ store, resolve t fromEnvironment none = .ok store := by
  obtain ⟨found, hfound⟩ := FileTree.exists_isDirectory hpass h
  rw [resolve, hstart]
  simp only [hfound]
  cases found with
  | true => exact ⟨_, rfl⟩
  | false => exact ⟨_, rfl⟩

/-- In a working directory that is there, there is a path to begin with. -/
theorem Settings.Store.exists_startingPath {t : FileTree} (h : t.Settled)
    (fromEnvironment : Option Text) : ∃ p, startingPath t fromEnvironment none = .ok p := by
  have hhome : t.atHome fileName = .ok (Path.child ⟨[Path.slash], t.home⟩ fileName) := by
    rw [FileTree.atHome, FileTree.workingDirectory_of_directory h.present]
    rfl
  cases fromEnvironment with
  | none => exact ⟨_, hhome⟩
  | some text =>
    cases text with
    | nil => exact ⟨_, hhome⟩
    | cons c r => exact ⟨_, rfl⟩

/-! ## Faults in a session -/

namespace Session

open Engine

variable {location : Location} {d : Desk} {keys : Interview.Keyboard} {attempt : Attempt}

/-- What a command says of a fault. -/
def commandFaultLine (f : Fault) : Console.StatusLine :=
  ⟨.error, Text.ofString "An error occurred during command-line execution: " ++ f.message⟩

/-- A fault of the run decides the verdict. -/
theorem verdictOn_of_error {onFault : Fault → Verdict} {r : Report} {f : Fault}
    (hf : drained r = .error f) : verdictOn onFault r = onFault f := by
  rw [verdictOn, hf]

/-- A command whose run is at fault ends by the handling of the fault. -/
theorem direct_of_fault {screen : Console.Screen} {o : Options} {panel : Text}
    (hpanel : SummaryShown screen o panel) {f : Fault}
    (hf : drained (runReport location o.directArguments attempt) = .error f) :
    (direct screen location d keys o attempt).exit = .ok (directFault f).status ∧
      ∃ before, (direct screen location d keys o attempt).effects =
        before ++ (directFault f).effects := by
  have hverdict : verdictOn directFault (runReport location o.directArguments attempt) =
      directFault f := verdictOn_of_error hf
  refine ⟨by rw [direct_exit hpanel, hverdict], ?_⟩
  rw [direct, hpanel.rendered]
  simp only [hpanel.taken]
  dsimp only [Ending.preceded, engineRun]
  rw [hverdict, ← List.append_assoc]
  exact ⟨_, rfl⟩

/-- An interview whose run is at fault ends by the handling of the fault. -/
theorem interactive_of_fault {store : Settings.Store} {levels : Nat}
    {loaded : Settings.Store.Loaded} (hload : store.load levels d.tree = .ok loaded) {o : Options}
    {wanted : Bool}
    (hanswered : (Interview.interview loaded.settings keys).result = .ok (o, wanted)) {f : Fault}
    (hf : drained (runReport location o.interactiveArguments attempt) = .error f) :
    (interactive store levels location d keys attempt).exit = .ok (interactiveFault f).status ∧
      ∃ before, (interactive store levels location d keys attempt).effects =
        before ++ (interactiveFault f).effects := by
  have hverdict : verdictOn interactiveFault (runReport location o.interactiveArguments attempt) =
      interactiveFault f := verdictOn_of_error hf
  refine ⟨by rw [interactive_exit hload hanswered, hverdict], ?_⟩
  obtain ⟨-, heffects, -⟩ :=
    interactive_of_answered location attempt hload hanswered
  rw [heffects, runEffects, hverdict, ← List.append_assoc, ← List.append_assoc]
  exact ⟨_, rfl⟩

/-- A fault that is to be reported is the last thing that a command says. -/
theorem statusLines_directFault {f : Fault} (hf : f.isReportable = true) :
    Effect.statusLines (directFault f).effects = [commandFaultLine f] := by
  rw [directFault, if_pos hf]
  rfl

/-- A session of an interview ends with a status. -/
theorem exists_interactive_exit (store : Settings.Store) (levels : Nat) (location : Location)
    (d : Desk) (keys : Interview.Keyboard) (attempt : Attempt) :
    ∃ status, (interactive store levels location d keys attempt).exit = .ok status := by
  cases hload : store.load levels d.tree with
  | error n =>
    rw [interactive, hload]
    exact ⟨_, rfl⟩
  | ok loaded =>
    cases hresult : (Interview.interview loaded.settings keys).result with
    | error f =>
      rw [interactive_of_error hload hresult]
      exact ⟨_, rfl⟩
    | ok answer =>
      obtain ⟨o, wanted⟩ := answer
      exact ⟨_, interactive_exit hload hresult⟩

end Session

namespace Program

open Session

variable {w : Surroundings} {args : List Text}

/-! ## What leaves the program -/

/-- **What leaves the program**: a fault outside of the work of a session. -/
inductive Escapes (w : Surroundings) : List Text → Fault → Prop
  /-- The log of a command cannot be set up. -/
  | logOfCommand {args : List Text} {o : Options} {verbose : Bool} {f : Fault} :
    args ≠ [] → CommandLine.parse args = .ok (.generate o verbose) →
    setUpFault w verbose = some f → Escapes w args f
  /-- The summary of a command is refused as markup. -/
  | summary {args : List Text} {o : Options} {verbose : Bool} {e : Markup.Refusal} :
    Carries w args o verbose → (summaryPanel o).render w.screen = .error e →
    Escapes w args (.markup e)
  /-- The screen refuses the summary of a command. -/
  | screen {args : List Text} {o : Options} {verbose : Bool} {panel : Text} {e : Utf8.Unwritten} :
    Carries w args o verbose → (summaryPanel o).render w.screen = .ok panel →
    w.screen.refused? panel = some e → Escapes w args (.screen e)
  /-- The log of an interview cannot be set up. -/
  | logOfInterview {f : Fault} : setUpFault w false = some f → Escapes w [] f
  /-- The system refuses the path of the settings. -/
  | store {e : SystemError} : setUpFault w false = none →
    Settings.Store.resolve (setUp w false).1.tree w.environment.settings none = .error e →
    Escapes w [] (.system e)

/-- A fault in the work of a command: the engine's run is at fault, or its draining. -/
inductive CommandFails (w : Surroundings) (args : List Text) (f : Fault) : Prop
  | running {o : Options} {verbose : Bool} {panel : Text} :
    Carries w args o verbose → SummaryShown w.screen o panel →
    drained (runReport w.environment.location o.directArguments w.attempt) = .error f →
    CommandFails w args f

/-- A fault in the work of an interview: in the loading, in the questions, or in the
engine's run and its draining. -/
inductive InterviewFails (w : Surroundings) : List Text → Fault → Prop
  | loading {store : Settings.Store} {n : Json.Nesting} :
    Opens w store → store.load w.levels (setUp w false).1.tree = .error n →
    InterviewFails w [] (.nesting n)
  | asking {store : Settings.Store} {loaded : Settings.Store.Loaded} {f : Fault} :
    Opens w store → store.load w.levels (setUp w false).1.tree = .ok loaded →
    Interview.BreaksOff loaded.settings w.keyboard f → InterviewFails w [] f
  | running {store : Settings.Store} {loaded : Settings.Store.Loaded} {o : Options}
    {wanted : Bool} {f : Fault} :
    Opens w store → store.load w.levels (setUp w false).1.tree = .ok loaded →
    Interview.Completes loaded.settings w.keyboard o wanted →
    drained (runReport w.environment.location o.interactiveArguments w.attempt) = .error f →
    InterviewFails w [] f

/-- The last status line of a run of the program. -/
def LastLine (e : Ending) (line : Console.StatusLine) : Prop :=
  ∃ before, Effect.statusLines e.effects = before ++ [line]

theorem lastLine_of_effects {e : Ending} {before es : List Effect} {line : Console.StatusLine}
    (he : e.effects = before ++ es) (hes : Effect.statusLines es = [line]) (earlier : List Effect) :
    LastLine (e.preceded earlier) line := by
  refine ⟨Effect.statusLines earlier ++ Effect.statusLines before, ?_⟩
  rw [Ending.preceded, he, Effect.statusLines_append, Effect.statusLines_append, hes,
    List.append_assoc]

theorem exit_left (verbose : Bool) (f : Fault) : (left w verbose f).exit = .error f := rfl

theorem exit_preceded (e : Ending) (earlier : List Effect) :
    (e.preceded earlier).exit = e.exit := rfl

/-- What escapes leaves the program. -/
theorem exit_of_escapes {f : Fault} (h : Escapes w args f) : (run w args).exit = .error f := by
  cases h with
  | logOfCommand hargs hparse hf =>
    rw [run_of_setUpFault hargs hparse hf, exit_left]
  | summary hcarries hrender =>
    rw [hcarries.run_eq, exit_preceded, Session.direct, hrender]
    rfl
  | screen hcarries hrender hrefused =>
    rw [hcarries.run_eq, exit_preceded, Session.direct, hrender]
    simp only [hrefused]
    rfl
  | logOfInterview hf =>
    rw [run, interactive, hf]
    exact exit_left false f
  | store hready hresolve =>
    rw [run, interactive, hready]
    simp only [hresolve]
    exact exit_left false _

/-- A command line is left for its log, or for its summary. -/
theorem escapes_of_command (hargs : args ≠ []) {f : Fault} (hexit : (run w args).exit = .error f) :
    Escapes w args f := by
  cases hparse : CommandLine.parse args with
  | error e =>
    rw [run_of_ne_nil hargs, direct, hparse] at hexit
    cases hexit
  | ok command =>
    cases command with
    | version =>
      rw [run_of_ne_nil hargs, direct, hparse] at hexit
      cases hexit
    | help =>
      rw [run_of_ne_nil hargs, direct, hparse] at hexit
      cases hexit
    | generate o verbose =>
      cases hready : setUpFault w verbose with
      | some g =>
        rw [run_of_setUpFault hargs hparse hready, exit_left] at hexit
        cases hexit
        exact .logOfCommand hargs hparse hready
      | none =>
        have hcarries : Carries w args o verbose := ⟨hargs, hparse, hready⟩
        rw [hcarries.run_eq, exit_preceded] at hexit
        cases hrender : (summaryPanel o).render w.screen with
        | error e =>
          rw [Session.direct, hrender] at hexit
          cases hexit
          exact .summary hcarries hrender
        | ok panel =>
          cases hrefused : w.screen.refused? panel with
          | some e =>
            rw [Session.direct, hrender] at hexit
            simp only [hrefused] at hexit
            cases hexit
            exact .screen hcarries hrender hrefused
          | none =>
            rw [Session.direct_exit ⟨hrender, hrefused⟩] at hexit
            cases hexit

/-- An interview is left for its log, or for the path of its settings. -/
theorem escapes_of_interview {f : Fault} (hexit : (run w []).exit = .error f) :
    Escapes w [] f := by
  cases hready : setUpFault w false with
  | some g =>
    rw [run, interactive, hready] at hexit
    cases hexit
    exact .logOfInterview hready
  | none =>
    cases hresolve : Settings.Store.resolve (setUp w false).1.tree w.environment.settings none with
    | error e =>
      rw [run, interactive, hready] at hexit
      simp only [hresolve] at hexit
      cases hexit
      exact .store hready hresolve
    | ok store =>
      obtain ⟨status, hstatus⟩ := exists_interactive_exit store w.levels w.environment.location
        (setUp w false).1 w.keyboard w.attempt
      have hopens : Opens w store := ⟨hready, hresolve⟩
      rw [hopens.run_eq, exit_preceded, hstatus] at hexit
      cases hexit

theorem run_exit_eq_error_iff (f : Fault) : (run w args).exit = .error f ↔ Escapes w args f := by
  refine ⟨fun hexit => ?_, exit_of_escapes⟩
  by_cases hargs : args = []
  · subst hargs
    exact escapes_of_interview hexit
  · exact escapes_of_command hargs hexit

/-! ## What is reported -/

theorem run_of_commandFails {f : Fault} (h : CommandFails w args f) :
    (run w args).exit = .ok (directFault f).status ∧
      (f.isReportable = true → LastLine (run w args) (commandFaultLine f)) := by
  obtain ⟨hcarries, hpanel, hdrained⟩ := h
  obtain ⟨hexit, before, heffects⟩ := direct_of_fault (d := (setUp w _).1) hpanel hdrained
  rw [hcarries.run_eq]
  exact ⟨hexit, fun hf => lastLine_of_effects heffects (statusLines_directFault hf) _⟩

theorem run_of_interviewFails {f : Fault} (h : InterviewFails w args f) :
    (run w args).exit = .ok (interactiveFault f).status ∧
      LastLine (run w args) (faultLine f) := by
  have hline := statusLines_interactiveFault f
  cases h with
  | loading hopens hload =>
    rw [hopens.run_eq, Session.interactive, hload]
    exact ⟨rfl, lastLine_of_effects (List.nil_append _).symm hline _⟩
  | asking hopens hload hbreaksOff =>
    have hresult := Interview.interview_of_breaksOff hbreaksOff
    rw [hopens.run_eq, interactive_of_error hload hresult]
    exact ⟨rfl, lastLine_of_effects (List.append_assoc ..).symm hline _⟩
  | running hopens hload hcompletes hdrained =>
    have hresult := Interview.interview_of_completes hcompletes
    obtain ⟨hexit, before, heffects⟩ := interactive_of_fault (d := (setUp w false).1) hload hresult
      hdrained
    rw [hopens.run_eq]
    exact ⟨hexit, lastLine_of_effects heffects hline _⟩

/-! ## The program as a whole -/

/-- **A run of the program**, on a screen that takes all that is shown in it. -/
structure RunsTo (w : Surroundings) (args : List Text) (e : Ending) : Prop where
  ending : run w args = e
  taken : ∀ s ∈ Effect.shown e.effects, w.screen.refused? s.render = none

/-- A screen that refuses nothing takes all that is shown. -/
theorem runsTo_run (hstrict : w.screen.strict = false) (args : List Text) :
    RunsTo w args (run w args) :=
  ⟨rfl, fun s _ => Console.Screen.refused?_of_not_strict hstrict s.render⟩

/-- **The options can be shown**: none of the texts opens a bracket or names a picture, and the
screen takes the panel. -/
structure Showable (screen : Console.Screen) (o : Options) : Prop where
  bracketless : o.Bracketless
  pictureless : o.Pictureless screen.pictures
  taken : ∀ panel, (summaryPanel o).render screen = .ok panel → screen.refused? panel = none

/-- **The settings can be looked for**: the path to begin with is not too long, and every
directory may be passed. -/
structure Findable (w : Surroundings) : Prop where
  fits : ∀ p, Settings.Store.startingPath w.tree w.environment.settings none = .ok p → p.Fits
  passable : w.tree.Passable

/-- Nothing escapes where the working directory is there, and what is asked for can be shown,
or looked for. -/
theorem not_escapes (hsettled : w.tree.Settled)
    (hshowable : ∀ o verbose, CommandLine.parse args = .ok (.generate o verbose) →
      Showable w.screen o)
    (hfindable : args = [] → Findable w) (f : Fault) : ¬ Escapes w args f := by
  have hready : ∀ verbose, setUpFault w verbose = none := fun _ =>
    setUpFault_eq_none_iff.mpr hsettled
  intro h
  cases h with
  | logOfCommand hargs hparse hf => cases (hready _).symm.trans hf
  | summary hcarries hrender =>
    -- What is shown opens no bracket, so the summary is not refused.
    have hshow := hshowable _ _ hcarries.parsed
    obtain ⟨panel, hpanel⟩ := hshow.bracketless.exists_panel hshow.pictureless
    cases hpanel.symm.trans hrender
  | screen hcarries hrender hrefused =>
    cases ((hshowable _ _ hcarries.parsed).taken _ hrender).symm.trans hrefused
  | logOfInterview hf => cases (hready _).symm.trans hf
  | store _ hresolve =>
    obtain ⟨hfits, hpassable⟩ := hfindable rfl
    obtain ⟨p, hstart⟩ := Settings.Store.exists_startingPath hsettled w.environment.settings
    have hstart' := (startingPath_setUp false hsettled _).trans hstart
    obtain ⟨store, hstore⟩ := Settings.Store.exists_resolve
      (FileTree.passable_of_bars (setUp_keeps w false).1 hpassable) hstart' (hfits p hstart)
    cases hstore.symm.trans hresolve

/-- **What leaves the program, and what does not.** Take any arguments, any surroundings and
any engine, and a screen that takes what is shown. The program ends with a status unless

* the log cannot be set up, as in a working directory that was removed;
* the summary of a command is refused, as markup or by the screen;
* the system refuses the path of the settings.

In particular it ends with a status where the working directory is there, the options can be
shown and the settings can be looked for. And every fault in the work of a session is answered:

* in a command with one and a line that reports it, but for an interrupt, which
  has the status 130;
* in an interview with one and a line that reports it, but for the user's wish to
  stop, which has the status 130 and is acknowledged. -/
theorem run_contained (w : Surroundings) (args : List Text) (e : Ending) (h : RunsTo w args e) :
    (∀ f, e.exit = .error f ↔ Escapes w args f) ∧
    (w.tree.Settled →
      (∀ o verbose, CommandLine.parse args = .ok (.generate o verbose) → Showable w.screen o) →
      (args = [] → Findable w) → ∃ status, e.exit = .ok status) ∧
    (∀ f, CommandFails w args f → f.isReportable = true →
      e.exit = .ok 1 ∧ LastLine e (commandFaultLine f)) ∧
    (∀ f, CommandFails w args f → f.isReportable = false → e.exit = .ok 130) ∧
    (∀ f, InterviewFails w args f →
      e.exit = .ok (if f.isCancellation then 130 else 1) ∧ LastLine e (faultLine f)) := by
  obtain ⟨rfl, -⟩ := h
  refine ⟨fun f => run_exit_eq_error_iff f, ?_, ?_, ?_, ?_⟩
  · intro hsettled hshowable hfindable
    cases hexit : (run w args).exit with
    | ok status => exact ⟨status, rfl⟩
    | error f =>
      exact absurd ((run_exit_eq_error_iff f).mp hexit)
        (not_escapes hsettled hshowable hfindable f)
  · intro f h hf
    obtain ⟨hexit, hline⟩ := run_of_commandFails h
    rw [directFault_status hf] at hexit
    exact ⟨hexit, hline hf⟩
  · intro f h hf
    obtain ⟨hexit, -⟩ := run_of_commandFails h
    rw [directFault, hf] at hexit
    exact hexit
  · intro f h
    obtain ⟨hexit, hline⟩ := run_of_interviewFails h
    rw [interactiveFault_exit] at hexit
    exact ⟨hexit, hline⟩

/-- Surroundings with no file, at most a path for the settings, and what comes of the
attempt to start the engine. -/
def bareSurroundings (settings : Option Text) (attempt : Engine.Attempt) : Surroundings :=
  ⟨⟨settings, none, none⟩, bareDesk.tree, [], attempt, plainScreen, 2⟩

/-- The name of the engine is none, and no start is possible; or there is nothing to
read in an interview. -/
theorem run_contained_bare :
    let unnamed := bareSurroundings none (.refused (.name .nul))
    let unanswered := bareSurroundings (some Settings.fileName) (.starts [])
    (RunsTo unnamed ["-t", "employees"] (run unnamed ["-t", "employees"]) ∧
      CommandFails unnamed ["-t", "employees"] (.name .nul) ∧
      (run unnamed ["-t", "employees"]).exit = .ok 1 ∧
      LastLine (run unnamed ["-t", "employees"])
        ⟨.error, Text.ofString "An error occurred during command-line execution: " ++
          Text.ofString "embedded null byte"⟩) ∧
      RunsTo unanswered [] (run unanswered []) ∧
      InterviewFails unanswered [] Interview.exhausted ∧
      (run unanswered []).exit = .ok 130 ∧
      LastLine (run unanswered []) ⟨.warning, "\nCancelled."⟩ := by
  intro unnamed unanswered
  have hready : setUpFault unnamed false = none := by decide +kernel
  have hcarries : Carries unnamed ["-t", "employees"]
      (Options.empty.set .tables (some "employees")) false := ⟨List.cons_ne_nil _ _, rfl, hready⟩
  obtain ⟨panel, hpanel⟩ := exists_summaryShown plainScreen
    (o := Options.empty.set .tables (some "employees")) (by decide +kernel) rfl
  have hfails : CommandFails unnamed ["-t", "employees"] (.name .nul) :=
    .running hcarries hpanel rfl
  have hopens : Opens unanswered ⟨.ofText Settings.fileName⟩ :=
    ⟨by decide +kernel, by decide +kernel⟩
  have hload : (⟨.ofText Settings.fileName⟩ : Settings.Store).load 2
      (setUp unanswered false).1.tree = .ok nothingLoaded := by
    decide +kernel
  have hbreaksOff : Interview.BreaksOff nothingLoaded.settings [] Interview.exhausted :=
    Interview.breaksOff_of_length_lt _ [] (by decide) .ended
  have hasked : InterviewFails unanswered [] Interview.exhausted :=
    .asking hopens hload hbreaksOff
  have hcommand := runsTo_run (w := unnamed) rfl ["-t", "employees"]
  have hinterview := runsTo_run (w := unanswered) rfl []
  obtain ⟨-, -, hreported, -, -⟩ := run_contained unnamed _ _ hcommand
  obtain ⟨-, -, -, -, hcancelled⟩ := run_contained unanswered _ _ hinterview
  exact ⟨⟨hcommand, hfails, hreported _ hfails rfl⟩, hinterview, hasked, hcancelled _ hasked⟩

/-- Faults that leave the program: that of a text which closes what nobody has opened,
that of a settings' path with a part that is too long, and that of a working directory which
was removed. -/
theorem run_exit_closingTag :
    (run (bareSurroundings none (.starts [])) ["-t", "[/]"]).exit =
        .error (.markup (.nothingToClose 22)) ∧
      (run (bareSurroundings (some (Text.fill 256 'a')) (.starts [])) []).exit =
        .error (.system (.ofReason .nameTooLong (Text.fill 256 'a'))) ∧
      (run { bareSurroundings none (.starts []) with tree := ⟨["desk"], [], []⟩ } ["-v"]).exit =
        .error (.system (.nameless .noEntry)) := by
  exact ⟨by decide +kernel, by decide +kernel, by decide +kernel⟩

end Program

end SynthDesk
