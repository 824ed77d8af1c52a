/-
What a command line sets in motion.

A command line that is refused, or that asks for the version or for help, gets its
answer and leaves all else as it was: no log is set up, no file is touched, no key is
read, the engine is not started. Any other one sets up the log; and once its summary is
shown it starts the engine, once, and asks nothing. What a start is can be told from the
notes, what a question is from the screen: after the summary there are status lines and
nothing else.
-/
import SynthDesk.Proofs.Program.Containment

set_option autoImplicit false

namespace SynthDesk

/-! ## Only status lines -/

/-- Nothing appears but status lines. -/
def Effect.OnlyLines (es : List Effect) : Prop :=
  ∃ lines : List Console.StatusLine, Effect.shown es = lines.map .status

theorem Effect.OnlyLines.append {a b : List Effect} (ha : OnlyLines a) (hb : OnlyLines b) :
    OnlyLines (a ++ b) := by
  obtain ⟨la, ha⟩ := ha
  obtain ⟨lb, hb⟩ := hb
  refine ⟨la ++ lb, ?_⟩
  rw [shown_append, ha, hb, List.map_append]

/-- What is new in a ruling are status lines. -/
theorem Engine.Ruling.exists_news (c : Consoles) (before after : Option Ruling) :
    ∃ lines : List Console.StatusLine, news c before after = lines.map .status := by
  unfold news
  split
  · exact ⟨_, rfl⟩
  · exact ⟨[], rfl⟩

/-- A run asks nothing: all that it shows are status lines. -/
theorem Engine.Executor.onlyLines_run {x : Executor} (hs : x.indicator.start.2 = none)
    (args : List Text) (attempt : Attempt) : Effect.OnlyLines (x.run args attempt).2.effects := by
  cases attempt with
  | starts history =>
    obtain ⟨lines, hlines⟩ :=
      Ruling.exists_news x.consoles none (rulingOf (completed history))
    exact ⟨lines, (shown_effects hs).trans hlines⟩
  | refused f =>
    rw [run, hs]
    by_cases hf : f.isRefusal = true
    · -- The line of the refusal, or none without a console.
      simp only [hf, if_true, Indicator.fail, Indicator.finish]
      by_cases hline : (x.indicator.start.1.active && x.indicator.start.1.console) = true
      · exact ⟨[⟨.error, refusedMessage f⟩], by rw [if_pos hline]; rfl⟩
      · exact ⟨[], by rw [if_neg hline]; rfl⟩
    · simp only [hf, Bool.false_eq_true, if_false]
      exact ⟨[], rfl⟩

namespace Session

open Engine

/-- Nor does the handling of a fault in a command. -/
theorem onlyLines_directFault (f : Fault) : Effect.OnlyLines (directFault f).effects := by
  unfold directFault
  split
  · exact ⟨[commandFaultLine f], rfl⟩
  · exact ⟨[], rfl⟩

theorem starts_directFault (f : Fault) : Effect.starts (directFault f).effects = [] := by
  unfold directFault
  split <;> rfl

theorem onlyLines_verdictOn (r : Report) :
    Effect.OnlyLines (verdictOn directFault r).effects := by
  unfold verdictOn
  split
  · next o _ => cases o <;> exact ⟨[], rfl⟩
  · exact onlyLines_directFault _

section Direct

variable (location : Location) (d : Desk) (keys : Interview.Keyboard) {screen : Console.Screen}
  {o : Options} (attempt : Attempt) {panel : Text}

/-- What a command shows is its summary, and then status lines. -/
theorem exists_shown_direct (hpanel : SummaryShown screen o panel) :
    ∃ lines : List Console.StatusLine,
      Effect.shown (direct screen location d keys o attempt).effects =
        .verbatim panel :: lines.map .status := by
  have hrun := Executor.onlyLines_run (Executor.ready_starts location true) o.directArguments
    attempt
  obtain ⟨lines, hlines⟩ := hrun.append
    (onlyLines_verdictOn (runReport location o.directArguments attempt))
  refine ⟨lines, ?_⟩
  simp only [direct, hpanel.rendered, hpanel.taken]
  rw [← hlines]
  rfl

/-- **A command starts the engine once**, whatever comes of it. -/
theorem starts_direct (hpanel : SummaryShown screen o panel) :
    Effect.starts (direct screen location d keys o attempt).effects =
      [Text.join [' '] (location.command o.directArguments)] := by
  have hrun := Executor.starts_run (Executor.ready_starts location true) o.directArguments attempt
  have hverdict := starts_verdictOn starts_directFault
    (runReport location o.directArguments attempt)
  have hbefore : Effect.starts
      [.shows (.verbatim panel), modeNote "Direct" o.directArguments] = [] := rfl
  simp only [direct, hpanel.rendered, hpanel.taken, Ending.preceded, engineRun]
  rw [Effect.starts_append, Effect.starts_append, hbefore, hverdict, List.append_nil]
  exact hrun

/-- A command reads no key, and leaves the log as it is set up. -/
theorem direct_keeps : (direct screen location d keys o attempt).keyboard = keys ∧
    (direct screen location d keys o attempt).desk.logger = d.logger := by
  unfold direct
  split
  · exact ⟨rfl, rfl⟩
  · split <;> exact ⟨rfl, rfl⟩

end Direct

end Session

namespace Program

open Session

variable {w : Surroundings} {args : List Text}

/-! ## Setting up -/

/-- Setting up is at most noted, and not by the part that starts the engine. -/
theorem effects_setUp (w : Surroundings) (verbose : Bool) :
    Effect.shown (setUp w verbose).2 = [] ∧ Effect.starts (setUp w verbose).2 = [] := by
  unfold setUp Log.Logger.configure
  dsimp only
  split
  · exact ⟨rfl, rfl⟩
  · split <;> exact ⟨rfl, rfl⟩

/-! ## Two kinds of command lines -/

/-- **Without effect**: no start is tried, nothing is noted, no handler is there, no
file has changed, no key was read. -/
structure WithoutEffect (w : Surroundings) (e : Ending) : Prop where
  command : e.command = none
  starts : Effect.starts e.effects = []
  noted : Effect.noted e.effects = []
  handlers : e.desk.logger.handlers = []
  tree : e.desk.tree = w.tree
  keyboard : e.keyboard = w.keyboard

/-- **One start, and no question**: the command is tried and noted once, no key was
read, and after the summary there are only status lines. -/
structure StartsOnce (w : Surroundings) (panel : Text) (tried : List Text) (e : Ending) :
    Prop where
  command : e.command = some tried
  starts : Effect.starts e.effects = [Text.join [' '] tried]
  keyboard : e.keyboard = w.keyboard
  shown : ∃ lines : List Console.StatusLine,
    Effect.shown e.effects = .verbatim panel :: lines.map .status

/-- An answer without a set-up has no effect. -/
theorem withoutEffect_answered (w : Surroundings) (status : Int) (shown : List Shown) :
    WithoutEffect w (answered w status (shown.map .shows)) where
  command := rfl
  starts := Effect.starts_map_shows shown
  noted := by
    rw [answered, Effect.noted, List.filterMap_map]
    exact List.filterMap_eq_nil_iff.mpr fun _ _ => rfl
  handlers := rfl
  tree := rfl
  keyboard := rfl

/-- A command sets up the log, even if its summary is refused. -/
theorem not_withoutEffect_direct (hargs : args ≠ []) {o : Options} {verbose : Bool}
    (hparse : CommandLine.parse args = .ok (.generate o verbose)) :
    ¬ WithoutEffect w (run w args) := by
  intro h
  refine handlers_setUp w verbose (Eq.trans ?_ h.handlers)
  cases hready : setUpFault w verbose with
  | some f =>
    rw [run_of_setUpFault hargs hparse hready]
    rfl
  | none =>
    have hcarries : Carries w args o verbose := ⟨hargs, hparse, hready⟩
    rw [hcarries.run_eq, Ending.preceded]
    dsimp only
    rw [(direct_keeps _ _ _ _).2]

/-- Once its summary is shown it starts the engine. -/
theorem startsOnce_of_carries {o : Options} {verbose : Bool} {panel : Text}
    (h : Carries w args o verbose) (hpanel : SummaryShown w.screen o panel) :
    StartsOnce w panel (w.environment.location.command o.directArguments) (run w args) := by
  obtain ⟨hshown, hstarts⟩ := effects_setUp w verbose
  obtain ⟨lines, hlines⟩ := exists_shown_direct w.environment.location (setUp w verbose).1
    w.keyboard w.attempt hpanel
  have hcommand := h.command_eq hpanel
  rw [h.run_eq, Ending.preceded] at hcommand ⊢
  refine ⟨hcommand, ?_, ?_, lines, ?_⟩
  · dsimp only
    rw [Effect.starts_append, hstarts, starts_direct _ _ _ _ hpanel, List.nil_append]
  · dsimp only
    rw [(direct_keeps _ _ _ _).1]
  · dsimp only
    rw [Effect.shown_append, hshown, hlines, List.nil_append]

/-- **What a command line sets in motion**, whatever the surroundings are. There is
some command line. Then:

* if it is refused, the program ends with the status 2, without effect;
* if it asks for the version or for help, with the status 0, without effect;
* else it has effect: the log is set up, and once the summary is shown the engine is started
  with the options, once, and nothing is asked. -/
theorem effect_of_commandLine (w : Surroundings) {args : List Text} (hargs : args ≠ []) :
    (∀ e, CommandLine.parse args = .error e →
      (run w args).exit = .ok 2 ∧ WithoutEffect w (run w args)) ∧
    (CommandLine.parse args = .ok .version ∨ CommandLine.parse args = .ok .help →
      (run w args).exit = .ok 0 ∧ WithoutEffect w (run w args)) ∧
    (∀ o verbose, CommandLine.parse args = .ok (.generate o verbose) →
      ¬ WithoutEffect w (run w args) ∧
      (setUpFault w verbose = none → ∀ panel, SummaryShown w.screen o panel →
        StartsOnce w panel (w.environment.location.command o.directArguments) (run w args))) := by
  refine ⟨?_, ?_, ?_⟩
  · intro e hparse
    rw [run_of_ne_nil hargs, direct, hparse]
    exact ⟨rfl, withoutEffect_answered w usageStatus []⟩
  · rintro (hparse | hparse)
    · rw [run_of_ne_nil hargs, direct, hparse]
      exact ⟨rfl, withoutEffect_answered w 0 [.verbatim CommandLine.versionText]⟩
    · rw [run_of_ne_nil hargs, direct, hparse]
      exact ⟨rfl, withoutEffect_answered w 0 []⟩
  · intro o verbose hparse
    exact ⟨not_withoutEffect_direct hargs hparse,
      fun hready panel hpanel => startsOnce_of_carries ⟨hargs, hparse, hready⟩ hpanel⟩

/-- A letter without a meaning behind one that has one; a request behind another letter;
and a text that looks like a request. -/
theorem effect_of_commandLine_clusters :
    (run (bareSurroundings none (.starts [])) ["-t", "employees", "-vx"]).exit = .ok 2 ∧
      WithoutEffect (bareSurroundings none (.starts []))
        (run (bareSurroundings none (.starts [])) ["-t", "employees", "-vx"]) ∧
      (run (bareSurroundings none (.starts [])) ["-k", "key", "-vV"]).exit = .ok 0 ∧
      WithoutEffect (bareSurroundings none (.starts []))
        (run (bareSurroundings none (.starts [])) ["-k", "key", "-vV"]) ∧
      ∃ panel, StartsOnce (bareSurroundings none (.starts [])) panel
        ["java", "-jar", "../core/target/smg-core-1.0.0.jar", "-tables", "--version"]
        (run (bareSurroundings none (.starts [])) ["-t", "--version"]) := by
  have hargs : ∀ (a : Text) (r : List Text), a :: r ≠ [] := fun a r => List.cons_ne_nil a r
  obtain ⟨hrefused, -, -⟩ := effect_of_commandLine (bareSurroundings none (.starts []))
    (hargs "-t" ["employees", "-vx"])
  obtain ⟨-, hasked, -⟩ := effect_of_commandLine (bareSurroundings none (.starts []))
    (hargs "-k" ["key", "-vV"])
  obtain ⟨-, -, hcarried⟩ := effect_of_commandLine (bareSurroundings none (.starts []))
    (hargs "-t" ["--version"])
  obtain ⟨hstatus, hnothing⟩ := hrefused (.noSuchOption "-x") rfl
  obtain ⟨hzero, hnone⟩ := hasked (.inl rfl)
  obtain ⟨panel, hpanel⟩ := exists_summaryShown plainScreen
    (o := Options.empty.set .tables (some "--version")) (by decide +kernel) rfl
  obtain ⟨-, hstarts⟩ := hcarried (Options.empty.set .tables (some "--version")) false rfl
  exact ⟨hstatus, hnothing, hzero, hnone, panel, hstarts (by decide +kernel) panel hpanel⟩

end Program

end SynthDesk
