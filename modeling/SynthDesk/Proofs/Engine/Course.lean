/-
What a run makes of its arguments.

The arguments of the engine are passed on, and they stand in the note that a start is
tried. Nothing else in a run depends on them: not what comes of it, not the phases, not a
line on the screen, not a later note. So all runs with one attempt are one run, into which
a command is put in two places.
-/
import SynthDesk.Proofs.Engine.Run

set_option autoImplicit false

namespace SynthDesk.Engine

open Supervisor Executor

/-- **A report without its command**: what is the same in all runs with one attempt. -/
structure Course where
  result : Except Fault Outcome
  closed : Except Fault (Option Int)
  phase : Phase
  /-- The moment of the start, but for the note of it. -/
  start : Moment
  later : List Moment

namespace Course

/-- The report of a run on this course. -/
def report (c : Course) (command : List Text) : Report where
  command := some command
  result := c.result
  closed := c.closed
  phase := c.phase
  moments := { c.start with effects := startNote command :: c.start.effects } :: c.later

/-- What is done on the course after a start was noted. -/
def effects (c : Course) : List Effect := c.start.effects ++ c.later.flatMap Moment.effects

theorem effects_report (c : Course) (command : List Text) :
    (c.report command).effects = startNote command :: c.effects := by
  simp only [report, Report.effects, effects, List.flatMap_cons, List.cons_append]

end Course

/-- **Runs with one attempt take one course**, whatever the arguments are. -/
theorem Executor.exists_course {x : Executor} (hs : x.indicator.start.2 = none)
    (attempt : Attempt) :
    ∃ c : Course, ∀ args, (x.run args attempt).2 = c.report (x.location.command args) := by
  cases attempt with
  | starts history =>
    refine ⟨⟨.ok (verdict x.console x.begun history),
      closedBy (reached x.console x.begun (completed history)).waited,
      (reached x.console x.begun (completed history)).phase,
      (Supervisor.started x.console x.begun).moment [],
      ((Supervisor.started x.console x.begun).follow (completed history)).2⟩, fun args => ?_⟩
    rw [run_starts hs]
    rfl
  | refused f =>
    cases hf : f.isRefusal with
    | true =>
      -- The refusal is noted and shown after the start was noted.
      let failed := x.begun.fail (refusedMessage f)
      refine ⟨⟨.ok (.failed f.message none), .ok none, .failed,
        ⟨.failed, failed.1.text, failed.1.active, some (.failed f.message none),
          refusedNote x.location.runtime f :: failed.2⟩, []⟩, fun args => ?_⟩
      rw [run, hs]
      simp only [hf, if_true]
      rfl
    | false =>
      refine ⟨⟨.error f, .ok none, .notStarted,
        ⟨.notStarted, x.begun.text, x.begun.active, none, []⟩, []⟩, fun args => ?_⟩
      rw [run, hs]
      simp only [hf, Bool.false_eq_true, if_false]
      rfl

end SynthDesk.Engine
