/-
Engine runs, one after another.

An executor knows where the engine is and has one indicator for all its runs.
A run starts the indicator and then the process. If the process cannot be
started the run has failed; any other fault at the start is passed on. Once
the process has started, the run is the supervision of its history, to which
whatever is missing at the end is added.
-/
import SynthDesk.Engine.Completion
import SynthDesk.Engine.Command

set_option autoImplicit false

namespace SynthDesk.Engine

/-- What comes of the attempt to start the process, `create_subprocess_exec` of the runtime. -/
inductive Attempt
  /-- It starts, and this is its history. -/
  | starts (history : List Instant)
  /-- It does not start. -/
  | refused (fault : Fault)
deriving DecidableEq, Repr

/-- Everything about one run. -/
structure Report where
  /-- The command, if it was tried. -/
  command : Option (List Text)
  /-- The outcome, or the fault that was passed on. -/
  result : Except Fault Outcome
  /-- What waiting for the process gave: nothing without a process. -/
  closed : Except Fault (Option Int)
  /-- The phase at the end. -/
  phase : Phase
  /-- The moments from the start on. -/
  moments : List Moment

/-- All that was done in a run. -/
def Report.effects (r : Report) : List Effect := r.moments.flatMap Moment.effects

/-- Where the engine is, and who shows what: an `EngineExecutor` between runs. It and its
indicator have a console each; unless an indicator is handed over, it is one and the same. -/
@[ext]
structure Executor where
  location : Location
  /-- There is a console for the executor's own lines. -/
  console : Bool
  indicator : Indicator
deriving DecidableEq, Repr

namespace Executor

/-- An executor before its first run, with an indicator on its own console. -/
def ready (location : Location) (console : Bool) : Executor :=
  ⟨location, console, .idle console Indicator.initialText⟩

/-- The note that a start is tried. -/
def startNote (command : List Text) : Effect :=
  Supervisor.note .info (Text.ofString "Starting engine: " ++ Text.join [' '] command)

/-- The message of a start that was refused. -/
def refusedMessage (f : Fault) : Text := Text.ofString "Could not start the engine: " ++ f.message

/-- The note of a start that was refused. -/
def refusedNote (runtime : Text) (f : Fault) : Effect :=
  Supervisor.note .info (Text.ofString "Could not start engine " ++ runtime ++
    Text.ofString ": " ++ f.message)

/-- What waiting for an ended process gives: `wait_closed`. -/
def closedBy : Option Waited → Except Fault (Option Int)
  | none => .ok none
  | some (.status n) => .ok (some n)
  | some (.lost m) => .error m.fault

/-- A run that ends before there is a process. -/
def unstarted (command : Option (List Text)) (result : Except Fault Outcome) (phase : Phase)
    (indicator : Indicator) (effects : List Effect) : Report where
  command := command
  result := result
  closed := .ok none
  phase := phase
  moments := [⟨phase, indicator.text, indicator.active, result.toOption, effects⟩]

/-- **One run**: `EngineExecutor.execute`, drained by `wait_closed`. -/
def run (x : Executor) (args : List Text) (attempt : Attempt) : Executor × Report :=
  let command := x.location.command args
  let noted := startNote command
  let indicator := x.indicator.start.1
  match x.indicator.start.2 with
  | some e =>
    ({ x with indicator },
      unstarted none (.error (.markup e)) .notStarted indicator [noted])
  | none => match attempt with
    | .refused f =>
      if f.isRefusal then
        let failed := indicator.fail (refusedMessage f)
        ({ x with indicator := failed.1 },
          unstarted (some command) (.ok (.failed f.message none)) .failed failed.1
            (noted :: refusedNote x.location.runtime f :: failed.2))
      else
        ({ x with indicator },
          unstarted (some command) (.error f) .notStarted indicator [noted])
    | .starts history =>
      let s := Supervisor.started x.console indicator
      let run := s.complete history
      ({ x with indicator := run.1.indicator },
        { command := some command
          result := .ok (Supervisor.verdict x.console indicator history)
          closed := closedBy run.1.waited
          phase := run.1.phase
          moments := s.moment [noted] :: run.2 })

/-- Runs one after another, each begun when the one before is over. -/
def runs (x : Executor) : List (List Text × Attempt) → Executor × List Report
  | [] => (x, [])
  | (args, attempt) :: r =>
    let first := x.run args attempt
    let later := runs first.1 r
    (later.1, first.2 :: later.2)

end Executor

end SynthDesk.Engine
