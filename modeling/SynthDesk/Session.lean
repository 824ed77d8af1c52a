/-
A session: from options or an interview to the status of the program.

Both ways of working end in one engine run, which is drained before anything
is concluded from it: a fault of the draining counts for more than the outcome
of the run. A command shows its summary first, an interview asks and perhaps
remembers. Whatever goes wrong on the way ends as one line and a status; only
the summary of a command stands outside of that, and the screen can refuse it. All
else that is shown is taken to reach the screen.

A session works at a desk: the file tree and the log that writes into it.
Every record is written when it is made, so what the files hold later in the
session can depend on it.
-/
import SynthDesk.Console.Panel
import SynthDesk.Engine.Executor
import SynthDesk.Interview.Basic
import SynthDesk.Log.Setup
import SynthDesk.Options.Arguments
import SynthDesk.Options.Summary
import SynthDesk.Settings.Answers
import SynthDesk.Settings.Store

set_option autoImplicit false

namespace SynthDesk

/-! ## The desk -/

/-- What the surroundings set: the settings' path, the engine's runtime, the
engine's archive. -/
structure Environment where
  settings : Option Text
  runtime : Option Text
  jar : Option Text
deriving DecidableEq, Repr

/-- Where the engine is. -/
def Environment.location (e : Environment) : Engine.Location := .ofEnvironment e.runtime e.jar

/-- The file tree, and the log. -/
structure Desk where
  tree : FileTree
  logger : Log.Logger
deriving DecidableEq, Repr

/-- The desk after effects: the records among them are written. -/
def Desk.after (d : Desk) (es : List Effect) : Desk :=
  { d with tree := d.logger.handleAll d.tree (Effect.noted es) }

namespace Session

/-! ## Endings -/

/-- How a session ends, and what it did. -/
structure Ending where
  /-- The status, or a fault that leaves the program. -/
  exit : Except Fault Int
  effects : List Effect
  /-- The engine's command, if a start was tried. -/
  command : Option (List Text)
  /-- What the keyboard still holds. -/
  keyboard : Interview.Keyboard
  /-- The desk at the end. -/
  desk : Desk

/-- An ending without an engine run. -/
def Ending.early (d : Desk) (keys : Interview.Keyboard) (exit : Except Fault Int)
    (effects : List Effect) : Ending :=
  ⟨exit, effects, none, keys, d.after effects⟩

/-- A session that was preceded by something else. -/
def Ending.preceded (e : Ending) (earlier : List Effect) : Ending :=
  { e with effects := earlier ++ e.effects }

/-- A note of this part of the program. -/
def note (level : Log.Level) (message : Text) : Effect := .note level Log.commandPart message

/-- The status after the user's wish to stop. -/
def cancelledStatus : Int := 130

/-- The note of a fault, with its trace, and the line. -/
def faultEffects (noted shown : Text) (f : Fault) : List Effect :=
  [.noteFault .debug Log.commandPart noted f.trace, .line .error (shown ++ f.message)]

/-- A status, and what is done on the way to it. -/
structure Verdict where
  status : Int
  effects : List Effect
deriving DecidableEq, Repr

/-- A fault in a command, as `generate_from_options` handles it: an interrupt ends it silently, all
else is reported. -/
def directFault (f : Fault) : Verdict :=
  if f.isReportable then
    ⟨1, faultEffects "Command-line execution failed"
      "An error occurred during command-line execution: " f⟩
  else ⟨cancelledStatus, []⟩

/-- A fault in an interview, as `generate_interactive` handles it: the user's wish to stop is
acknowledged, all else is reported. -/
def interactiveFault (f : Fault) : Verdict :=
  if f.isCancellation then ⟨cancelledStatus, [.line .warning "\nCancelled."]⟩
  else ⟨1, faultEffects "Interactive execution failed"
    "An error occurred during interactive execution: " f⟩

/-! ## Engine runs -/

/-- The outcome of a run, once it is drained: `run_engine`. -/
def drained (r : Engine.Report) : Except Fault Engine.Outcome :=
  match r.result with
  | .error f => .error f
  | .ok o => match r.closed with
    | .error f => .error f
    | .ok _ => .ok o

/-- The status for an outcome, as `_finish` gives it; a failure is noted with its reason. -/
def concluded (o : Engine.Outcome) : Verdict :=
  match o with
  | .succeeded => ⟨o.exitStatus, []⟩
  | .failed reason _ =>
    ⟨o.exitStatus, [note .info (Text.ofString "Generation failed: " ++ reason.strip)]⟩

/-- The verdict on a run. -/
def verdictOn (onFault : Fault → Verdict) (r : Engine.Report) : Verdict :=
  match drained r with
  | .ok o => concluded o
  | .error f => onFault f

/-- **The end of a session**: one engine run and what follows from it. -/
def engineRun (onFault : Fault → Verdict) (location : Engine.Location) (d : Desk)
    (keys : Interview.Keyboard) (args : List Text) (attempt : Engine.Attempt) : Ending :=
  let report := ((Engine.Executor.ready location true).run args attempt).2
  let verdict := verdictOn onFault report
  let effects := report.effects ++ verdict.effects
  ⟨.ok verdict.status, effects, report.command, keys, d.after effects⟩

/-- The note of how many arguments a mode passes on, as `run_direct` and `run_interactive` make
it. -/
def modeNote (mode : Text) (args : List Text) : Effect :=
  note .info (mode ++ Text.ofString " mode with " ++ Text.ofNat args.length ++
    Text.ofString " engine arguments")

/-! ## Commands -/

/-- The panel that shows the options. -/
def summaryPanel (o : Options) : Console.Panel where
  title := "SMG generation"
  content := o.describe

/-- **A command**: the summary, and a run with the options (`generate_from_options`). What is
wrong with the summary leaves the program. -/
def direct (screen : Console.Screen) (location : Engine.Location) (d : Desk)
    (keys : Interview.Keyboard) (o : Options) (attempt : Engine.Attempt) : Ending :=
  match (summaryPanel o).render screen with
  | .error e => .early d keys (.error (.markup e)) []
  | .ok panel =>
    match screen.refused? panel with
    | some e => .early d keys (.error (.screen e)) []
    | none =>
      let args := o.directArguments
      let before := [.shows (.verbatim panel), modeNote "Direct" args]
      (engineRun directFault location (d.after before) keys args attempt).preceded before

/-! ## Interviews -/

/-- Remembering answers, as `run_interactive` does: the desk afterwards, and what was done. -/
def remember (store : Settings.Store) (d : Desk) (s : Settings) : Desk × List Effect :=
  let saved := store.save d.tree s.toDraft
  let effects := saved.records.map .notes ++
    if saved.saved then
      [.line .info (Text.ofString "Configuration saved to " ++ store.path.toText)]
    else []
  ({ d with tree := saved.tree }.after effects, effects)

/-- **An interview** over loaded settings, and a run with the answers (`run_interactive`). -/
def interviewed (store : Settings.Store) (location : Engine.Location) (d : Desk)
    (keys : Interview.Keyboard) (s : Settings) (attempt : Engine.Attempt) : Ending :=
  let reply := Interview.interview s keys
  let asked := reply.shown.map Effect.shows
  match reply.result with
  | .error f =>
    let verdict := interactiveFault f
    .early d reply.rest (.ok verdict.status) (asked ++ verdict.effects)
  | .ok (o, wanted) =>
    let kept := if wanted then remember store d (s.withAnswers o) else (d, [])
    let args := o.interactiveArguments
    let before := [modeNote "Interactive" args]
    (engineRun interactiveFault location (kept.1.after before) reply.rest args attempt).preceded
      (asked ++ kept.2 ++ before)

/-- The session of an interview (`generate_interactive`): settings are loaded first, by a reader
that may go down so many levels. -/
def interactive (store : Settings.Store) (levels : Nat) (location : Engine.Location) (d : Desk)
    (keys : Interview.Keyboard) (attempt : Engine.Attempt) : Ending :=
  match store.load levels d.tree with
  | .error n =>
    let verdict := interactiveFault (.nesting n)
    .early d keys (.ok verdict.status) verdict.effects
  | .ok loaded =>
    let noted := loaded.records.map Effect.notes
    (interviewed store location (d.after noted) keys loaded.settings attempt).preceded noted

end Session

end SynthDesk
