/-
The supervision of one engine process.

Two readers and a judge share one outcome, and the first of them to settle it
has the word. Progress replaces the text of the indicator while the outcome is
open. The first diagnostics settle a failure at once, with themselves as the
reason. When both streams have ended and the process is accounted for, the
judge notes the end and, if the outcome is still open, settles it by the
status. What comes later is noted and changes nothing.
-/
import SynthDesk.Engine.Event
import SynthDesk.Engine.Outcome
import SynthDesk.Console.Indicator
import SynthDesk.Text.Blank

set_option autoImplicit false

namespace SynthDesk.Engine

/-- How far a run has come: `EngineState`. -/
inductive Phase
  | notStarted
  | running
  | succeeded
  | failed
deriving DecidableEq, Repr

/-- The phase that an outcome leads to. -/
def Outcome.phase : Outcome → Phase
  | .succeeded => .succeeded
  | .failed _ _ => .failed

/-- A process under supervision. -/
structure Supervisor where
  phase : Phase
  outcome : Option Outcome
  /-- There is a console for the lines that are not the indicator's. -/
  console : Bool
  indicator : Indicator
  outOpen : Bool
  errOpen : Bool
  waited : Option Waited
deriving DecidableEq, Repr

namespace Supervisor

/-! ## Acts

An act leaves a supervisor and the effects that led to it. Acts follow one
another, the second working on what the first has left. -/

/-- What an act leaves. -/
abbrev Act := Supervisor × List Effect

/-- The act of doing nothing. -/
def quiet (s : Supervisor) : Act := (s, [])

/-- One act, then another. -/
def Act.andThen (a : Act) (next : Supervisor → Act) : Act :=
  ((next a.1).1, a.2 ++ (next a.1).2)

/-! ## Where a process stands -/

/-- A process that was just started. -/
def started (console : Bool) (indicator : Indicator) : Supervisor :=
  ⟨.running, none, console, indicator, true, true, none⟩

/-- The stream can still be read. -/
def isOpen (s : Supervisor) : Stream → Bool
  | .out => s.outOpen
  | .err => s.errOpen

/-- The stream has ended. -/
def close (s : Supervisor) : Stream → Supervisor
  | .out => { s with outOpen := false }
  | .err => { s with errOpen := false }

/-- Both streams have ended, and the process is accounted for. -/
def isComplete (s : Supervisor) : Bool := !s.outOpen && !s.errOpen && s.waited.isSome

/-! ## Notes and lines -/

/-- A note of this part of the program. -/
def note (level : Log.Level) (message : Text) : Effect := .note level Log.enginePart message

/-- A status line, if there is a console for it. The indicator's console does not count. -/
def say (s : Supervisor) (kind : Console.StatusKind) (message : Text) : List Effect :=
  if s.console then [.line kind message] else []

/-- The line that shows diagnostics. -/
def diagnosticsMessage (t : Text) : Text := Text.ofString "\nError from Java process:\n" ++ t

/-- The line of a success. -/
def successMessage : Text := "Generation completed successfully!"

/-- Where to look after a success. -/
def whereToLook : Text := "Check the summary.log and error.log for details."

/-- The line of a bad status. -/
def statusMessage (n : Int) : Text :=
  Text.ofString "Generation failed with exit code " ++ Text.ofInt n ++ Text.ofString "."

/-- The reason of a bad status. -/
def statusReason (n : Int) : Text := Text.ofString "Java process exited with code " ++ Text.ofInt n

/-- The note of a failed wait, with its trace. -/
def lostNote (m : Mishap) : Effect :=
  .noteFault .error Log.enginePart "Lost track of the engine process" m.fault.trace

/-- The line of a failed wait. -/
def lostMessage (m : Mishap) : Text :=
  Text.ofString "Lost track of the engine process: " ++ m.message

/-! ## Settling -/

/-- **Settling** (`_resolve`): the outcome, if it is still open; otherwise a note. -/
def resolve (o : Outcome) (s : Supervisor) : Act :=
  match s.outcome with
  | some _ => (s, [note .debug (Text.ofString "Ignoring late engine event: " ++ o.inLog)])
  | none => ({ s with phase := o.phase, outcome := some o }, [])

/-- The indicator ends well or badly, with a line for it. -/
def finish (kind : Console.StatusKind) (message : Text) (s : Supervisor) : Act :=
  ({ s with indicator := (s.indicator.finish kind message).1 },
    (s.indicator.finish kind message).2)

/-! ## Reading -/

/-- A piece of progress, as `_relay_progress` takes it. -/
def readOut (s : Supervisor) (piece : List Octet) : Act :=
  let text := (Utf8.decodeLossy piece).strip
  (if s.outcome.isSome then s else { s with indicator := s.indicator.update text },
    [note .debug (Text.ofString "engine: " ++ text)])

/-- A piece of diagnostics, as `_watch_errors` takes it. -/
def readErr (s : Supervisor) (piece : List Octet) : Act :=
  let text := Utf8.decodeLossy piece
  if s.outcome.isSome then
    (s, [note .debug (Text.ofString "engine stderr after resolution: " ++ text.strip)])
  else
    Act.andThen
      ({ s with indicator := s.indicator.stop },
        s.say .error (diagnosticsMessage text) ++
          [note .info (Text.ofString "Engine stderr: " ++ text.strip)])
      (resolve (.failed text none))

/-- A piece of a stream. -/
def readPiece (s : Supervisor) : Stream → List Octet → Act
  | .out, piece => s.readOut piece
  | .err, piece => s.readErr piece

/-- Pieces of a stream, one after another. -/
def readPieces (stream : Stream) : List (List Octet) → Supervisor → Act
  | [], s => s.quiet
  | p :: r, s => (s.readPiece stream p).andThen (readPieces stream r)

/-- What arrived on a stream; on one that has ended nothing does. -/
def receive (stream : Stream) (a : Arrival) (s : Supervisor) : Act :=
  if s.isOpen stream then
    (readPieces stream a.pieces s).andThen fun s =>
      (if a.ending.isSome then s.close stream else s).quiet
  else s.quiet

/-! ## Judging -/

/-- The end of the process, judged: `_watch_exit`, after its wait. -/
def judge (w : Waited) (s : Supervisor) : Act :=
  match w with
  | .status n =>
    Act.andThen (s, [note .info (Text.ofString "Engine exited with code " ++ Text.ofInt n)])
      fun s =>
        if s.outcome.isSome then s.quiet
        else if n = 0 then
          ((finish .success successMessage s).andThen fun s =>
            (s, s.say .info whereToLook)).andThen (resolve .succeeded)
        else
          (finish .error (statusMessage n) s).andThen (resolve (.failed (statusReason n) (some n)))
  | .lost m =>
    (Act.andThen (s, [lostNote m])
      (finish .error (lostMessage m))).andThen (resolve (.failed m.message none))

/-- The judge's turn: he speaks once, when everything has come to its end.
`before` says that it had come to its end already. -/
def conclude (before : Bool) (s : Supervisor) : Act :=
  match s.waited with
  | some w => if s.isComplete && !before then judge w s else s.quiet
  | none => s.quiet

/-! ## One instant -/

/-- The streams in the order in which something happens to them. -/
def readingOrder (i : Instant) : Stream × Stream :=
  match firstStream i with
  | .out => (.out, .err)
  | .err => (.err, .out)

/-- The end of the process is remembered, the first one for good. -/
def account (i : Instant) (s : Supervisor) : Supervisor :=
  { s with waited := s.waited.or (endIn i) }

/-- **One instant.** What arrived is read, the stream first that was first to
get something; the end of the process is remembered; and if with this instant
everything has come to its end, the judge speaks. -/
def step (s : Supervisor) (i : Instant) : Act :=
  let order := readingOrder i
  (((receive order.1 (arrival order.1 i) s).andThen
    (receive order.2 (arrival order.2 i))).andThen
    fun s' => (s'.account i).quiet).andThen
    (conclude s.isComplete)

/-- What is still missing for the run to be over, each in an instant of its own:
the ends of the streams, and an orderly end of the process. -/
def remaining (s : Supervisor) : List Instant :=
  (if s.outOpen then [[.closed .out]] else []) ++
  (if s.errOpen then [[.closed .err]] else []) ++
  (if s.waited.isNone then [[.ended (.status 0)]] else [])

end Supervisor

end SynthDesk.Engine
