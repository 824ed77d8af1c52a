/-
What an engine process does, as seen by the one who started it.

It writes to two streams, each of which ends by being closed or by a failure
to read it, and it ends itself, with a status or in a way that leaves none.
Things that happen before the observer looks belong to one instant: what
arrived on a stream in one instant is one run of octets, and events on a
stream that has ended mean nothing.
-/
import SynthDesk.Fault

set_option autoImplicit false

namespace SynthDesk.Engine

/-- The two streams: progress, and diagnostics. -/
inductive Stream
  | out
  | err
deriving DecidableEq, Repr

/-- What goes wrong in waiting for the process. An interrupt is none of these: it does not
come to the one who waits, but ends the program around him. -/
structure Mishap where
  fault : Fault
  reportable : fault.isReportable = true
deriving DecidableEq, Repr

/-- A mishap of which no more is known than its class and its words. -/
def Mishap.other (className words : Text) : Mishap := ⟨.other className words, rfl⟩

/-- How a mishap reads. -/
abbrev Mishap.message (m : Mishap) : Text := m.fault.message

/-- The result of waiting for the process, `process.wait` of the runtime. -/
inductive Waited
  /-- The status; a signal's number is negative. -/
  | status (n : Int)
  /-- The wait itself failed. -/
  | lost (mishap : Mishap)
deriving DecidableEq, Repr

/-- One thing that happens. -/
inductive Event
  | data (stream : Stream) (octets : List Octet)
  | closed (stream : Stream)
  | broken (stream : Stream)
  | ended (waited : Waited)
deriving DecidableEq, Repr

/-- What happens before the observer looks. -/
abbrev Instant := List Event

/-! ## What one stream gets -/

/-- How a stream ends. -/
inductive Ending
  | closed
  | broken
deriving DecidableEq, Repr

/-- Octets, and perhaps the end of the stream. -/
structure Arrival where
  octets : List Octet
  ending : Option Ending
deriving DecidableEq, Repr

/-- Nothing arrived. -/
def Arrival.nothing : Arrival := ⟨[], none⟩

/-- What a stream gets in an instant: everything up to its end. -/
def arrival (stream : Stream) : Instant → Arrival
  | [] => .nothing
  | .data s octets :: r =>
    if s = stream then
      let later := arrival stream r
      ⟨octets ++ later.octets, later.ending⟩
    else arrival stream r
  | .closed s :: r => if s = stream then ⟨[], some .closed⟩ else arrival stream r
  | .broken s :: r => if s = stream then ⟨[], some .broken⟩ else arrival stream r
  | .ended _ :: r => arrival stream r

/-- The stream that something happens to first. -/
def firstStream : Instant → Stream
  | [] => .out
  | .data s octets :: r => if octets.isEmpty then firstStream r else s
  | .closed s :: _ => s
  | .broken s :: _ => s
  | .ended _ :: r => firstStream r

/-- The end of the process, if it falls into the instant. -/
def endIn : Instant → Option Waited
  | [] => none
  | .ended w :: _ => some w
  | _ :: r => endIn r

/-! ## Pieces -/

/-- The most octets read at a time, `READ_CHUNK_SIZE`. -/
def pieceSize : Nat := 4096

/-- Octets cut into pieces, at most as many as the number says. -/
def piecesWithin : Nat → List Octet → List (List Octet)
  | 0, _ => []
  | n + 1, octets =>
    if octets.isEmpty then []
    else octets.take pieceSize :: piecesWithin n (octets.drop pieceSize)

/-- Octets cut into pieces of full size, the last one perhaps shorter. -/
def pieces (octets : List Octet) : List (List Octet) := piecesWithin octets.length octets

/-- The pieces of an arrival that are read. A stream that breaks gives up what
had not been read by then, and that is all but the first piece. -/
def Arrival.pieces (a : Arrival) : List (List Octet) :=
  if a.ending = some .broken then (Engine.pieces a.octets).take 1 else Engine.pieces a.octets

end SynthDesk.Engine
