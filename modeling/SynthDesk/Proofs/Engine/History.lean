/-
What a history says by itself.

Before anybody supervises the process, its history already fixes three things:
the pieces that the reader of each stream gets, whether a stream has ended, and
how the process has ended. Every statement about a run compares what the
supervisor holds with these three, so they are defined here on the instants
alone, without a supervisor.

Histories grow at their end, so the lemmas say what one more instant adds.
-/
import SynthDesk.Engine.Event

set_option autoImplicit false

namespace SynthDesk.Engine

/-! ## The end of a stream, the end of the process -/

/-- The event ends the stream: it is closed, or reading it fails. -/
def Event.ends (stream : Stream) : Event → Bool
  | .closed s => s = stream
  | .broken s => s = stream
  | .data _ _ => false
  | .ended _ => false

/-- The stream has ended. -/
def hasEnded (stream : Stream) (h : List Instant) : Bool := h.flatten.any (Event.ends stream)

/-- How the process has ended, by the first account of it. -/
def processEnd (h : List Instant) : Option Waited := endIn h.flatten

/-- An arrival carries an ending exactly when the instant ends the stream. -/
theorem arrival_ending_isSome (stream : Stream) (i : Instant) :
    (arrival stream i).ending.isSome = i.any (Event.ends stream) := by
  induction i with
  | nil => rfl
  | cons e r ih =>
    cases e with
    | data s octets =>
      by_cases hs : s = stream
      · simp [arrival, Event.ends, hs, ih]
      · simp [arrival, Event.ends, hs, ih]
    | closed s =>
      by_cases hs : s = stream
      · simp [arrival, Event.ends, hs]
      · simp [arrival, Event.ends, hs, ih]
    | broken s =>
      by_cases hs : s = stream
      · simp [arrival, Event.ends, hs]
      · simp [arrival, Event.ends, hs, ih]
    | ended w => simp [arrival, Event.ends, ih]

theorem hasEnded_append (stream : Stream) (h t : List Instant) :
    hasEnded stream (h ++ t) = (hasEnded stream h || hasEnded stream t) := by
  simp only [hasEnded, List.flatten_append, List.any_append]

theorem hasEnded_concat (stream : Stream) (h : List Instant) (i : Instant) :
    hasEnded stream (h ++ [i]) = (hasEnded stream h || (arrival stream i).ending.isSome) := by
  rw [hasEnded_append, arrival_ending_isSome]
  simp only [hasEnded, List.flatten_singleton]

/-- Of two accounts of the process's end the earlier one counts. -/
theorem endIn_append (a b : List Event) : endIn (a ++ b) = (endIn a).or (endIn b) := by
  induction a with
  | nil => rfl
  | cons e r ih =>
    cases e with
    | ended w => rfl
    | data s octets => exact ih
    | closed s => exact ih
    | broken s => exact ih

theorem processEnd_append (h t : List Instant) :
    processEnd (h ++ t) = (processEnd h).or (processEnd t) := by
  rw [processEnd, List.flatten_append, endIn_append, processEnd, processEnd]

theorem processEnd_concat (h : List Instant) (i : Instant) :
    processEnd (h ++ [i]) = (processEnd h).or (endIn i) := by
  rw [processEnd_append, processEnd, processEnd, List.flatten_singleton]

/-! ## What the reader of a stream gets -/

/-- **The pieces that are read** on a stream: those of every instant, up to the
one in which the stream ends. -/
def piecesRead (stream : Stream) : List Instant → List (List Octet)
  | [] => []
  | i :: r =>
    (arrival stream i).pieces ++
      if (arrival stream i).ending.isSome then [] else piecesRead stream r

/-- More history adds its own pieces, unless the stream has ended before. -/
theorem piecesRead_append (stream : Stream) (h t : List Instant) :
    piecesRead stream (h ++ t) =
      piecesRead stream h ++ if hasEnded stream h then [] else piecesRead stream t := by
  induction h with
  | nil => rfl
  | cons i r ih =>
    have hcons : hasEnded stream (i :: r) =
        ((arrival stream i).ending.isSome || hasEnded stream r) := by
      rw [arrival_ending_isSome]
      simp only [hasEnded, List.flatten_cons, List.any_append]
    simp only [List.cons_append, piecesRead, ih, hcons]
    -- An ending in the first instant cuts off the rest of `h` and `t` alike.
    cases (arrival stream i).ending.isSome with
    | true => simp
    | false => simp

theorem piecesRead_concat (stream : Stream) (h : List Instant) (i : Instant) :
    piecesRead stream (h ++ [i]) =
      piecesRead stream h ++ if hasEnded stream h then [] else (arrival stream i).pieces := by
  rw [piecesRead_append]
  simp only [piecesRead, ite_self, List.append_nil]

/-- A shorter part of a history begins a longer one. -/
theorem take_append_drop_take (h : List Instant) {n k : Nat} (hnk : n ≤ k) :
    h.take n ++ (h.take k).drop n = h.take k := by
  have hcut := List.take_append_drop n (h.take k)
  rwa [List.take_take, Nat.min_eq_left hnk] at hcut

/-! ## A history to its end -/

/-- What a history lacks for the run to be over. -/
def missing (h : List Instant) : List Instant :=
  (if hasEnded .out h then [] else [[.closed .out]]) ++
  (if hasEnded .err h then [] else [[.closed .err]]) ++
  (if (processEnd h).isSome then [] else [[.ended (.status 0)]])

/-- **The whole history of a run**: the one given, and then what it lacks. -/
def completed (h : List Instant) : List Instant := h ++ missing h

/-- Everything has come to its end. -/
def IsComplete (h : List Instant) : Prop :=
  hasEnded .out h = true ∧ hasEnded .err h = true ∧ (processEnd h).isSome = true

/-- What a history lacks contains the end of a stream that has not ended. -/
theorem hasEnded_missing {stream : Stream} {h : List Instant} (hs : hasEnded stream h = false) :
    hasEnded stream (missing h) = true := by
  rw [missing, hasEnded_append, hasEnded_append]
  cases stream with
  | out =>
    have hend : hasEnded .out [[.closed .out]] = true := rfl
    simp [hs, hend]
  | err =>
    have hend : hasEnded .err [[.closed .err]] = true := rfl
    simp [hs, hend]

/-- What a history lacks contains the end of a process that has not ended. -/
theorem processEnd_missing {h : List Instant} (hp : processEnd h = none) :
    processEnd (missing h) = some (.status 0) := by
  -- The closings that stand before it are no account of the process.
  have hout : processEnd (if hasEnded .out h then [] else [[.closed .out]]) = none := by
    split <;> rfl
  have herr : processEnd (if hasEnded .err h then [] else [[.closed .err]]) = none := by
    split <;> rfl
  rw [missing, processEnd_append, processEnd_append, hout, herr, hp]
  rfl

/-- What a history lacks are ends, and nothing to be read. -/
theorem piecesRead_completed (stream : Stream) (h : List Instant) :
    piecesRead stream (completed h) = piecesRead stream h := by
  have hmissing : piecesRead stream (missing h) = [] := by
    rw [missing]
    cases stream <;> cases hasEnded .out h <;> cases hasEnded .err h <;>
      cases (processEnd h).isSome <;> rfl
  rw [completed, piecesRead_append, hmissing, ite_self, List.append_nil]

/-- A whole history ends both streams and the process. -/
theorem isComplete_completed (h : List Instant) : IsComplete (completed h) := by
  have hstream : ∀ stream, hasEnded stream (completed h) = true := by
    intro stream
    rw [completed, hasEnded_append]
    cases hs : hasEnded stream h with
    | true => rfl
    | false => rw [hasEnded_missing hs]; rfl
  refine ⟨hstream .out, hstream .err, ?_⟩
  rw [completed, processEnd_append]
  cases hp : processEnd h with
  | some w => rfl
  | none => rw [processEnd_missing hp]; rfl

/-- A history in which everything has ended is whole. -/
theorem completed_of_isComplete {h : List Instant} (hc : IsComplete h) : completed h = h := by
  obtain ⟨hout, herr, hend⟩ := hc
  simp [completed, missing, hout, herr, hend]

end SynthDesk.Engine
