/-
Runs do not depend on how their events are interleaved.

Each event belongs to one of three parties, a stream or the process. Where
events come one at a time, what a run reads on a stream, whether the stream has
ended and how the process has ended are each told by the events of one party
alone. The ruling asks for the diagnostics, for the end of everything, and for
the end of the process; so two whole runs with the same diagnostics and the
same process are settled alike, however their events are mixed, and whatever
progress there is in between.
-/
import SynthDesk.Proofs.Engine.Run
import SynthDesk.Session

set_option autoImplicit false

namespace SynthDesk.Engine

open Supervisor Executor

/-! ## Parties -/

/-- Whose event it is. -/
inductive Party
  | stream (s : Stream)
  | process
deriving DecidableEq, Repr

/-- The party that an event belongs to. -/
def Event.party : Event → Party
  | .data s _ => .stream s
  | .closed s => .stream s
  | .broken s => .stream s
  | .ended _ => .process

/-- The events of one party, in their order. -/
def eventsOf (p : Party) (es : List Event) : List Event := es.filter fun e => e.party = p

/-- Events that come one at a time, each in an instant of its own. -/
def singly (es : List Event) : List Instant := es.map fun e => [e]

theorem flatten_singly (es : List Event) : (singly es).flatten = es := by
  induction es with
  | nil => rfl
  | cons e r ih => exact congrArg (e :: ·) ih

/-! ## What one party tells -/

/-- On a stream nothing arrives by the events of the others. -/
theorem arrival_of_party_ne {stream : Stream} {e : Event} (h : e.party ≠ .stream stream) :
    arrival stream [e] = .nothing := by
  cases e with
  | ended w => rfl
  | data s octets =>
    have hs : s ≠ stream := fun hs => h (congrArg Party.stream hs)
    rw [arrival, if_neg hs]
    rfl
  | closed s =>
    have hs : s ≠ stream := fun hs => h (congrArg Party.stream hs)
    rw [arrival, if_neg hs]
    rfl
  | broken s =>
    have hs : s ≠ stream := fun hs => h (congrArg Party.stream hs)
    rw [arrival, if_neg hs]
    rfl

/-- What is read on a stream is told by the events of the stream. -/
theorem piecesRead_singly (stream : Stream) (es : List Event) :
    piecesRead stream (singly es) = piecesRead stream (singly (eventsOf (.stream stream) es)) := by
  induction es with
  | nil => rfl
  | cons e r ih =>
    by_cases he : e.party = .stream stream
    · have hkeep : eventsOf (.stream stream) (e :: r) = e :: eventsOf (.stream stream) r := by
        rw [eventsOf, List.filter_cons_of_pos (by simpa using he), eventsOf]
      rw [hkeep]
      simp only [singly, List.map_cons, piecesRead] at ih ⊢
      rw [ih]
    · have hdrop : eventsOf (.stream stream) (e :: r) = eventsOf (.stream stream) r := by
        rw [eventsOf, List.filter_cons_of_neg (by simpa using he), eventsOf]
      -- By the event of another nothing is read, and the stream does not end.
      rw [hdrop, ← ih]
      simp only [singly, List.map_cons, piecesRead, arrival_of_party_ne he]
      rfl

/-- How the process has ended is told by the events of the process. -/
theorem processEnd_singly (es : List Event) :
    processEnd (singly es) = endIn (eventsOf .process es) := by
  rw [processEnd, flatten_singly]
  induction es with
  | nil => rfl
  | cons e r ih =>
    cases e with
    | ended w => rfl
    | data s octets => exact ih
    | closed s => exact ih
    | broken s => exact ih

/-- Two whole histories with the same diagnostics and the same process have the
same ruling. -/
theorem rulingOf_singly_congr {es₁ es₂ : List Event} (hc₁ : IsComplete (singly es₁))
    (hc₂ : IsComplete (singly es₂))
    (herr : eventsOf (.stream .err) es₁ = eventsOf (.stream .err) es₂)
    (hprocess : eventsOf .process es₁ = eventsOf .process es₂) :
    rulingOf (singly es₁) = rulingOf (singly es₂) := by
  have hread : piecesRead .err (singly es₁) = piecesRead .err (singly es₂) := by
    rw [piecesRead_singly, herr, ← piecesRead_singly]
  have hend : processEnd (singly es₁) = processEnd (singly es₂) := by
    rw [processEnd_singly, hprocess, ← processEnd_singly]
  cases hp : piecesRead .err (singly es₁) with
  | cons piece later =>
    rw [rulingOf_of_cons hp, rulingOf_of_cons (hread.symm.trans hp)]
  | nil =>
    -- Without diagnostics all that counts of the rest is that it has ended.
    obtain ⟨w, hw⟩ := Option.isSome_iff_exists.mp hc₁.2.2
    rw [rulingOf_of_isComplete hp hc₁ hw,
      rulingOf_of_isComplete (hread.symm.trans hp) hc₂ (hend.symm.trans hw)]

/-! ## Runs -/

/-- The program's verdict on a run looks at its result and at the draining. -/
theorem verdictOn_congr {r₁ r₂ : Report} (hresult : r₁.result = r₂.result)
    (hclosed : r₁.closed = r₂.closed) (onFault : Fault → Session.Verdict) :
    Session.verdictOn onFault r₁ = Session.verdictOn onFault r₂ := by
  rw [Session.verdictOn, Session.verdictOn, Session.drained, Session.drained, hresult, hclosed]

/-- **Two runs end alike**: with the same outcome, the same phase, the same report
on the screen, the same result of the draining, and the same status of the
program in either of its modes. -/
structure EndAlike (r₁ r₂ : Report) : Prop where
  result : r₁.result = r₂.result
  phase : r₁.phase = r₂.phase
  shown : Effect.shown r₁.effects = Effect.shown r₂.effects
  closed : r₁.closed = r₂.closed
  status : ∀ onFault,
    (Session.verdictOn onFault r₁).status = (Session.verdictOn onFault r₂).status

/-- **Interleaving does not matter.** Take two whole sequences of single events,
with the same events on the stream of diagnostics and the same events of the
process, mixed with each other and with any progress in any two ways: the two
runs end alike. Progress is not even asked to be the same. -/
theorem interleaving_independence (x : Executor) (args : List Text) (es₁ es₂ : List Event)
    (hc₁ : IsComplete (singly es₁)) (hc₂ : IsComplete (singly es₂))
    (herr : eventsOf (.stream .err) es₁ = eventsOf (.stream .err) es₂)
    (hprocess : eventsOf .process es₁ = eventsOf .process es₂) :
    EndAlike (x.run args (.starts (singly es₁))).2 (x.run args (.starts (singly es₂))).2 := by
  cases hs : x.indicator.start.2 with
  | some e =>
    -- The indicator refuses to start, and neither run has a process.
    have hsame : (x.run args (.starts (singly es₁))).2 = (x.run args (.starts (singly es₂))).2 := by
      rw [run, hs, run, hs]
    rw [hsame]
    exact ⟨rfl, rfl, rfl, rfl, fun _ => rfl⟩
  | none =>
    obtain ⟨r, hrule₁⟩ := exists_rulingOf hc₁
    have hrule₂ : rulingOf (singly es₂) = some r := by
      rw [← rulingOf_singly_congr hc₁ hc₂ herr hprocess, hrule₁]
    have hend : processEnd (singly es₁) = processEnd (singly es₂) := by
      rw [processEnd_singly, hprocess, ← processEnd_singly]
    rw [← completed_of_isComplete hc₁] at hrule₁
    rw [← completed_of_isComplete hc₂] at hrule₂
    obtain ⟨hresult₁, hphase₁, hclosed₁, hshown₁⟩ := run_of_ruling hs args hrule₁
    obtain ⟨hresult₂, hphase₂, hclosed₂, hshown₂⟩ := run_of_ruling hs args hrule₂
    have hresult := hresult₁.trans hresult₂.symm
    have hclosed : (x.run args (.starts (singly es₁))).2.closed =
        (x.run args (.starts (singly es₂))).2.closed := by
      rw [hclosed₁, hclosed₂, completed_of_isComplete hc₁, completed_of_isComplete hc₂, hend]
    refine ⟨hresult, hphase₁.trans hphase₂.symm, hshown₁.trans hshown₂.symm, hclosed, ?_⟩
    intro onFault
    rw [verdictOn_congr hresult hclosed]

/-- Diagnostics, and then a process that ends well. -/
def earlyDiagnostics : List Event :=
  [.data .err (Utf8.encode "bad"), .ended (.status 0), .closed .err, .closed .out]

/-- The same diagnostics after the end of the same process, and some progress. -/
def belatedDiagnostics : List Event :=
  [.ended (.status 0), .data .out (Utf8.encode "ok"), .closed .out,
    .data .err (Utf8.encode "bad"), .closed .err]

theorem interleaving_independence_earlyAndBelated :
    IsComplete (singly earlyDiagnostics) ∧ IsComplete (singly belatedDiagnostics) ∧
      EndAlike ((Executor.ready .standard true).run [] (.starts (singly earlyDiagnostics))).2
        ((Executor.ready .standard true).run [] (.starts (singly belatedDiagnostics))).2 ∧
      (Session.verdictOn Session.directFault
        ((Executor.ready .standard true).run [] (.starts (singly belatedDiagnostics))).2).status =
          1 := by
  have hearly : IsComplete (singly earlyDiagnostics) := ⟨by decide, by decide, by decide⟩
  have hbelated : IsComplete (singly belatedDiagnostics) := ⟨by decide, by decide, by decide⟩
  have hsame := interleaving_independence (.ready .standard true) [] earlyDiagnostics
    belatedDiagnostics hearly hbelated (by decide) (by decide)
  refine ⟨hearly, hbelated, hsame, ?_⟩
  rw [← hsame.status Session.directFault]
  decide

end SynthDesk.Engine
