/-
A process followed to its end.

The history is followed instant by instant, and then whatever is missing at its
end. With that both streams have ended and the process is accounted for, so the
judge has had his turn, and there is an outcome. An executor takes its outcome
from here.
-/
import SynthDesk.Engine.Supervisor

set_option autoImplicit false

namespace SynthDesk.Engine

/-- What can be seen at one moment, and what was done since the last. -/
structure Moment where
  phase : Phase
  text : Text
  active : Bool
  outcome : Option Outcome
  effects : List Effect
deriving DecidableEq, Repr

namespace Supervisor

/-- The moment that a supervised process is in. -/
def moment (s : Supervisor) (effects : List Effect) : Moment :=
  ⟨s.phase, s.indicator.text, s.indicator.active, s.outcome, effects⟩

/-- The process after some instants, with a moment for each. -/
def follow (s : Supervisor) : List Instant → Supervisor × List Moment
  | [] => (s, [])
  | i :: r =>
    let act := s.step i
    let later := follow act.1 r
    (later.1, act.1.moment act.2 :: later.2)

/-- The process to its end: the history, and then what is missing. -/
def complete (s : Supervisor) (history : List Instant) : Supervisor × List Moment :=
  let before := s.follow history
  let after := before.1.follow before.1.remaining
  (after.1, before.2 ++ after.2)

/-! ## What an act leaves settled -/

theorem isSettled_resolve (o : Outcome) (s : Supervisor) : (resolve o s).1.outcome.isSome := by
  unfold resolve
  split
  · next ho => rw [ho]; rfl
  · rfl

/-- **The judge settles.** Each of his words ends in an outcome, unless there is one. -/
theorem isSettled_judge (w : Waited) (s : Supervisor) : (judge w s).1.outcome.isSome := by
  cases w with
  | status n =>
    simp only [judge, Act.andThen]
    split
    · assumption
    · split
      · exact isSettled_resolve _ _
      · exact isSettled_resolve _ _
  | lost m => exact isSettled_resolve _ _

theorem isSettled_readPiece {s : Supervisor} (h : s.outcome.isSome) (stream : Stream)
    (piece : List Octet) : (s.readPiece stream piece).1.outcome.isSome := by
  cases stream with
  | out => simp only [readPiece, readOut, h, if_true]
  | err => simp only [readPiece, readErr, h, if_true]

theorem isSettled_readPieces (stream : Stream) (pieces : List (List Octet)) {s : Supervisor}
    (h : s.outcome.isSome) : (readPieces stream pieces s).1.outcome.isSome := by
  induction pieces generalizing s with
  | nil => exact h
  | cons p r ih => exact ih (isSettled_readPiece h stream p)

theorem isSettled_receive (stream : Stream) (a : Arrival) {s : Supervisor}
    (h : s.outcome.isSome) : (receive stream a s).1.outcome.isSome := by
  have hread := isSettled_readPieces stream a.pieces h
  unfold receive
  split
  · simp only [Act.andThen, quiet]
    split
    · cases stream <;> exact hread
    · exact hread
  · exact h

/-! ## What an act leaves open

An act that is not the end of a stream leaves the streams as they are, and the
account of the process too. -/

/-- The same streams are open, and the process is accounted for alike. -/
structure SameEnds (s s' : Supervisor) : Prop where
  outOpen : s'.outOpen = s.outOpen
  errOpen : s'.errOpen = s.errOpen
  waited : s'.waited = s.waited

namespace SameEnds

variable {s s' s'' : Supervisor}

theorem refl (s : Supervisor) : SameEnds s s := ⟨rfl, rfl, rfl⟩

theorem trans (h : SameEnds s s') (h' : SameEnds s' s'') : SameEnds s s'' :=
  ⟨h'.outOpen.trans h.outOpen, h'.errOpen.trans h.errOpen, h'.waited.trans h.waited⟩

theorem resolve (o : Outcome) (s : Supervisor) : SameEnds s (resolve o s).1 := by
  unfold Supervisor.resolve
  split <;> exact ⟨rfl, rfl, rfl⟩

theorem finish (kind : Console.StatusKind) (message : Text) (s : Supervisor) :
    SameEnds s (finish kind message s).1 := ⟨rfl, rfl, rfl⟩

theorem judge (w : Waited) (s : Supervisor) : SameEnds s (judge w s).1 := by
  cases w with
  | status n =>
    simp only [Supervisor.judge, Act.andThen]
    split
    · exact .refl s
    · split
      · exact (SameEnds.finish _ _ s).trans (.resolve _ _)
      · exact (SameEnds.finish _ _ s).trans (.resolve _ _)
  | lost m => exact (SameEnds.finish _ _ s).trans (.resolve _ _)

theorem readPiece (s : Supervisor) (stream : Stream) (piece : List Octet) :
    SameEnds s (s.readPiece stream piece).1 := by
  cases stream with
  | out =>
    simp only [Supervisor.readPiece, readOut]
    split <;> exact ⟨rfl, rfl, rfl⟩
  | err =>
    simp only [Supervisor.readPiece, readErr]
    split
    · exact .refl s
    · refine .trans ?_ (.resolve _ { s with indicator := s.indicator.stop })
      exact ⟨rfl, rfl, rfl⟩

theorem readPieces (stream : Stream) (pieces : List (List Octet)) (s : Supervisor) :
    SameEnds s (readPieces stream pieces s).1 := by
  induction pieces generalizing s with
  | nil => exact .refl s
  | cons p r ih => exact (SameEnds.readPiece s stream p).trans (ih _)

theorem conclude (before : Bool) (s : Supervisor) : SameEnds s (conclude before s).1 := by
  unfold Supervisor.conclude
  split
  · split
    · exact .judge _ s
    · exact .refl s
  · exact .refl s

end SameEnds

/-- What arrives on a stream leaves the other one as it is. -/
theorem receive_ends (stream : Stream) (a : Arrival) (s : Supervisor) :
    (receive stream a s).1.outOpen = (s.outOpen && !(decide (stream = .out) && a.ending.isSome)) ∧
    (receive stream a s).1.errOpen = (s.errOpen && !(decide (stream = .err) && a.ending.isSome)) ∧
    (receive stream a s).1.waited = s.waited := by
  have hread := SameEnds.readPieces stream a.pieces s
  unfold receive
  cases stream with
  | out =>
    cases ho : s.outOpen <;> cases he : a.ending.isSome <;>
      simp [isOpen, ho, Act.andThen, quiet, close, hread.outOpen, hread.errOpen, hread.waited]
  | err =>
    cases ho : s.errOpen <;> cases he : a.ending.isSome <;>
      simp [isOpen, ho, Act.andThen, quiet, close, hread.outOpen, hread.errOpen, hread.waited]

/-- **The ends after an instant**: those from before, and those in the instant. -/
theorem step_ends (s : Supervisor) (i : Instant) :
    (s.step i).1.outOpen = (s.outOpen && !(arrival .out i).ending.isSome) ∧
    (s.step i).1.errOpen = (s.errOpen && !(arrival .err i).ending.isSome) ∧
    (s.step i).1.waited = s.waited.or (endIn i) := by
  simp only [step, Act.andThen, quiet]
  have hconcl := SameEnds.conclude s.isComplete ((receive (readingOrder i).2
    (arrival (readingOrder i).2 i) (receive (readingOrder i).1
      (arrival (readingOrder i).1 i) s).1).1.account i)
  obtain ⟨hout, herr, hwaited⟩ := receive_ends (readingOrder i).2 (arrival (readingOrder i).2 i)
    (receive (readingOrder i).1 (arrival (readingOrder i).1 i) s).1
  obtain ⟨hout', herr', hwaited'⟩ := receive_ends (readingOrder i).1
    (arrival (readingOrder i).1 i) s
  rw [hconcl.outOpen, hconcl.errOpen, hconcl.waited]
  simp only [account, hout, herr, hwaited, hout', herr', hwaited']
  cases hfirst : firstStream i <;> simp [readingOrder, hfirst]

/-! ## Settled in the end -/

/-- There is an outcome if everything has ended. -/
def Judged (s : Supervisor) : Prop := s.isComplete → s.outcome.isSome

/-- **An instant keeps a process judged**: what ends with it is judged with it. -/
theorem Judged.step {s : Supervisor} (h : s.Judged) (i : Instant) : (s.step i).1.Judged := by
  intro hcomplete
  simp only [Supervisor.step, Act.andThen, quiet] at hcomplete ⊢
  generalize hu : (receive (readingOrder i).2 (arrival (readingOrder i).2 i)
    (receive (readingOrder i).1 (arrival (readingOrder i).1 i) s).1).1.account i = u
    at hcomplete ⊢
  have hends := SameEnds.conclude s.isComplete u
  have hwaited : u.waited.isSome := by
    rw [← hends.waited]
    exact (Bool.and_eq_true_iff.mp hcomplete).2
  obtain ⟨w, hw⟩ := Option.isSome_iff_exists.mp hwaited
  have hall : u.isComplete = true := by
    rw [isComplete, ← hends.outOpen, ← hends.errOpen, ← hends.waited]
    exact hcomplete
  unfold conclude
  rw [hw]
  cases hbefore : s.isComplete with
  | false =>
    simp only [hall, Bool.not_false, Bool.and_self, if_true]
    exact isSettled_judge w u
  | true =>
    -- Everything had ended before, and so the outcome was there before.
    simp only [Bool.not_true, Bool.and_false, Bool.false_eq_true, if_false, quiet]
    rw [← hu]
    exact isSettled_receive _ _ (isSettled_receive _ _ (h hbefore))

theorem Judged.follow {s : Supervisor} (h : s.Judged) (t : List Instant) :
    (s.follow t).1.Judged := by
  induction t generalizing s with
  | nil => exact h
  | cons i r ih => exact ih (h.step i)

/-- With what is missing everything has ended. -/
theorem isComplete_remaining (s : Supervisor) : (s.follow s.remaining).1.isComplete := by
  have hout (u : Supervisor) := step_ends u [.closed .out]
  have herr (u : Supervisor) := step_ends u [.closed .err]
  have hend (u : Supervisor) := step_ends u [.ended (.status 0)]
  cases ho : s.outOpen <;> cases he : s.errOpen <;> cases hw : s.waited <;>
    simp [remaining, follow, isComplete, ho, he, hw, hout, herr, hend, arrival, endIn]

/-- **A process that was followed to its end is settled.** -/
theorem isSettled_complete (console : Bool) (indicator : Indicator) (history : List Instant) :
    ((started console indicator).complete history).1.outcome.isSome := by
  have hstart : (started console indicator).Judged := fun h => by cases h
  exact ((hstart.follow history).follow _) (isComplete_remaining _)

/-- The outcome of a process that was followed to its end. -/
def verdict (console : Bool) (indicator : Indicator) (history : List Instant) : Outcome :=
  ((started console indicator).complete history).1.outcome.get
    (isSettled_complete console indicator history)

theorem outcome_complete (console : Bool) (indicator : Indicator) (history : List Instant) :
    ((started console indicator).complete history).1.outcome =
      some (verdict console indicator history) :=
  (Option.some_get _).symm

end Supervisor

end SynthDesk.Engine
