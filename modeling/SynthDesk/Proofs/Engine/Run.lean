/-
Whole runs, and what can be seen of them.

The invariant of one instant is carried along a history, and from there to the
report of an executor: its moments are the supervisor after the first `k`
instants of the whole history, for every `k`. What appears at a moment is told
by two rulings, that of the history before the instant and that of the history
with it.
-/
import SynthDesk.Proofs.Engine.Supervision

set_option autoImplicit false

namespace SynthDesk.Engine

open Supervisor

/-! ## Along a history -/

theorem Supervisor.follow_append (s : Supervisor) (a b : List Instant) :
    s.follow (a ++ b) =
      (((s.follow a).1.follow b).1, (s.follow a).2 ++ ((s.follow a).1.follow b).2) := by
  induction a generalizing s with
  | nil => rfl
  | cons i r ih => simp only [List.cons_append, follow, ih]

/-- The supervisor that a run begun with this indicator has come to. -/
def Supervisor.reached (own : Bool) (start : Indicator) (h : List Instant) : Supervisor :=
  ((Supervisor.started own start).follow h).1

theorem Supervisor.reached_append (own : Bool) (start : Indicator) (h t : List Instant) :
    reached own start (h ++ t) = ((reached own start h).follow t).1 := by
  rw [reached, follow_append]
  rfl

theorem Supervisor.reached_concat (own : Bool) (start : Indicator) (h : List Instant)
    (i : Instant) : reached own start (h ++ [i]) = ((reached own start h).step i).1 := by
  rw [reached_append]
  rfl

/-- **A run keeps the invariant.** -/
theorem Reflects.follow {own : Bool} {start : Indicator} {h : List Instant} {s : Supervisor}
    (hr : Reflects own start h s) (t : List Instant) :
    Reflects own start (h ++ t) (s.follow t).1 := by
  -- Each instant moves from the front of what is to come to the end of what has been.
  induction t generalizing h s with
  | nil =>
    rw [List.append_nil]
    exact hr
  | cons i r ih =>
    have hstep := ih (hr.step i)
    rw [List.append_assoc, List.singleton_append] at hstep
    exact hstep

theorem reflects_reached (own : Bool) {start : Indicator} (ha : start.active = true)
    (h : List Instant) : Reflects own start h (reached own start h) :=
  (Reflects.started own ha).follow h

/-- A settled supervisor stays as it is: outcome, phase and indicator. -/
theorem follow_of_settled {s : Supervisor} (ho : s.outcome.isSome = true)
    (ha : s.indicator.active = false) (t : List Instant) :
    (s.follow t).1.outcome = s.outcome ∧ (s.follow t).1.phase = s.phase ∧
      (s.follow t).1.indicator = s.indicator := by
  induction t generalizing s with
  | nil => exact ⟨rfl, rfl, rfl⟩
  | cons i r ih =>
    obtain ⟨hstate, -⟩ := step_of_settled ho ha i
    have hop : (s.step i).1.outcome = s.outcome := by rw [hstate, passed_outcome]
    have hpp : (s.step i).1.phase = s.phase := by rw [hstate, passed_phase]
    have hip : (s.step i).1.indicator = s.indicator := by rw [hstate, passed_indicator]
    obtain ⟨h1, h2, h3⟩ := ih (s := (s.step i).1) (by rw [hop, ho]) (by rw [hip, ha])
    exact ⟨h1.trans hop, h2.trans hpp, h3.trans hip⟩

/-- **A settled run stays as it is**, whatever history is still to come. -/
theorem reached_append_of_settled {own : Bool} {start : Indicator} (ha : start.active = true)
    {h : List Instant} (ho : (reached own start h).outcome.isSome = true) (t : List Instant) :
    (reached own start (h ++ t)).outcome = (reached own start h).outcome ∧
      (reached own start (h ++ t)).phase = (reached own start h).phase ∧
      (reached own start (h ++ t)).indicator = (reached own start h).indicator := by
  rw [reached_append]
  exact follow_of_settled ho ((reflects_reached own ha h).inactive_of_settled ho) t

/-! ## What appears -/

/-- What appears when the ruling changes: the report of a ruling that was not
there before, and nothing otherwise. -/
def Ruling.news (c : Consoles) : Option Ruling → Option Ruling → List Shown
  | none, some r => (r.reportOn c).map .status
  | _, _ => []

/-- **What an instant shows** is what is new in the ruling. -/
theorem Reflects.shown_step {own : Bool} {start : Indicator} {h : List Instant} {s : Supervisor}
    (hr : Reflects own start h s) (i : Instant) :
    Effect.shown (s.step i).2 =
      Ruling.news ⟨own, start.console⟩ (rulingOf h) (rulingOf (h ++ [i])) := by
  rcases hr.step_cases i with ⟨ho, -, hshown⟩ | ⟨ho, hrule, -, hshown⟩ |
    ⟨ho, r, pieces, hrule, -, -, hshown⟩
  · obtain ⟨o, hso⟩ := Option.isSome_iff_exists.mp ho
    obtain ⟨r, hrule, -⟩ := Option.map_eq_some_iff.mp (hr.outcome.symm.trans hso)
    rw [hshown, hrule]
    rfl
  · rw [hshown, hrule, hr.rulingOf_eq_none ho]
    rfl
  · rw [hshown, hrule, hr.rulingOf_eq_none ho, Ruling.shown_lines]
    rfl

/-- News add up: a ruling stands, so it is news once. -/
theorem Ruling.news_append (c : Consoles) (h t u : List Instant) :
    news c (rulingOf h) (rulingOf (h ++ t)) ++
        news c (rulingOf (h ++ t)) (rulingOf (h ++ t ++ u)) =
      news c (rulingOf h) (rulingOf (h ++ t ++ u)) := by
  cases hh : rulingOf h with
  | some r => rw [rulingOf_append hh, rulingOf_append (rulingOf_append hh t)]; rfl
  | none =>
    cases ht : rulingOf (h ++ t) with
    | some r =>
      rw [rulingOf_append ht]
      exact List.append_nil _
    | none => rfl

/-- What a stretch of history shows is what is new in the ruling. -/
theorem Reflects.shown_follow {own : Bool} {start : Indicator} {h : List Instant} {s : Supervisor}
    (hr : Reflects own start h s) (t : List Instant) :
    Effect.shown ((s.follow t).2.flatMap Moment.effects) =
      Ruling.news ⟨own, start.console⟩ (rulingOf h) (rulingOf (h ++ t)) := by
  induction t generalizing h s with
  | nil =>
    rw [List.append_nil]
    cases rulingOf h <;> rfl
  | cons i r ih =>
    have hrest := ih (hr.step i)
    have happ : h ++ i :: r = h ++ [i] ++ r := by
      rw [List.append_assoc, List.singleton_append]
    rw [happ, ← Ruling.news_append, ← hrest, ← hr.shown_step i, ← Effect.shown_append]
    rfl

/-! ## The moments -/

/-- The moment of an instant: the supervisor after it, and what it has done. -/
theorem Supervisor.follow_getElem? (s : Supervisor) (t : List Instant) (k : Nat) :
    (s.follow t).2[k]? = t[k]?.map fun i =>
      ((s.follow (t.take k)).1.step i).1.moment ((s.follow (t.take k)).1.step i).2 := by
  induction t generalizing s k with
  | nil => rfl
  | cons i r ih =>
    cases k with
    | zero => rfl
    | succ k => exact ih (s.step i).1 k

theorem Supervisor.follow_length (s : Supervisor) (t : List Instant) :
    (s.follow t).2.length = t.length := by
  induction t generalizing s with
  | nil => rfl
  | cons i r ih => exact congrArg (· + 1) (ih _)

/-- What is missing in the end is what the history lacks. -/
theorem Reflects.complete_eq {own : Bool} {start : Indicator} (ha : start.active = true)
    (history : List Instant) :
    (Supervisor.started own start).complete history =
      (Supervisor.started own start).follow (completed history) := by
  have hb : Books history (reached own start history) := (reflects_reached own ha history).books
  -- The supervisor knows what is missing from its books, which are those of the history.
  have hmissing : (reached own start history).remaining = missing history := by
    rw [remaining, missing, hb.outOpen, hb.errOpen, hb.waited]
    cases hasEnded .out history <;> cases hasEnded .err history <;>
      cases processEnd history <;> rfl
  rw [complete, completed, follow_append]
  exact congrArg (fun m => (((reached own start history).follow m).1,
    ((Supervisor.started own start).follow history).2 ++
      ((reached own start history).follow m).2)) hmissing

namespace Executor

variable {x : Executor} {args : List Text} {history : List Instant}

/-- The indicator that a run begins with. -/
abbrev begun (x : Executor) : Indicator := x.indicator.start.1

theorem begun_active (x : Executor) : x.begun.active = true := Indicator.start_active _

theorem begun_console (x : Executor) : x.begun.console = x.indicator.console :=
  Indicator.start_console _

theorem begun_consoles (x : Executor) : Consoles.mk x.console x.begun.console = x.consoles :=
  congrArg (Consoles.mk x.console) x.begun_console

/-- The engine stays where it is. -/
theorem location_run (x : Executor) (args : List Text) (attempt : Attempt) :
    (x.run args attempt).1.location = x.location := by
  unfold run
  split
  · rfl
  · split
    · split <;> rfl
    · rfl

/-- The executor keeps its console. -/
theorem console_run (x : Executor) (args : List Text) (attempt : Attempt) :
    (x.run args attempt).1.console = x.console := by
  unfold run
  split
  · rfl
  · split
    · split <;> rfl
    · rfl

/-- The first run of an executor has an indicator that can start. -/
theorem ready_starts (location : Location) (console : Bool) :
    (ready location console).indicator.start.2 = none := by
  have hidle : ∀ c, (Indicator.idle c Indicator.initialText).start.2 = none := by decide
  exact hidle console

/-- The command of a run is tried, whatever comes of it. -/
theorem run_command (hs : x.indicator.start.2 = none) (args : List Text) (attempt : Attempt) :
    (x.run args attempt).2.command = some (x.location.command args) := by
  cases attempt with
  | starts history => rw [run, hs]
  | refused f =>
    rw [run, hs]
    cases f.isRefusal with
    | true => rfl
    | false => rfl

/-- A start that the system refuses is a failure without a status, and there is
no process to wait for. -/
theorem run_refused (hs : x.indicator.start.2 = none) (args : List Text) {f : Fault}
    (hf : f.isRefusal = true) :
    (x.run args (.refused f)).2.result = .ok (.failed f.message none) ∧
      (x.run args (.refused f)).2.closed = .ok none := by
  rw [run, hs]
  simp only [hf, if_true]
  exact ⟨rfl, rfl⟩

/-- Any other fault at the start is passed on. -/
theorem run_passes_on (hs : x.indicator.start.2 = none) (args : List Text) {f : Fault}
    (hf : f.isRefusal = false) : (x.run args (.refused f)).2.result = .error f := by
  rw [run, hs]
  simp only [hf, Bool.false_eq_true, if_false]
  rfl

/-- **The report of a run whose process starts**, in terms of what it has come to. -/
theorem run_starts (hs : x.indicator.start.2 = none) (args : List Text) (history : List Instant) :
    (x.run args (.starts history)).2 =
      { command := some (x.location.command args)
        result := .ok (verdict x.console x.begun history)
        closed := closedBy (reached x.console x.begun (completed history)).waited
        phase := (reached x.console x.begun (completed history)).phase
        moments :=
          (Supervisor.started x.console x.begun).moment [startNote (x.location.command args)] ::
            ((Supervisor.started x.console x.begun).follow (completed history)).2 } := by
  rw [run, hs]
  simp only [Reflects.complete_eq x.begun_active, reached]

/-- A run has a moment at its start, and one for every instant of its whole history. -/
theorem moments_length (hs : x.indicator.start.2 = none) :
    (x.run args (.starts history)).2.moments.length = (completed history).length + 1 := by
  rw [run_starts hs, List.length_cons, follow_length]

/-- **The moment after `k` instants**: the supervisor that the run has come to,
and on the screen what is new in the ruling. -/
theorem moment_at (hs : x.indicator.start.2 = none) (args : List Text) {k : Nat}
    (hk : k ≤ (completed history).length) :
    ∃ effects, (x.run args (.starts history)).2.moments[k]? =
        some ((reached x.console x.begun ((completed history).take k)).moment effects) ∧
      Effect.shown effects = Ruling.news x.consoles
        (rulingOf ((completed history).take (k - 1))) (rulingOf ((completed history).take k)) := by
  rw [run_starts hs]
  cases k with
  | zero =>
    -- Before the first instant the start is noted, and nothing has appeared.
    exact ⟨_, rfl, rfl⟩
  | succ k =>
    have hk' : k < (completed history).length := hk
    have hprev : Reflects x.console x.begun ((completed history).take k)
        (reached x.console x.begun ((completed history).take k)) :=
      reflects_reached x.console x.begun_active _
    have htake : (completed history).take (k + 1) =
        (completed history).take k ++ [(completed history)[k]] := by
      rw [List.take_add_one, List.getElem?_eq_getElem hk']
      rfl
    refine ⟨((reached x.console x.begun ((completed history).take k)).step
      (completed history)[k]).2, ?_, ?_⟩
    · rw [List.getElem?_cons_succ, follow_getElem?, List.getElem?_eq_getElem hk', htake,
        reached_concat]
      rfl
    · rw [htake, ← x.begun_consoles]
      exact hprev.shown_step _

/-- A moment of a run is the moment after some instants. -/
theorem le_length_of_moment (hs : x.indicator.start.2 = none) {k : Nat} {m : Moment}
    (hm : (x.run args (.starts history)).2.moments[k]? = some m) :
    k ≤ (completed history).length := by
  obtain ⟨hk, -⟩ := List.getElem?_eq_some_iff.mp hm
  rw [moments_length hs] at hk
  omega

/-- What appears in a whole run is what is new in the ruling of its whole history. -/
theorem shown_effects (hs : x.indicator.start.2 = none) :
    Effect.shown (x.run args (.starts history)).2.effects =
      Ruling.news x.consoles none (rulingOf (completed history)) := by
  have hfollow := (Reflects.started x.console x.begun_active).shown_follow (completed history)
  rw [run_starts hs, ← x.begun_consoles]
  exact hfollow

/-- **What a whole run comes to** is told by the ruling of its whole history, and
by the end of its process. -/
theorem run_of_ruling (hs : x.indicator.start.2 = none) (args : List Text) {r : Ruling}
    (hrule : rulingOf (completed history) = some r) :
    (x.run args (.starts history)).2.result = .ok r.outcome ∧
      (x.run args (.starts history)).2.phase = r.outcome.phase ∧
      (x.run args (.starts history)).2.closed = closedBy (processEnd (completed history)) ∧
      Effect.shown (x.run args (.starts history)).2.effects =
        Ruling.news x.consoles none (some r) := by
  have hr := reflects_reached x.console x.begun_active (completed history)
  have hout : (reached x.console x.begun (completed history)).outcome = some r.outcome := by
    rw [hr.outcome, hrule]
    rfl
  refine ⟨?_, ?_, ?_, ?_⟩
  · have hverdict := outcome_complete x.console x.begun history
    rw [Reflects.complete_eq x.begun_active] at hverdict
    rw [run_starts hs, Option.some.inj (hverdict.symm.trans hout)]
  · rw [run_starts hs]
    simp only [hr.phase, hout, Option.map_some, Option.getD_some]
  · rw [run_starts hs]
    simp only [hr.books.waited]
  · rw [shown_effects hs, hrule]

end Executor

end SynthDesk.Engine
