/-
The law of outcomes, and the invariant of a run.

Both speak of every run whose process starts, after every part of every
history. The first says which outcome there is and when it appears; the second
says that outcome, phase and indicator always fit together, that a settled run
stays as it is, and which text an open run shows.
-/
import SynthDesk.Proofs.Engine.Run

set_option autoImplicit false

namespace SynthDesk.Engine

open Supervisor Executor

/-! ## The outcome after a part of the history -/

section Outcome

variable {own : Bool} {start : Indicator} {h : List Instant} {s : Supervisor}

/-- With diagnostics the outcome is a failure, and their first piece the reason. -/
theorem Reflects.outcome_of_diagnostics (hr : Reflects own start h s) {piece : List Octet}
    {later : List (List Octet)} (hp : piecesRead .err h = piece :: later) :
    s.outcome = some (.failed (Utf8.decodeLossy piece) none) := by
  rw [hr.outcome, rulingOf_of_cons hp]
  rfl

/-- Without diagnostics there is an outcome exactly when everything has ended. -/
theorem Reflects.outcome_isSome_iff (hr : Reflects own start h s) (hp : piecesRead .err h = []) :
    s.outcome.isSome = true ↔ IsComplete h := by
  rw [hr.outcome, Option.isSome_map]
  exact rulingOf_isSome_iff hp

/-- Without diagnostics the outcome is the one of the process's end. -/
theorem Reflects.outcome_of_silence (hr : Reflects own start h s) (hp : piecesRead .err h = [])
    (ho : s.outcome.isSome = true) {w : Waited} (hw : processEnd h = some w) :
    s.outcome = some (Ruling.ended w).outcome := by
  have hc : IsComplete h := (hr.outcome_isSome_iff hp).mp ho
  rw [hr.outcome, rulingOf_of_isComplete hp hc hw]
  rfl

end Outcome

/-- **The law of outcomes.** After `k` instants of whatever history:

* if diagnostics have been read, the run has returned a failure without a
  status, whose reason is their first piece;
* if none have, it has returned exactly when both streams have ended and the
  process is accounted for, and its end says what was returned;
* and what was returned at any moment is the result of the run. -/
theorem outcome_law (x : Executor) (args : List Text) (history : List Instant)
    (hs : x.indicator.start.2 = none) (k : Nat) (hk : k ≤ history.length) :
    ∃ m, (x.run args (.starts history)).2.moments[k]? = some m ∧
      (∀ piece later, piecesRead .err (history.take k) = piece :: later →
        m.outcome = some (.failed (Utf8.decodeLossy piece) none)) ∧
      (piecesRead .err (history.take k) = [] →
        (m.outcome.isSome = true ↔
          hasEnded .out (history.take k) = true ∧ hasEnded .err (history.take k) = true ∧
            ∃ w, processEnd (history.take k) = some w) ∧
        (m.outcome.isSome = true →
          processEnd (history.take k) = some (.status 0) → m.outcome = some .succeeded) ∧
        (m.outcome.isSome = true →
          ∀ n, n ≠ 0 → processEnd (history.take k) = some (.status n) →
            m.outcome = some (.failed (Text.ofString "Java process exited with code " ++
              Text.ofInt n) (some n))) ∧
        (m.outcome.isSome = true →
          ∀ f, processEnd (history.take k) = some (.lost f) →
            m.outcome = some (.failed f.message none))) ∧
      (∀ o, m.outcome = some o → (x.run args (.starts history)).2.result = .ok o) := by
  have hlen : k ≤ (completed history).length := by
    rw [completed, List.length_append]
    omega
  have htake : (completed history).take k = history.take k := by
    rw [completed, List.take_append_of_le_length hk]
  obtain ⟨effects, hm, -⟩ := moment_at hs args hlen
  rw [htake] at hm
  have hr : Reflects x.console x.begun (history.take k)
      (reached x.console x.begun (history.take k)) :=
    reflects_reached x.console x.begun_active _
  -- Whatever completes the history comes after instant `k`, so this moment is
  -- that of the given history.
  refine ⟨_, hm, ?_, ?_, ?_⟩
  · intro piece later hp
    exact hr.outcome_of_diagnostics hp
  · intro hp
    refine ⟨?_, ?_, ?_, ?_⟩
    · rw [← Option.isSome_iff_exists]
      exact hr.outcome_isSome_iff hp
    · intro ho hw
      exact hr.outcome_of_silence hp ho hw
    · intro ho n hn hw
      have hout := hr.outcome_of_silence hp ho hw
      rw [Ruling.outcome, if_neg hn] at hout
      exact hout
    · intro ho f hw
      exact hr.outcome_of_silence hp ho hw
  · intro o ho
    -- The ruling so far stands to the end, and the result is its outcome.
    have hreached : (reached x.console x.begun (history.take k)).outcome = some o := ho
    rw [hr.outcome] at hreached
    obtain ⟨r, hrule, rfl⟩ := Option.map_eq_some_iff.mp hreached
    have hsplit : completed history = history.take k ++ (completed history).drop k := by
      rw [← htake, List.take_append_drop]
    have hend : rulingOf (completed history) = some r := by
      rw [hsplit]
      exact rulingOf_append hrule _
    exact (run_of_ruling hs args hend).1

/-- The process ends well before its diagnostics arrive; the reason is still what
they say, an octet that is no text included. -/
def lateDiagnostics : List Instant :=
  [[.ended (.status 0)],
    [.data .out (Utf8.encode "ready"), .data .err (Utf8.encode "B" ++ [Utf8.octet 0xFF]),
      .closed .err],
    [.closed .out]]

theorem outcome_law_lateDiagnostics :
    (Executor.ready .standard true).indicator.start.2 = none ∧ 3 ≤ lateDiagnostics.length ∧
      ∃ m,
        ((Executor.ready .standard true).run [] (.starts lateDiagnostics)).2.moments[3]? = some m ∧
        m.outcome = some (.failed [CodePoint.ofChar 'B', CodePoint.replacement] none) := by
  refine ⟨by decide, by decide, ?_⟩
  obtain ⟨m, hm, hdiagnosed, -, -⟩ :=
    outcome_law (Executor.ready .standard true) [] lateDiagnostics (by decide) 3 (by decide)
  exact ⟨m, hm, hdiagnosed (Utf8.encode "B" ++ [Utf8.octet 0xFF]) [] (by decide)⟩

/-! ## The invariant of a run -/

/-- A moment of a run comes from a supervisor that reflects the history so far. -/
theorem reflects_of_moment {x : Executor} {args : List Text} {history : List Instant} {k : Nat}
    {m : Moment} (hs : x.indicator.start.2 = none)
    (hm : (x.run args (.starts history)).2.moments[k]? = some m) :
    Reflects x.console x.begun ((completed history).take k)
        (reached x.console x.begun ((completed history).take k)) ∧
      ∃ effects, m = (reached x.console x.begun ((completed history).take k)).moment effects := by
  obtain ⟨effects, hm', -⟩ := moment_at hs args (le_length_of_moment hs hm)
  rw [hm'] at hm
  exact ⟨reflects_reached x.console x.begun_active _, effects, (Option.some.inj hm).symm⟩

/-- **The invariant of a run.** At every moment the run is open, running and
active, and its text is that of the last progress; or it is settled, at rest,
and in the phase of its outcome. And once it is settled, no later moment
changes anything of this. -/
theorem run_invariant (x : Executor) (args : List Text) (history : List Instant)
    (hs : x.indicator.start.2 = none) (k : Nat) (m : Moment)
    (hm : (x.run args (.starts history)).2.moments[k]? = some m) :
    ((m.outcome = none ∧ m.phase = .running ∧ m.active = true ∧
        m.text = ((piecesRead .out ((completed history).take k)).getLast?.map fun piece =>
          (Utf8.decodeLossy piece).strip).getD x.indicator.text) ∨
      (∃ o, m.outcome = some o ∧ m.active = false ∧
        m.phase = if o.isSuccess then .succeeded else .failed)) ∧
    (m.outcome.isSome = true → ∀ j m', k ≤ j →
      (x.run args (.starts history)).2.moments[j]? = some m' →
        m'.outcome = m.outcome ∧ m'.phase = m.phase ∧ m'.text = m.text ∧ m'.active = false) := by
  obtain ⟨hr, effects, rfl⟩ := reflects_of_moment hs hm
  constructor
  · cases ho : (reached x.console x.begun ((completed history).take k)).outcome with
    | none =>
      refine Or.inl ⟨ho, ?_, hr.active_of_open ho, ?_⟩
      · have hphase := hr.phase
        rw [ho] at hphase
        exact hphase
      · have htext := hr.text ho
        rw [Indicator.start_text] at htext
        exact htext
    | some o =>
      have hsome := Option.isSome_of_eq_some ho
      refine Or.inr ⟨o, ho, hr.inactive_of_settled hsome, ?_⟩
      have hphase := hr.phase
      rw [ho] at hphase
      cases o with
      | succeeded => exact hphase
      | failed reason code => exact hphase
  · intro ho j m' hkj hm'
    -- The later moment is reached from this one by the instants between them.
    obtain ⟨hr', effects', rfl⟩ := reflects_of_moment hs hm'
    obtain ⟨ho', hp', hi'⟩ := reached_append_of_settled x.begun_active ho
      (((completed history).take j).drop k)
    rw [take_append_drop_take _ hkj] at ho' hp' hi'
    refine ⟨ho', hp', congrArg Indicator.text hi', ?_⟩
    exact (congrArg Indicator.active hi').trans (hr.inactive_of_settled ho)

/-- Diagnostics first; then progress, and a process that is lost. -/
def diagnosticsFirst : List Instant :=
  [[.data .err (Utf8.encode "no schema")], [.data .out (Utf8.encode "ok"), .closed .out],
    [.ended (.lost (.other "ChildError" "gone"))]]

theorem run_invariant_diagnosticsFirst :
    (Executor.ready .standard true).indicator.start.2 = none ∧
      ∃ m,
        ((Executor.ready .standard true).run [] (.starts diagnosticsFirst)).2.moments[1]? = some m ∧
        m.outcome = some (.failed "no schema" none) ∧ m.phase = .failed ∧
        ∀ j m', 1 ≤ j →
          ((Executor.ready .standard true).run [] (.starts diagnosticsFirst)).2.moments[j]? =
              some m' →
            m'.outcome = some (.failed "no schema" none) ∧ m'.phase = .failed ∧
              m'.text = Indicator.initialText ∧ m'.active = false := by
  refine ⟨by decide, _, rfl, by decide, by decide, ?_⟩
  intro j m' hj hm'
  exact (run_invariant (Executor.ready .standard true) [] diagnosticsFirst (by decide) 1 _ rfl).2
    rfl j m' hj hm'

end SynthDesk.Engine
