/-
What draining makes of an outcome.

A session waits for the process once more when the run has returned. The wait of
the run takes a lost process for a failure and reports it; the second wait runs
into the same fault and passes it on. So the outcome of a run survives the
draining exactly where the process is not lost, and then the report of the run is
the only one. Where it is lost the session handles the fault as well, and says so
after the report.
-/
import SynthDesk.Proofs.Engine.Reporting
import SynthDesk.Proofs.Session.ExitStatus

set_option autoImplicit false

namespace SynthDesk

open Engine

/-- The fault that waiting for the process runs into. -/
def Engine.Attempt.lost? : Attempt → Option Fault
  | .refused _ => none
  | .starts history => match processEnd (completed history) with
    | some (.lost m) => some m.fault
    | _ => none

namespace Session

section Draining

variable {location : Location} {args : List Text} {attempt : Attempt} {o : Outcome}

/-- Waiting gives what the process has ended with. -/
theorem closed_starts (location : Location) (args : List Text) (history : List Instant) :
    (runReport location args (.starts history)).closed =
      Executor.closedBy (processEnd (completed history)) := by
  obtain ⟨r, hrule⟩ := exists_rulingOf (isComplete_completed history)
  exact (Executor.run_of_ruling (Executor.ready_starts location true) args hrule).2.2.1

/-- A process that is not lost leaves the outcome as it is. -/
theorem drained_of_not_lost (ho : (runReport location args attempt).result = .ok o)
    (hlost : attempt.lost? = none) : drained (runReport location args attempt) = .ok o := by
  have hclosed : ∃ n, (runReport location args attempt).closed = .ok n := by
    cases attempt with
    | refused f =>
      have hs := Executor.ready_starts location true
      cases hf : f.isRefusal with
      | true => exact ⟨none, (Executor.run_refused hs args hf).2⟩
      | false =>
        rw [Executor.run_passes_on hs args hf] at ho
        cases ho
    | starts history =>
      obtain ⟨w, hw⟩ := Option.isSome_iff_exists.mp (isComplete_completed history).2.2
      rw [closed_starts, hw]
      cases w with
      | status n => exact ⟨some n, rfl⟩
      | lost m =>
        rw [Attempt.lost?, hw] at hlost
        cases hlost
  obtain ⟨n, hn⟩ := hclosed
  simp only [drained, ho, hn]

/-- A lost process has the draining fail, whatever was returned. -/
theorem drained_of_lost {f : Fault} (ho : (runReport location args attempt).result = .ok o)
    (hlost : attempt.lost? = some f) : drained (runReport location args attempt) = .error f := by
  have hclosed : (runReport location args attempt).closed = .error f := by
    cases attempt with
    | refused f' => cases hlost
    | starts history =>
      rw [Attempt.lost?] at hlost
      split at hlost
      · next m hw =>
        cases hlost
        rw [closed_starts, hw]
        rfl
      · cases hlost
  simp only [drained, ho, hclosed]

/-- Nothing is said about an outcome but the report. -/
theorem statusLines_concluded (o : Outcome) : Effect.statusLines (concluded o).effects = [] := by
  cases o with
  | succeeded => rfl
  | failed reason code => rfl

theorem effects_engineRun (onFault : Fault → Verdict) (d : Desk) (keys : Interview.Keyboard) :
    (engineRun onFault location d keys args attempt).effects =
      (runReport location args attempt).effects ++
        (verdictOn onFault (runReport location args attempt)).effects := rfl

/-- **Draining keeps an outcome exactly where the process is not lost.** Take any
run that returns an outcome. If waiting for its process runs into no fault, the
session goes on with that outcome; otherwise it goes on with the fault. What stands
on the screen is the one report of the outcome, and after it only what is said
about such a fault. -/
theorem drained_iff_not_lost (location : Location) (args : List Text) (attempt : Attempt)
    (o : Outcome) (ho : (runReport location args attempt).result = .ok o) :
    (drained (runReport location args attempt) = .ok o ↔ attempt.lost? = none) ∧
      (∀ f, attempt.lost? = some f → drained (runReport location args attempt) = .error f) ∧
      ∃ r : Ruling, r.outcome = o ∧ ∀ onFault d keys,
        Effect.statusLines (engineRun onFault location d keys args attempt).effects =
          r.report ++ match attempt.lost? with
            | none => []
            | some f => Effect.statusLines (onFault f).effects := by
  refine ⟨⟨fun hkept => ?_, drained_of_not_lost ho⟩, fun f hf => drained_of_lost ho hf, ?_⟩
  · cases hlost : attempt.lost? with
    | none => rfl
    | some f =>
      rw [drained_of_lost ho hlost] at hkept
      cases hkept
  · obtain ⟨r, hr, hreport⟩ := exists_reportsOnce (Executor.ready_starts location true) ho
    rw [Executor.consoles_ready, r.reportOn_both] at hreport
    refine ⟨r, hr, fun onFault d keys => ?_⟩
    rw [effects_engineRun, Effect.statusLines_append, hreport.statusLines, verdictOn]
    cases hlost : attempt.lost? with
    | none =>
      rw [drained_of_not_lost ho hlost]
      exact congrArg _ (statusLines_concluded o)
    | some f => rw [drained_of_lost ho hlost]

/-- Diagnostics, and then a process that cannot be waited for. -/
def lostAfterDiagnosis : Attempt :=
  .starts [[.data .err (Utf8.encode "bad")],
    [.ended (.lost (.other "RuntimeError" "gone"))]]

/-- A killed process is drained, and its outcome stays. -/
theorem drained_iff_not_lost_killed :
    (runReport .standard [] killed).result =
        .ok (.failed "Java process exited with code -9" (some (-9))) ∧
      drained (runReport .standard [] killed) =
        .ok (.failed "Java process exited with code -9" (some (-9))) := by
  have hresult : (runReport .standard [] killed).result =
      .ok (.failed "Java process exited with code -9" (some (-9))) := by decide
  exact ⟨hresult, (drained_iff_not_lost .standard [] killed _ hresult).1.mpr rfl⟩

/-- **A returned outcome is lost in the draining**, and the user reads of one run
twice. -/
theorem drained_lostAfterDiagnosis :
    (runReport .standard [] lostAfterDiagnosis).result = .ok (.failed "bad" none) ∧
      drained (runReport .standard [] lostAfterDiagnosis) = .error (.other "RuntimeError" "gone") ∧
      Effect.statusLines
          (engineRun directFault .standard bareDesk [] [] lostAfterDiagnosis).effects =
        [⟨.error, "\nError from Java process:\nbad"⟩,
          ⟨.error, "An error occurred during command-line execution: gone"⟩] :=
  ⟨rfl, rfl, rfl⟩

end Draining

end Session

end SynthDesk
