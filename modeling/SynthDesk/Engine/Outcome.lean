/-
How an engine run ends.

A run succeeds, or it fails for a reason and perhaps with the status that the
process ended with. As the status of the program a success is zero; a failure
never is: it is the process's own status, 128 and the signal's number when a
signal ended the process, and one where there is no status to pass on.
-/
import SynthDesk.Text.Quoted

set_option autoImplicit false

namespace SynthDesk.Engine

/-- The end of a run: `ProcessOutcome`. -/
inductive Outcome
  | succeeded
  | failed (reason : Text) (exitCode : Option Int)
deriving DecidableEq, Repr

namespace Outcome

/-- The run ended well. -/
def isSuccess : Outcome → Bool
  | succeeded => true
  | failed _ _ => false

/-- The reason of a failure. -/
def reason? : Outcome → Option Text
  | succeeded => none
  | failed r _ => some r

/-- The process's status in a failure. -/
def exitCode? : Outcome → Option Int
  | succeeded => none
  | failed _ c => c

/-- **The program's status** for an outcome: `exit_code_for`. -/
def exitStatus : Outcome → Int
  | succeeded => 0
  | failed _ none => 1
  | failed _ (some n) => if n = 0 then 1 else if n < 0 then 128 - n else n

/-- A failure is never reported as zero. -/
theorem exitStatus_eq_zero_iff (o : Outcome) : o.exitStatus = 0 ↔ o.isSuccess = true := by
  cases o with
  | succeeded => simp [exitStatus, isSuccess]
  | failed r c =>
    cases c with
    | none => simp [exitStatus, isSuccess]
    | some n =>
      simp only [exitStatus, isSuccess]
      split
      · simp
      · split
        · simp; omega
        · simpa using ‹¬n = 0›

/-- An outcome in the notation of the log: the `repr` of a `ProcessOutcome`. -/
def inLog (o : Outcome) : Text :=
  let truth := if o.isSuccess then Text.ofString "True" else Text.ofString "False"
  let reason := match o.reason? with
    | some r => r.quoted
    | none => Text.ofString "None"
  let code := match o.exitCode? with
    | some n => Text.ofInt n
    | none => Text.ofString "None"
  Text.ofString "ProcessOutcome(success=" ++ truth ++ Text.ofString ", reason=" ++ reason ++
    Text.ofString ", exit_code=" ++ code ++ Text.ofString ")"

end Outcome

end SynthDesk.Engine
