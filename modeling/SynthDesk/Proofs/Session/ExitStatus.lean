/-
The status of the program, told by the engine run.

A session that reaches the engine makes one run and drains it. Which status it
ends with is a matter of the attempt alone: of what was read as diagnostics and
of how the process ended. Zero is the status of a run that went well and of no
other, whatever faults there are.

Where the process is lost the draining fails with the same fault, so that it is
the session's handling of faults that decides, and not the outcome of the run.
An interview takes the end of the input for the user's wish to stop, wherever it
comes from. A process that is lost to it is therefore not reported as a failure
there, while a command does report it.
-/
import SynthDesk.Proofs.Engine.Run
import SynthDesk.Session

set_option autoImplicit false

namespace SynthDesk.Session

open Engine

/-! ## What an attempt comes to -/

/-- The process starts, no diagnostics are read, and it ends with zero. -/
def RunsWell (attempt : Attempt) : Prop :=
  ∃ history, attempt = .starts history ∧ piecesRead .err (completed history) = [] ∧
    processEnd (completed history) = some (.status 0)

/-- The status that tells how an attempt ends: without diagnostics that of the
process, 128 and the number if a signal ended it; in all else one. -/
def statusFor : Attempt → Int
  | .refused _ => 1
  | .starts history =>
    match piecesRead .err (completed history), processEnd (completed history) with
    | [], some (.status n) => if n < 0 then 128 - n else n
    | _, _ => 1

/-- What can go wrong is that the system refuses the start, and that the process
is lost to a fault of some kind. -/
structure Orderly (kind : Fault → Bool) (attempt : Attempt) : Prop where
  refused : ∀ f, attempt = .refused f → f.isRefusal = true
  lost : ∀ history m, attempt = .starts history →
    processEnd (completed history) = some (.lost m) → kind m.fault = true

theorem runsWell_starts_iff {history : List Instant} :
    RunsWell (.starts history) ↔
      piecesRead .err (completed history) = [] ∧
        processEnd (completed history) = some (.status 0) := by
  constructor
  · rintro ⟨history', hstarts, hwell⟩
    cases hstarts
    exact hwell
  · intro hwell
    exact ⟨history, rfl, hwell⟩

theorem not_runsWell_refused {f : Fault} : ¬ RunsWell (.refused f) := by
  rintro ⟨history, hstarts, -⟩
  cases hstarts

theorem statusFor_of_diagnostics {history : List Instant} {piece : List Octet}
    {later : List (List Octet)} (hp : piecesRead .err (completed history) = piece :: later) :
    statusFor (.starts history) = 1 := by
  simp only [statusFor, hp]

theorem statusFor_of_status {history : List Instant} {n : Int}
    (hp : piecesRead .err (completed history) = [])
    (hw : processEnd (completed history) = some (.status n)) :
    statusFor (.starts history) = if n < 0 then 128 - n else n := by
  simp only [statusFor, hp, hw]

theorem statusFor_of_lost {history : List Instant} {m : Mishap}
    (hw : processEnd (completed history) = some (.lost m)) : statusFor (.starts history) = 1 := by
  cases hp : piecesRead .err (completed history) with
  | nil => simp only [statusFor, hp, hw]
  | cons piece later => exact statusFor_of_diagnostics hp

/-! ## The verdict on a run -/

section Verdict

variable {onFault : Fault → Verdict} {location : Location} {args : List Text}
  {history : List Instant} {attempt : Attempt}

/-- The report of the engine run in a session. -/
abbrev runReport (location : Location) (args : List Text) (attempt : Attempt) : Report :=
  ((Executor.ready location true).run args attempt).2

theorem concluded_status (o : Outcome) : (concluded o).status = o.exitStatus := by
  cases o with
  | succeeded => rfl
  | failed reason code => rfl

/-- The process ends with a status: the verdict is on the outcome. -/
theorem verdictOn_of_status {r : Ruling} (hrule : rulingOf (completed history) = some r) {n : Int}
    (hw : processEnd (completed history) = some (.status n)) :
    verdictOn onFault (runReport location args (.starts history)) = concluded r.outcome := by
  obtain ⟨hresult, -, hclosed, -⟩ :=
    Executor.run_of_ruling (Executor.ready_starts location true) args hrule
  rw [hw] at hclosed
  simp only [verdictOn, drained, hresult, hclosed, Executor.closedBy]

/-- The process is lost: the draining runs into the fault, and the outcome is
not looked at. -/
theorem verdictOn_of_lost {m : Mishap} (hw : processEnd (completed history) = some (.lost m)) :
    verdictOn onFault (runReport location args (.starts history)) = onFault m.fault := by
  obtain ⟨r, hrule⟩ := exists_rulingOf (isComplete_completed history)
  obtain ⟨hresult, -, hclosed, -⟩ :=
    Executor.run_of_ruling (Executor.ready_starts location true) args hrule
  rw [hw] at hclosed
  simp only [verdictOn, drained, hresult, hclosed, Executor.closedBy]

/-- The start is refused: the verdict is on a failure without a status. -/
theorem verdictOn_of_refusal {f : Fault} (hf : f.isRefusal = true) :
    verdictOn onFault (runReport location args (.refused f)) =
      concluded (.failed f.message none) := by
  obtain ⟨hresult, hclosed⟩ := Executor.run_refused (Executor.ready_starts location true) args hf
  simp only [verdictOn, drained, hresult, hclosed]

/-- Any other fault at the start is passed on. -/
theorem verdictOn_of_fault {f : Fault} (hf : f.isRefusal = false) :
    verdictOn onFault (runReport location args (.refused f)) = onFault f := by
  have hresult := Executor.run_passes_on (Executor.ready_starts location true) args hf
  simp only [verdictOn, drained, hresult]

/-- Without diagnostics the status of the process is that of the program, a
signal's number added to 128. -/
theorem exitStatus_ended (n : Int) :
    (Ruling.ended (.status n)).outcome.exitStatus = if n < 0 then 128 - n else n := by
  by_cases hn : n = 0
  · rw [Ruling.outcome, if_pos hn, hn]
    rfl
  · rw [Ruling.outcome, if_neg hn, Outcome.exitStatus, if_neg hn]

/-- **The status of a run**, where its faults are such that one is their status. -/
theorem verdictOn_status {kind : Fault → Bool} (ho : Orderly kind attempt)
    (hfault : ∀ m : Mishap, kind m.fault = true → (onFault m.fault).status = 1) :
    (verdictOn onFault (runReport location args attempt)).status = statusFor attempt := by
  cases attempt with
  | refused f =>
    rw [verdictOn_of_refusal (ho.refused f rfl), concluded_status]
    rfl
  | starts history =>
    -- A lost process is noticed even after diagnostics, so its end is looked at first.
    have hc := isComplete_completed history
    obtain ⟨w, hw⟩ := Option.isSome_iff_exists.mp hc.2.2
    cases w with
    | lost m => rw [verdictOn_of_lost hw, hfault m (ho.lost history m rfl hw), statusFor_of_lost hw]
    | status n =>
      cases hp : piecesRead .err (completed history) with
      | cons piece later =>
        rw [verdictOn_of_status (rulingOf_of_cons hp) hw, concluded_status,
          statusFor_of_diagnostics hp]
        rfl
      | nil =>
        rw [verdictOn_of_status (rulingOf_of_isComplete hp hc hw) hw, concluded_status,
          exitStatus_ended, statusFor_of_status hp hw]

/-- **Zero is for runs that go well**, where no fault has the status zero. -/
theorem verdictOn_status_eq_zero_iff (hfault : ∀ f, (onFault f).status ≠ 0) :
    (verdictOn onFault (runReport location args attempt)).status = 0 ↔ RunsWell attempt := by
  cases attempt with
  | refused f =>
    refine iff_of_false ?_ not_runsWell_refused
    cases hf : f.isRefusal with
    | true =>
      rw [verdictOn_of_refusal hf, concluded_status]
      exact Int.one_ne_zero
    | false =>
      rw [verdictOn_of_fault hf]
      exact hfault f
  | starts history =>
    have hc := isComplete_completed history
    obtain ⟨w, hw⟩ := Option.isSome_iff_exists.mp hc.2.2
    rw [runsWell_starts_iff, hw]
    cases w with
    | lost m =>
      rw [verdictOn_of_lost hw]
      exact iff_of_false (hfault m.fault)
        (fun hwell => Waited.noConfusion (Option.some.inj hwell.2))
    | status n =>
      cases hp : piecesRead .err (completed history) with
      | cons piece later =>
        rw [verdictOn_of_status (rulingOf_of_cons hp) hw, concluded_status]
        exact iff_of_false Int.one_ne_zero (fun hwell => List.cons_ne_nil _ _ hwell.1)
      | nil =>
        rw [verdictOn_of_status (rulingOf_of_isComplete hp hc hw) hw, concluded_status,
          Outcome.exitStatus_eq_zero_iff]
        by_cases hn : n = 0
        · simp [Ruling.outcome, Outcome.isSuccess, hn]
        · simp [Ruling.outcome, Outcome.isSuccess, hn]

end Verdict

/-! ## Faults -/

theorem directFault_status {f : Fault} (hf : f.isReportable = true) :
    (directFault f).status = 1 := by
  rw [directFault, if_pos hf]

theorem directFault_status_ne_zero (f : Fault) : (directFault f).status ≠ 0 := by
  cases hf : f.isReportable with
  | true =>
    rw [directFault_status hf]
    decide
  | false =>
    rw [directFault, hf]
    show cancelledStatus ≠ 0
    decide

theorem interactiveFault_status {f : Fault} (hf : f.isCancellation = false) :
    (interactiveFault f).status = 1 := by
  rw [interactiveFault, hf]
  rfl

theorem interactiveFault_of_cancellation {f : Fault} (hf : f.isCancellation = true) :
    (interactiveFault f).status = cancelledStatus := by
  rw [interactiveFault, if_pos hf]

theorem interactiveFault_status_ne_zero (f : Fault) : (interactiveFault f).status ≠ 0 := by
  cases hf : f.isCancellation with
  | true =>
    rw [interactiveFault_of_cancellation hf]
    decide
  | false =>
    rw [interactiveFault_status hf]
    decide

/-! ## Sessions -/

section Sessions

variable {location : Location} {d : Desk} {keys : Interview.Keyboard} {attempt : Attempt}

/-- **The summary of a command is shown**: it is no fault as markup, and the screen takes it. -/
structure SummaryShown (screen : Console.Screen) (o : Options) (panel : Text) : Prop where
  rendered : (summaryPanel o).render screen = .ok panel
  taken : screen.refused? panel = none

/-- A summary that turns out well is shown on a screen that refuses nothing. -/
theorem exists_summaryShown (screen : Console.Screen) {o : Options}
    (h : ((summaryPanel o).render screen).toOption.isSome = true)
    (hstrict : screen.strict = false) : ∃ panel, SummaryShown screen o panel := by
  cases hrender : (summaryPanel o).render screen with
  | error e =>
    rw [hrender] at h
    cases h
  | ok panel => exact ⟨panel, hrender, Console.Screen.refused?_of_not_strict hstrict panel⟩

/-- A command whose summary is shown ends with the verdict on its run. -/
theorem direct_exit {screen : Console.Screen} {o : Options} {panel : Text}
    (hpanel : SummaryShown screen o panel) :
    (direct screen location d keys o attempt).exit =
      .ok (verdictOn directFault (runReport location o.directArguments attempt)).status := by
  simp only [direct, hpanel.rendered, hpanel.taken]
  rfl

/-- An interview that is answered ends with the verdict on its run. -/
theorem interactive_exit {store : Settings.Store} {levels : Nat} {loaded : Settings.Store.Loaded}
    (hload : store.load levels d.tree = .ok loaded) {o : Options} {wanted : Bool}
    (hanswered : (Interview.interview loaded.settings keys).result = .ok (o, wanted)) :
    (interactive store levels location d keys attempt).exit =
      .ok (verdictOn interactiveFault
        (runReport location o.interactiveArguments attempt)).status := by
  rw [interactive, hload]
  simp only [interviewed, hanswered]
  rfl

/-- **The status of the program tells how the engine run ended.** Take any attempt
to start the engine, by a command whose summary is shown, or after an interview
that was answered. Whatever the attempt comes to, the status is zero exactly if
it runs well. And it is the one for the attempt if the system may refuse the start,
and, after an interview, the wait for the process never meets the end of the input. -/
theorem exit_status (location : Location) (d : Desk) (keys : Interview.Keyboard)
    (attempt : Attempt) :
    (∀ screen o panel, SummaryShown screen o panel →
      ∃ status, (direct screen location d keys o attempt).exit = .ok status ∧
        (status = 0 ↔ RunsWell attempt) ∧
        (Orderly (fun _ => true) attempt → status = statusFor attempt)) ∧
    (∀ (store : Settings.Store) levels loaded o wanted, store.load levels d.tree = .ok loaded →
      (Interview.interview loaded.settings keys).result = .ok (o, wanted) →
      ∃ status, (interactive store levels location d keys attempt).exit = .ok status ∧
        (status = 0 ↔ RunsWell attempt) ∧
        (Orderly (fun f => !f.isCancellation) attempt → status = statusFor attempt)) := by
  constructor
  · intro screen o panel hpanel
    refine ⟨_, direct_exit hpanel, verdictOn_status_eq_zero_iff directFault_status_ne_zero, ?_⟩
    intro ho
    exact verdictOn_status ho fun m _ => directFault_status m.reportable
  · intro store levels loaded o wanted hload hanswered
    refine ⟨_, interactive_exit hload hanswered,
      verdictOn_status_eq_zero_iff interactiveFault_status_ne_zero, ?_⟩
    intro ho
    exact verdictOn_status ho fun m hm => interactiveFault_status (by simpa using hm)

/-- Progress, and then a process that a signal ends. -/
def killed : Attempt :=
  .starts [[.data .out (Utf8.encode "employees")], [.ended (.status (-9))]]

/-- A desk without any file, and without a log. -/
def bareDesk : Desk := ⟨⟨["desk"], [(["desk"], .directory)], []⟩, .bare⟩

/-- A screen of eighty columns that knows no pictures and refuses nothing. -/
def plainScreen : Console.Screen := .common [] false

/-- Five empty lines: the remembered answers, and no wish to remember them. -/
def acceptingAll : Interview.Keyboard := List.replicate 5 (.line [])

/-- The first settings are found on such a desk. -/
theorem load_bareDesk : ∃ loaded,
    (⟨.ofText Settings.fileName⟩ : Settings.Store).load 2 bareDesk.tree = .ok loaded ∧
      loaded.settings = Settings.initial := by
  have hfound : ((⟨.ofText Settings.fileName⟩ : Settings.Store).load 2 bareDesk.tree).toOption.map
      (·.settings) = some Settings.initial := by
    decide +kernel
  cases hload : (⟨.ofText Settings.fileName⟩ : Settings.Store).load 2 bareDesk.tree with
  | error n =>
    rw [hload] at hfound
    cases hfound
  | ok loaded =>
    rw [hload] at hfound
    exact ⟨loaded, rfl, Option.some.inj hfound⟩

theorem acceptingAll_answers :
    (Interview.interview Settings.initial acceptingAll).result =
      .ok (Interview.Answers.options ⟨Settings.initial.model,
        Text.join [','] Settings.initial.tables, Settings.initial.dataOutput,
        Settings.initial.syntheticGenerate⟩, false) := rfl

/-- Nobody but the signal ends the process. -/
theorem orderly_killed (kind : Fault → Bool) : Orderly kind killed := by
  refine ⟨fun f hf => Attempt.noConfusion hf, ?_⟩
  intro history f hstarts hlost
  cases hstarts
  cases hlost

theorem exit_status_killed :
    (direct plainScreen .standard bareDesk [] .empty killed).exit = .ok 137 ∧
      (interactive ⟨.ofText Settings.fileName⟩ 2 .standard bareDesk acceptingAll killed).exit =
        .ok 137 := by
  constructor
  · obtain ⟨hdirect, -⟩ := exit_status .standard bareDesk [] killed
    obtain ⟨panel, hpanel⟩ :=
      exists_summaryShown plainScreen (o := .empty) (by decide +kernel) rfl
    obtain ⟨status, hexit, -, hstatus⟩ := hdirect _ _ panel hpanel
    rw [hexit, hstatus (orderly_killed _)]
    rfl
  · obtain ⟨-, hinteractive⟩ := exit_status .standard bareDesk acceptingAll killed
    obtain ⟨loaded, hload, hinitial⟩ := load_bareDesk
    have hanswered := acceptingAll_answers
    rw [← hinitial] at hanswered
    obtain ⟨status, hexit, -, hstatus⟩ := hinteractive _ _ loaded _ false hload hanswered
    rw [hexit, hstatus (orderly_killed _)]
    rfl

/-! ## A process lost to the wish to stop -/

/-- **An interview reports no failure where the wait fails with the wish to stop.**
Whatever diagnostics there were, and although the run has returned a failure, it
ends as if the user had stopped it. -/
theorem interactive_exit_of_cancellation {store : Settings.Store} {levels : Nat}
    {loaded : Settings.Store.Loaded} (hload : store.load levels d.tree = .ok loaded) {o : Options}
    {wanted : Bool}
    (hanswered : (Interview.interview loaded.settings keys).result = .ok (o, wanted))
    {history : List Instant} {m : Mishap} (hw : processEnd (completed history) = some (.lost m))
    (hm : m.fault.isCancellation = true) :
    (interactive store levels location d keys (.starts history)).exit = .ok cancelledStatus ∧
      statusFor (.starts history) = 1 := by
  rw [interactive_exit hload hanswered, verdictOn_of_lost hw, interactiveFault_of_cancellation hm]
  exact ⟨rfl, statusFor_of_lost hw⟩

/-- The end of an input, met in waiting. -/
def inputGone : Mishap := ⟨.endOfInput "gone", rfl⟩

/-- Waiting for the process runs into the end of an input. -/
def lostToEndOfInput : Attempt := .starts [[.ended (.lost inputGone)]]

/-- The program says that the user has stopped it. -/
theorem interactive_exit_lostToEndOfInput :
    (interactive ⟨.ofText Settings.fileName⟩ 2 .standard bareDesk acceptingAll
        lostToEndOfInput).exit = .ok 130 ∧ statusFor lostToEndOfInput = 1 := by
  obtain ⟨loaded, hload, hinitial⟩ := load_bareDesk
  have hanswered := acceptingAll_answers
  rw [← hinitial] at hanswered
  have hend : processEnd (completed [[.ended (.lost inputGone)]]) = some (.lost inputGone) := rfl
  exact interactive_exit_of_cancellation hload hanswered hend rfl

end Sessions

end SynthDesk.Session
