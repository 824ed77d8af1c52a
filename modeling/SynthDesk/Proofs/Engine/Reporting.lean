/-
What a run tells its reader.

Each run puts one report on the screen, as far as the two tellers have a
console to put it on, all of it at the moment that settles the run, and nothing
at any other. The report is that of the ruling, so it says what the outcome
says: the line of a success stands in no failed run, and the line of an error in
no run that succeeds.
-/
import SynthDesk.Proofs.Engine.Run
import Mathlib.Data.Nat.Find

set_option autoImplicit false

namespace SynthDesk.Engine

open Supervisor Executor

/-! ## The moment of the ruling -/

/-- A ruling comes at one point of the history: there is none before, certainly
not at the start, and from then on it stands. -/
theorem exists_settling {h : List Instant} {r : Ruling} (hrule : rulingOf h = some r) :
    ∃ n, 0 < n ∧ n ≤ h.length ∧
      ∀ k, k ≤ h.length → rulingOf (h.take k) = if k < n then none else some r := by
  have hex : ∃ n, (rulingOf (h.take n)).isSome = true := by
    refine ⟨h.length, ?_⟩
    rw [List.take_length, hrule]
    rfl
  refine ⟨Nat.find hex, ?_, ?_, ?_⟩
  · rw [Nat.find_pos, List.take_zero, rulingOf_nil]
    exact Bool.false_ne_true
  · apply Nat.find_min' hex
    rw [List.take_length, hrule]
    rfl
  · intro k hk
    split
    case isTrue hlt =>
      have hmin := Nat.find_min hex hlt
      rwa [Bool.not_eq_true, Option.isSome_eq_false_iff, Option.isNone_iff_eq_none] at hmin
    case isFalse hge =>
      -- The ruling at the first point stands at `k`, and then at the end, where it is `r`.
      obtain ⟨r', hr'⟩ := Option.isSome_iff_exists.mp (Nat.find_spec hex)
      have hle : Nat.find hex ≤ k := Nat.le_of_not_lt hge
      have hk' : rulingOf (h.take k) = some r' := by
        rw [← take_append_drop_take h hle]
        exact rulingOf_append hr' _
      have hall : rulingOf h = some r' := by
        rw [← List.take_append_drop k h]
        exact rulingOf_append hk' _
      rw [hk', ← hall, hrule]

/-! ## One report -/

/-- **One report.** The run returns this outcome; these lines are all that
appears in it; and they appear together, at the moment that brings the
outcome. -/
structure ReportsOnce (o : Outcome) (lines : List Console.StatusLine) (report : Report) : Prop where
  result : report.result = .ok o
  shown : Effect.shown report.effects = lines.map .status
  settling : ∃ n, n < report.moments.length ∧ ∀ k m, report.moments[k]? = some m →
    m.outcome = (if k < n then none else some o) ∧
      Effect.shown m.effects = if k = n then lines.map .status else []

/-- A run whose process starts reports its ruling once, as far as there are consoles. -/
theorem reportsOnce_of_ruling {x : Executor} (args : List Text) {history : List Instant}
    {r : Ruling} (hs : x.indicator.start.2 = none)
    (hrule : rulingOf (completed history) = some r) :
    ReportsOnce r.outcome (r.reportOn x.consoles) (x.run args (.starts history)).2 := by
  obtain ⟨hresult, -, -, hshown⟩ := run_of_ruling hs args hrule
  refine ⟨hresult, hshown, ?_⟩
  obtain ⟨n, hpos, hn, hat⟩ := exists_settling hrule
  refine ⟨n, ?_, ?_⟩
  · rw [moments_length hs]
    omega
  · intro k m hm
    have hk := le_length_of_moment hs hm
    obtain ⟨effects, hm', hnews⟩ := moment_at hs args hk
    rw [hm'] at hm
    obtain rfl := Option.some.inj hm
    constructor
    · have hout := (reflects_reached x.console x.begun_active ((completed history).take k)).outcome
      rw [hat k hk] at hout
      refine hout.trans ?_
      split <;> rfl
    · refine hnews.trans ?_
      rw [hat k hk, hat (k - 1) (by omega)]
      -- The ruling is news at `n`: before, there is none; after, it was there already.
      rcases Nat.lt_trichotomy k n with hlt | rfl | hgt
      · rw [if_pos hlt, if_pos (by omega), if_neg (by omega)]
        rfl
      · rw [if_neg (Nat.lt_irrefl k), if_pos (by omega), if_pos rfl, Ruling.news]
      · rw [if_neg (by omega), if_neg (by omega), if_neg (by omega)]
        rfl

/-- A run whose start is refused reports the refusal once, if its indicator has a console. -/
theorem reportsOnce_of_refusal {x : Executor} (args : List Text) {f : Fault}
    (hs : x.indicator.start.2 = none) (hf : f.isRefusal = true) :
    ReportsOnce (Ruling.refused f).outcome ((Ruling.refused f).reportOn x.consoles)
      (x.run args (.refused f)).2 := by
  have ha : x.indicator.start.1.active = true := Indicator.start_active _
  have hconsole : x.indicator.start.1.console = x.indicator.console := Indicator.start_console _
  have hline : Effect.shown (x.indicator.start.1.fail (refusedMessage f)).2 =
      ((Ruling.refused f).reportOn x.consoles).map .status := by
    have hteller : x.consoles.hasOne .indicator = x.indicator.console := rfl
    rw [Ruling.reportOn_eq, Ruling.told, List.flatMap_singleton, Consoles.heard, hteller,
      Indicator.fail, Indicator.finish, ha, hconsole]
    cases x.indicator.console <;> rfl
  have hrun : (x.run args (.refused f)).2 =
      unstarted (some (x.location.command args)) (.ok (.failed f.message none)) .failed
        (x.indicator.start.1.fail (refusedMessage f)).1
        (startNote (x.location.command args) :: refusedNote x.location.runtime f ::
          (x.indicator.start.1.fail (refusedMessage f)).2) := by
    rw [run, hs]
    simp only [hf, if_true]
  rw [hrun]
  have hshown : Effect.shown (startNote (x.location.command args) ::
      refusedNote x.location.runtime f :: (x.indicator.start.1.fail (refusedMessage f)).2) =
        ((Ruling.refused f).reportOn x.consoles).map .status := hline
  refine ⟨rfl, ?_, 0, Nat.zero_lt_one, ?_⟩
  · rw [Report.effects, unstarted, List.flatMap_singleton, hshown]
  · intro k m hm
    cases k with
    | zero =>
      obtain rfl := Option.some.inj hm
      exact ⟨rfl, hshown⟩
    | succ k => cases hm

/-! ## Success and error -/

/-- A success is told in two lines, by the indicator and by the executor; anything else in
one line, an error. -/
theorem Ruling.told_cases (r : Ruling) :
    (r.outcome = .succeeded ∧ r.told = [(.indicator, ⟨.success, successMessage⟩),
      (.executor, ⟨.info, whereToLook⟩)]) ∨
    (r.outcome ≠ .succeeded ∧ ∃ teller t, r.told = [(teller, ⟨.error, t⟩)]) := by
  have hne : ∀ (reason : Text) (code : Option Int), Outcome.failed reason code ≠ .succeeded := by
    intro reason code h
    cases h
  cases r with
  | refused f => exact Or.inr ⟨hne _ _, .indicator, refusedMessage f, rfl⟩
  | diagnosed piece => exact Or.inr ⟨hne _ _, .executor, _, rfl⟩
  | ended w =>
    cases w with
    | lost m => exact Or.inr ⟨hne _ _, .indicator, lostMessage m, rfl⟩
    | status n =>
      by_cases hn : n = 0
      · exact Or.inl ⟨if_pos hn, if_pos hn⟩
      · refine Or.inr ⟨?_, .indicator, statusMessage n, if_neg hn⟩
        rw [outcome, if_neg hn]
        exact hne _ _

/-- The line of a success is the indicator's, and stands in the report of a success only. -/
theorem Ruling.exists_success_mem_reportOn_iff {c : Consoles} (hc : c.indicator = true)
    (r : Ruling) :
    (∃ t, (⟨.success, t⟩ : Console.StatusLine) ∈ r.reportOn c) ↔ r.outcome = .succeeded := by
  rw [reportOn_eq]
  obtain ⟨hwell, htold⟩ | ⟨hill, teller, text, htold⟩ := r.told_cases
  · have hheard : c.heard .indicator [⟨.success, successMessage⟩] = [⟨.success, successMessage⟩] :=
      if_pos hc
    refine iff_of_true ⟨successMessage, ?_⟩ hwell
    rw [htold, List.flatMap_cons, hheard]
    exact List.mem_cons_self
  · refine iff_of_false ?_ hill
    rintro ⟨t, ht⟩
    rw [htold, List.flatMap_singleton] at ht
    have hline := List.mem_singleton.mp (c.heard_subset teller _ ht)
    cases hline

theorem Ruling.exists_success_mem_report_iff (r : Ruling) :
    (∃ t, (⟨.success, t⟩ : Console.StatusLine) ∈ r.report) ↔ r.outcome = .succeeded := by
  rw [← r.reportOn_both]
  exact exists_success_mem_reportOn_iff rfl r

theorem Ruling.error_not_mem_report {r : Ruling} (hr : r.outcome = .succeeded) (t : Text) :
    (⟨.error, t⟩ : Console.StatusLine) ∉ r.report := by
  obtain ⟨-, htold⟩ | ⟨hill, -⟩ := r.told_cases
  · rw [report, htold]
    simp
  · exact absurd hr hill

/-- The one line of information in a report says where to look. -/
theorem Ruling.info_mem_report {r : Ruling} {t : Text}
    (h : (⟨.info, t⟩ : Console.StatusLine) ∈ r.report) : t = whereToLook := by
  obtain ⟨-, htold⟩ | ⟨-, teller, text, htold⟩ := r.told_cases
  · rw [report, htold] at h
    simpa using h
  · rw [report, htold] at h
    cases List.mem_singleton.mp h

/-- The text on the screen is that of the lines, each as the screen shows it. -/
theorem ReportsOnce.printed {o : Outcome} {lines : List Console.StatusLine} {report : Report}
    (h : ReportsOnce o lines report) :
    Effect.printed report.effects = lines.flatMap Console.StatusLine.render := by
  rw [Effect.printed, h.shown, List.flatMap_map]
  rfl

theorem ReportsOnce.statusLines {o : Outcome} {lines : List Console.StatusLine} {report : Report}
    (h : ReportsOnce o lines report) : Effect.statusLines report.effects = lines := by
  rw [Effect.statusLines, h.shown, List.filterMap_map]
  exact List.filterMap_some

/-- A run that returns an outcome reports one ruling. -/
theorem exists_reportsOnce {x : Executor} {args : List Text} {attempt : Attempt} {o : Outcome}
    (hs : x.indicator.start.2 = none) (ho : (x.run args attempt).2.result = .ok o) :
    ∃ r : Ruling, r.outcome = o ∧
      ReportsOnce r.outcome (r.reportOn x.consoles) (x.run args attempt).2 := by
  cases attempt with
  | starts history =>
    obtain ⟨r, hrule⟩ := exists_rulingOf (isComplete_completed history)
    have hreport := reportsOnce_of_ruling args hs hrule
    rw [hreport.result] at ho
    exact ⟨r, Except.ok.inj ho, hreport⟩
  | refused f =>
    cases hf : f.isRefusal with
    | true =>
      have hreport := reportsOnce_of_refusal args hs hf
      rw [hreport.result] at ho
      exact ⟨.refused f, Except.ok.inj ho, hreport⟩
    | false =>
      rw [run_passes_on hs args hf] at ho
      cases ho

/-- Every line of a run stands in a report. -/
theorem exists_mem_report {x : Executor} {args : List Text} {attempt : Attempt}
    {l : Console.StatusLine} (hs : x.indicator.start.2 = none)
    (hl : l ∈ Effect.statusLines (x.run args attempt).2.effects) :
    ∃ r : Ruling, l ∈ r.report := by
  cases hresult : (x.run args attempt).2.result with
  | ok o =>
    obtain ⟨r, -, hreport⟩ := exists_reportsOnce hs hresult
    rw [hreport.statusLines] at hl
    exact ⟨r, r.reportOn_subset x.consoles hl⟩
  | error f =>
    -- Only a fault at the start is passed on, and nothing is shown then.
    cases attempt with
    | starts history =>
      rw [run_starts hs] at hresult
      cases hresult
    | refused f' =>
      cases hf : f'.isRefusal with
      | true =>
        rw [(run_refused hs args hf).1] at hresult
        cases hresult
      | false =>
        rw [run, hs] at hl
        simp only [hf, Bool.false_eq_true, if_false] at hl
        cases hl

/-! ## The report of a run -/

/-- **One report for one run.** Whatever happens, what appears in a whole run is the
report of its outcome, at the moment that settles it; the executor and its indicator
have a console each, and of the report the lines appear that are told on one:

* diagnostics, whatever else there is, one line of the executor with their first piece;
* a process that ends well, the success by the indicator, and by the executor where to
  look;
* a bad status, a lost process, a refused start, one line each by the indicator.

So where the indicator has a console, there is the line of a success exactly when the
outcome is one; and never is there one after a failure, or with the line of an error. The
text on a screen that is wide enough is that of these lines, tabs filled up with blanks
and five controls left out. -/
theorem one_report (x : Executor) (args : List Text) (hs : x.indicator.start.2 = none) :
    (∀ history piece later, piecesRead .err (completed history) = piece :: later →
      ReportsOnce (.failed (Utf8.decodeLossy piece) none)
        (x.consoles.heard .executor
          [⟨.error, Text.ofString "\nError from Java process:\n" ++ Utf8.decodeLossy piece⟩])
        (x.run args (.starts history)).2) ∧
    (∀ history, piecesRead .err (completed history) = [] →
      ∃ w, processEnd (completed history) = some w ∧
      (w = .status 0 →
        ReportsOnce .succeeded
          (x.consoles.heard .indicator
              [⟨.success, Text.ofString "Generation completed successfully!"⟩] ++
            x.consoles.heard .executor
              [⟨.info, Text.ofString "Check the summary.log and error.log for details."⟩])
          (x.run args (.starts history)).2) ∧
      (∀ n, n ≠ 0 → w = .status n →
        ReportsOnce
          (.failed (Text.ofString "Java process exited with code " ++ Text.ofInt n) (some n))
          (x.consoles.heard .indicator
            [⟨.error, Text.ofString "Generation failed with exit code " ++ Text.ofInt n ++
              Text.ofString "."⟩])
          (x.run args (.starts history)).2) ∧
      (∀ m, w = .lost m →
        ReportsOnce (.failed m.message none)
          (x.consoles.heard .indicator
            [⟨.error, Text.ofString "Lost track of the engine process: " ++ m.message⟩])
          (x.run args (.starts history)).2)) ∧
    (∀ f, f.isRefusal = true →
      ReportsOnce (.failed f.message none)
        (x.consoles.heard .indicator
          [⟨.error, Text.ofString "Could not start the engine: " ++ f.message⟩])
        (x.run args (.refused f)).2) ∧
    (∀ attempt o, (x.run args attempt).2.result = .ok o →
      (x.indicator.console = true →
        ((∃ t, ⟨.success, t⟩ ∈ Effect.statusLines (x.run args attempt).2.effects) ↔
          o = .succeeded)) ∧
      ((∃ t, ⟨.success, t⟩ ∈ Effect.statusLines (x.run args attempt).2.effects) →
        o = .succeeded ∧ ∀ t, ⟨.error, t⟩ ∉ Effect.statusLines (x.run args attempt).2.effects) ∧
      Effect.printed (x.run args attempt).2.effects =
        (Effect.statusLines (x.run args attempt).2.effects).flatMap Console.StatusLine.render) := by
  refine ⟨?_, ?_, ?_, ?_⟩
  · intro history piece later hp
    have hreport := reportsOnce_of_ruling args hs (rulingOf_of_cons hp)
    rwa [Ruling.reportOn_eq, Ruling.told, List.flatMap_singleton] at hreport
  · intro history hp
    obtain ⟨w, hw⟩ := Option.isSome_iff_exists.mp (isComplete_completed history).2.2
    have hreport := reportsOnce_of_ruling args hs
      (rulingOf_of_isComplete hp (isComplete_completed history) hw)
    rw [Ruling.reportOn_eq] at hreport
    refine ⟨w, hw, ?_, ?_, ?_⟩
    · rintro rfl
      rwa [Ruling.told, if_pos rfl, List.flatMap_cons, List.flatMap_singleton] at hreport
    · rintro n hn rfl
      rwa [Ruling.outcome, Ruling.told, if_neg hn, if_neg hn, List.flatMap_singleton] at hreport
    · rintro m rfl
      rwa [Ruling.told, List.flatMap_singleton] at hreport
  · intro f hf
    have hreport := reportsOnce_of_refusal args hs hf
    rwa [Ruling.reportOn_eq, Ruling.told, List.flatMap_singleton] at hreport
  · intro attempt o ho
    obtain ⟨r, rfl, hreport⟩ := exists_reportsOnce hs ho
    rw [hreport.statusLines]
    refine ⟨fun hc => r.exists_success_mem_reportOn_iff hc, ?_, hreport.printed⟩
    rintro ⟨t, ht⟩
    have hwell := r.exists_success_mem_report_iff.mp ⟨t, r.reportOn_subset _ ht⟩
    exact ⟨hwell, fun t herror =>
      Ruling.error_not_mem_report hwell t (r.reportOn_subset _ herror)⟩

/-- A process that is lost after its diagnostics is not reported a second time; and where the
indicator has no console, of a success only the line that says where to look appears. -/
theorem one_report_diagnosticsThenLost :
    (Executor.ready .standard true).indicator.start.2 = none ∧
      Effect.statusLines ((Executor.ready .standard true).run [] (.starts
        [[.closed .out], [.data .err (Utf8.encode "bad")], [.closed .err],
          [.ended (.lost (.other "ChildError" "gone"))]])).2.effects =
        [⟨.error, Text.ofString "\nError from Java process:\nbad"⟩] ∧
      (Executor.mk .standard true (.idle false Indicator.initialText)).indicator.start.2 = none ∧
      Effect.statusLines ((Executor.mk .standard true (.idle false Indicator.initialText)).run []
          (.starts [])).2.effects =
        [⟨.info, Text.ofString "Check the summary.log and error.log for details."⟩] := by
  refine ⟨by decide, ?_, rfl, ?_⟩
  · obtain ⟨hdiagnosed, -, -, -⟩ := one_report (.ready .standard true) [] (by decide)
    have hreport := hdiagnosed [[.closed .out], [.data .err (Utf8.encode "bad")], [.closed .err],
      [.ended (.lost (.other "ChildError" "gone"))]] (Utf8.encode "bad") [] (by decide)
    rw [hreport.statusLines]
    decide
  · obtain ⟨-, hended, -, -⟩ :=
      one_report (.mk .standard true (.idle false Indicator.initialText)) [] rfl
    obtain ⟨w, hw, hwell, -, -⟩ := hended [] (by decide)
    obtain rfl : w = .status 0 := Option.some.inj (hw.symm.trans (by decide))
    rw [(hwell rfl).statusLines]
    rfl

/-- **A report can be missing, or be shown in part.** An executor with a console whose
indicator has none says nothing of a bad status; and of diagnostics that end in a
carriage return all but this is shown. -/
theorem report_incomplete :
    (Executor.mk .standard true (.idle false Indicator.initialText)).console = true ∧
      (Executor.mk .standard true (.idle false Indicator.initialText)).indicator.start.2 = none ∧
      ((Executor.mk .standard true (.idle false Indicator.initialText)).run []
          (.starts [[.ended (.status 2)]])).2.result =
        .ok (.failed (Supervisor.statusReason 2) (some 2)) ∧
      Effect.shown ((Executor.mk .standard true (.idle false Indicator.initialText)).run []
          (.starts [[.ended (.status 2)]])).2.effects = [] ∧
      ((Executor.ready .standard true).run []
          (.starts [[.data .err (Utf8.encode "bad\r\n")]])).2.result =
        .ok (.failed "bad\r\n" none) ∧
      Effect.printed ((Executor.ready .standard true).run []
          (.starts [[.data .err (Utf8.encode "bad\r\n")]])).2.effects =
        Text.ofString "\n✖ Error from Java process:\nbad\n\n" := by
  refine ⟨rfl, rfl, ?_, ?_, ?_, ?_⟩ <;> decide +kernel

end SynthDesk.Engine
