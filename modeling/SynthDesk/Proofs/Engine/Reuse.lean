/-
An executor that is used again.

An executor has one indicator for all its runs, and what a run leaves in it is
the text: the one before, or that of some progress of the run. The next run
starts the indicator with this text, and reads it as markup, although it was
shown as it stood. So a run raises a fault where some earlier progress reads as
markup that is refused; and it raises the fault of a start that is not a refusal
of the system. In all else it returns an outcome, and then the indicator is at
rest.
-/
import SynthDesk.Proofs.Console.Markup
import SynthDesk.Proofs.Engine.OutcomeLaw

set_option autoImplicit false

namespace SynthDesk.Engine

open Supervisor Executor

/-! ## The text of a run -/

/-- The pieces of progress that come of an attempt. -/
def Attempt.progress : Attempt → List (List Octet)
  | .starts history => piecesRead .out history
  | .refused _ => []

/-- The text after pieces is the one before, or that of one of them. -/
theorem textAfter_cases (t : Text) (pieces : List (List Octet)) :
    textAfter t pieces = t ∨ ∃ p ∈ pieces, textAfter t pieces = (Utf8.decodeLossy p).strip := by
  rw [textAfter]
  cases hlast : pieces.getLast? with
  | none => exact Or.inl rfl
  | some p => exact Or.inr ⟨p, List.mem_of_getLast? hlast, rfl⟩

section Text

variable {own : Bool} {start : Indicator} {h : List Instant} {s : Supervisor}

/-- An instant leaves the text of some of the progress that it has. -/
theorem Reflects.exists_text_step (hr : Reflects own start h s) (i : Instant) :
    ∃ pieces, pieces ⊆ s.gets .out i ∧
      (s.step i).1.indicator.text = textAfter s.indicator.text pieces := by
  rcases hr.step_cases i with ⟨-, hstate, -⟩ | ⟨ho, -, hstate, -⟩ |
    ⟨ho, r, pieces, -, hpieces, hstate, -⟩
  · refine ⟨[], List.nil_subset _, ?_⟩
    rw [hstate, passed_indicator]
    rfl
  · refine ⟨_, List.Subset.refl _, ?_⟩
    rw [hstate, passed_indicator, showing_text ho (hr.active_of_open ho)]
  · refine ⟨pieces, hpieces, ?_⟩
    rw [hstate, passed_indicator, settle, Indicator.stop_text,
      showing_text ho (hr.active_of_open ho)]

/-- A stretch of history leaves the text of some progress so far. -/
theorem Reflects.exists_text_follow (hr : Reflects own start h s) {before : List (List Octet)}
    (hbefore : before ⊆ piecesRead .out h)
    (htext : s.indicator.text = textAfter start.text before) (t : List Instant) :
    ∃ pieces, pieces ⊆ piecesRead .out (h ++ t) ∧
      (s.follow t).1.indicator.text = textAfter start.text pieces := by
  -- What is carried along is which pieces the text comes from: all of them are in the
  -- history so far.
  induction t generalizing h s before with
  | nil =>
    rw [List.append_nil]
    exact ⟨before, hbefore, htext⟩
  | cons i r ih =>
    obtain ⟨pieces, hpieces, hstep⟩ := hr.exists_text_step i
    have hsubset : before ++ pieces ⊆ piecesRead .out (h ++ [i]) := by
      rw [hr.books.piecesRead_concat]
      exact List.append_subset.mpr ⟨List.subset_append_of_subset_left _ hbefore,
        List.subset_append_of_subset_right _ hpieces⟩
    rw [htext, ← textAfter_append] at hstep
    have hrest := ih (hr.step i) hsubset hstep
    rw [List.append_assoc, List.singleton_append] at hrest
    exact hrest

end Text

/-! ## What a run leaves -/

/-- **What attempts leave of an executor.** It keeps its console and its indicator's,
and the text is the one before, or that of some progress. -/
structure LeftBy (x : Executor) (attempts : List Attempt) (x' : Executor) : Prop where
  consoles : x'.consoles = x.consoles
  text : x'.indicator.text = x.indicator.text ∨ ∃ attempt ∈ attempts, ∃ p ∈ attempt.progress,
    x'.indicator.text = (Utf8.decodeLossy p).strip

theorem LeftBy.of_text_eq {x x' : Executor} (attempts : List Attempt)
    (hconsoles : x'.consoles = x.consoles)
    (htext : x'.indicator.text = x.indicator.text) : LeftBy x attempts x' :=
  ⟨hconsoles, Or.inl htext⟩

theorem LeftBy.trans {x x' x'' : Executor} {attempts later : List Attempt}
    (h : LeftBy x attempts x') (h' : LeftBy x' later x'') : LeftBy x (attempts ++ later) x'' where
  consoles := h'.consoles.trans h.consoles
  text := by
    rcases h'.text with htext | ⟨attempt, hmem, p, hp, htext⟩
    · rw [htext]
      rcases h.text with hbefore | ⟨attempt, hmem, hp⟩
      · exact Or.inl hbefore
      · exact Or.inr ⟨attempt, List.mem_append_left _ hmem, hp⟩
    · exact Or.inr ⟨attempt, List.mem_append_right _ hmem, p, hp, htext⟩

namespace Executor

variable {x : Executor} {args : List Text} {attempt : Attempt}

/-- The indicator after a run whose process starts is the one that the run has come
to. -/
theorem run_indicator_of_starts (hs : x.indicator.start.2 = none) (args : List Text)
    (history : List Instant) :
    (x.run args (.starts history)).1.indicator =
      (reached x.console x.begun (completed history)).indicator := by
  rw [run, hs]
  simp only [Reflects.complete_eq x.begun_active, reached]

/-- The indicator after a start that the system refuses. -/
theorem run_indicator_of_refused (hs : x.indicator.start.2 = none) (args : List Text) {f : Fault}
    (hf : f.isRefusal = true) : (x.run args (.refused f)).1.indicator = x.begun.stop := by
  rw [run, hs]
  simp only [hf, if_true]
  rfl

/-- The indicator after another fault at the start: it goes on. -/
theorem run_indicator_of_fault (hs : x.indicator.start.2 = none) (args : List Text) {f : Fault}
    (hf : f.isRefusal = false) : (x.run args (.refused f)).1.indicator = x.begun := by
  rw [run, hs]
  simp only [hf, Bool.false_eq_true, if_false]

/-- The indicator refuses to start: that is the fault of the run. -/
theorem run_of_refusal {e : Markup.Refusal} (hs : x.indicator.start.2 = some e) (args : List Text)
    (attempt : Attempt) :
    (x.run args attempt).2.result = .error (.markup e) ∧
      (x.run args attempt).1.indicator = x.begun := by
  cases attempt with
  | starts history =>
    rw [run, hs]
    exact ⟨rfl, rfl⟩
  | refused f =>
    rw [run, hs]
    exact ⟨rfl, rfl⟩

/-- What one run leaves. -/
theorem leftBy_run (x : Executor) (args : List Text) (attempt : Attempt) :
    LeftBy x [attempt] (x.run args attempt).1 := by
  have hkeeps {i : Indicator} (hend : (x.run args attempt).1.indicator = i)
      (hi : i.console = x.begun.console) : (x.run args attempt).1.consoles = x.consoles := by
    rw [consoles, console_run, hend, hi, begun_consoles]
  have htext : x.begun.text = x.indicator.text := Indicator.start_text _
  cases hs : x.indicator.start.2 with
  | some e =>
    have hend := (run_of_refusal hs args attempt).2
    refine .of_text_eq _ (hkeeps hend rfl) ?_
    rw [hend, htext]
  | none =>
    cases attempt with
    | refused f =>
      cases hf : f.isRefusal with
      | true =>
        have hend := run_indicator_of_refused hs args hf
        refine .of_text_eq _ (hkeeps hend (Indicator.stop_console _)) ?_
        rw [hend, Indicator.stop_text, htext]
      | false =>
        have hend := run_indicator_of_fault hs args hf
        refine .of_text_eq _ (hkeeps hend rfl) ?_
        rw [hend, htext]
    | starts history =>
      have hend := run_indicator_of_starts hs args history
      have hr := reflects_reached x.console x.begun_active (completed history)
      refine ⟨hkeeps hend (congrArg Consoles.indicator hr.consoles), ?_⟩
      -- The pieces are those of the completed history, which has no others.
      obtain ⟨pieces, hpieces, hafter⟩ :=
        (Reflects.started x.console x.begun_active).exists_text_follow
          (List.nil_subset _) rfl (completed history)
      rw [List.nil_append, piecesRead_completed] at hpieces
      rw [hend, reached, hafter, htext]
      rcases textAfter_cases x.indicator.text pieces with hsame | ⟨p, hp, hshown⟩
      · exact Or.inl hsame
      · exact Or.inr ⟨_, List.mem_singleton_self _, p, hpieces hp, hshown⟩

/-- What runs leave, one after another. -/
theorem leftBy_runs (x : Executor) (earlier : List (List Text × Attempt)) :
    LeftBy x (earlier.map (·.2)) (x.runs earlier).1 := by
  induction earlier generalizing x with
  | nil => exact .of_text_eq _ rfl rfl
  | cons first r ih => exact (leftBy_run x first.1 first.2).trans (ih _)

/-! ## Returning -/

/-- **A run returns** exactly if the indicator starts, and the process starts or the
system refuses it. -/
theorem exists_result_iff : (∃ o, (x.run args attempt).2.result = .ok o) ↔
    x.indicator.start.2 = none ∧ ∀ f, attempt = .refused f → f.isRefusal = true := by
  cases hs : x.indicator.start.2 with
  | some e =>
    refine iff_of_false ?_ (fun h => by cases h.1)
    rintro ⟨o, ho⟩
    rw [(run_of_refusal hs args attempt).1] at ho
    cases ho
  | none =>
    cases attempt with
    | starts history =>
      have hreturns : ∃ o, (x.run args (.starts history)).2.result = .ok o := by
        rw [run_starts hs]
        exact ⟨_, rfl⟩
      exact iff_of_true hreturns ⟨rfl, fun f hf => by cases hf⟩
    | refused f =>
      cases hf : f.isRefusal with
      | true =>
        refine iff_of_true ⟨_, (run_refused hs args hf).1⟩ ⟨rfl, ?_⟩
        rintro f' hf'
        cases hf'
        exact hf
      | false =>
        refine iff_of_false ?_ ?_
        · rintro ⟨o, ho⟩
          rw [run_passes_on hs args hf] at ho
          cases ho
        · rintro ⟨-, hall⟩
          rw [hall f rfl] at hf
          cases hf

/-- **A run that has returned is cleaned up**: the indicator is at rest, and the phase
is that of the outcome; so it is at every moment from the return on. -/
structure CleanedUp (x' : Executor) (report : Report) (o : Outcome) : Prop where
  inactive : x'.indicator.active = false
  phase : report.phase = if o.isSuccess then .succeeded else .failed
  moments : ∀ m ∈ report.moments, ∀ o', m.outcome = some o' →
    o' = o ∧ m.active = false ∧ m.phase = if o.isSuccess then .succeeded else .failed

theorem phase_eq (o : Outcome) : o.phase = if o.isSuccess then .succeeded else .failed := by
  cases o <;> rfl

/-- What a run has returned at one moment is its result. -/
theorem result_of_moment {history : List Instant} (hs : x.indicator.start.2 = none) {k : Nat}
    {m : Moment} (hm : (x.run args (.starts history)).2.moments[k]? = some m) {o : Outcome}
    (ho : m.outcome = some o) : (x.run args (.starts history)).2.result = .ok o := by
  obtain ⟨hr, effects, rfl⟩ := reflects_of_moment hs hm
  obtain ⟨r, hrule, rfl⟩ := Option.map_eq_some_iff.mp (hr.outcome.symm.trans ho)
  -- The ruling at that moment stands to the end.
  have hend : rulingOf (completed history) = some r := by
    rw [← List.take_append_drop k (completed history)]
    exact rulingOf_append hrule _
  exact (run_of_ruling hs args hend).1

theorem cleanedUp_of_result {o : Outcome} (ho : (x.run args attempt).2.result = .ok o) :
    CleanedUp (x.run args attempt).1 (x.run args attempt).2 o := by
  obtain ⟨hs, hrefused⟩ := exists_result_iff.mp ⟨o, ho⟩
  cases attempt with
  | refused f =>
    have hf := hrefused f rfl
    have hend := run_indicator_of_refused hs args hf
    have hinactive : (x.run args (.refused f)).1.indicator.active = false := by
      rw [hend, Indicator.stop_active]
    rw [(run_refused hs args hf).1] at ho
    cases ho
    refine ⟨hinactive, ?_, ?_⟩
    · rw [run, hs]
      simp only [hf, if_true]
      rfl
    · intro m hm o' ho'
      rw [run, hs] at hm
      simp only [hf, if_true, unstarted, List.mem_singleton] at hm
      subst hm
      cases ho'
      exact ⟨rfl, Indicator.stop_active _, rfl⟩
  | starts history =>
    have hr := reflects_reached x.console x.begun_active (completed history)
    obtain ⟨r, hrule⟩ := exists_rulingOf (isComplete_completed history)
    obtain ⟨hresult, hphase, -, -⟩ := run_of_ruling hs args hrule
    rw [hresult] at ho
    cases ho
    refine ⟨?_, hphase.trans (phase_eq _), ?_⟩
    · have hsettled : (reached x.console x.begun (completed history)).outcome.isSome = true := by
        rw [hr.outcome, hrule]
        rfl
      rw [run_indicator_of_starts hs, hr.inactive_of_settled hsettled]
    · intro m hm o' ho'
      obtain ⟨k, hk⟩ := List.mem_iff_getElem?.mp hm
      have hsame := result_of_moment hs hk ho'
      rw [hresult] at hsame
      cases hsame
      obtain ⟨hr', effects, rfl⟩ := reflects_of_moment hs hk
      refine ⟨rfl, hr'.inactive_of_settled (Option.isSome_of_eq_some ho'), ?_⟩
      have hphase' := hr'.phase
      rw [show (reached x.console x.begun ((completed history).take k)).outcome =
        some r.outcome from ho'] at hphase'
      exact hphase'.trans (phase_eq _)

/-! ## Starting again -/

/-- The indicator refuses to start where its text is refused as markup. -/
theorem read_of_refusal {i : Indicator} {e : Markup.Refusal} (h : i.start.2 = some e) :
    Markup.read i.text = .error e := by
  unfold Indicator.start at h
  split at h
  · cases h
  · split at h
    · split at h
      · cases h
      · next hread =>
        cases h
        exact hread
    · cases h

/-- An executor with a console that has been used. -/
def used (location : Location) (earlier : List (List Text × Attempt)) : Executor :=
  ((ready location true).runs earlier).1

/-- Where the indicator of a used executor refuses to start, it is for the text of
some progress. -/
theorem exists_progress_of_refusal {location : Location} {earlier : List (List Text × Attempt)}
    {e : Markup.Refusal} (hs : (used location earlier).indicator.start.2 = some e) :
    ∃ r ∈ earlier, ∃ p ∈ r.2.progress,
      Markup.read (Utf8.decodeLossy p).strip = .error e := by
  have hread := read_of_refusal hs
  rcases (leftBy_runs (ready location true) earlier).text with
    htext | ⟨attempt, hattempt, p, hp, htext⟩
  · -- The initial text is no such text.
    have hbracketless : Markup.bracket ∉ Indicator.initialText := by decide
    obtain ⟨s, hinitial⟩ := Markup.exists_read hbracketless
    have hfirst : (ready location true).indicator.text = Indicator.initialText := rfl
    rw [used, htext, hfirst, hinitial] at hread
    cases hread
  · obtain ⟨r, hr, rfl⟩ := List.mem_map.mp hattempt
    rw [used, htext] at hread
    exact ⟨r, hr, p, hp, hread⟩

/-- **When a run returns, and what it leaves then.** Take an executor with a console
after any runs, any arguments, and whatever comes of the attempt to start the
process.

* The run returns an outcome exactly if the indicator starts, and the process
  starts or is refused by the system.
* When it has returned, the indicator is at rest, and the phase is that of the
  outcome.
* A start that the system refuses gives a failure in the words of the refusal.
* Any other fault at the start is raised, and the indicator goes on.
* Where the indicator does not start, that is raised, and some progress of an
  earlier run is refused as markup; so it starts if no earlier progress opens a
  bracket. -/
theorem run_returns (location : Location) (earlier : List (List Text × Attempt))
    (args : List Text) (attempt : Attempt) :
    ((∃ o, ((used location earlier).run args attempt).2.result = .ok o) ↔
      (used location earlier).indicator.start.2 = none ∧
        ∀ f, attempt = .refused f → f.isRefusal = true) ∧
    (∀ o, ((used location earlier).run args attempt).2.result = .ok o →
      CleanedUp ((used location earlier).run args attempt).1
        ((used location earlier).run args attempt).2 o) ∧
    (∀ f, (used location earlier).indicator.start.2 = none → attempt = .refused f →
      f.isRefusal = true →
        ((used location earlier).run args attempt).2.result = .ok (.failed f.message none)) ∧
    (∀ f, (used location earlier).indicator.start.2 = none → attempt = .refused f →
      f.isRefusal = false →
        ((used location earlier).run args attempt).2.result = .error f ∧
          ((used location earlier).run args attempt).1.indicator.active = true) ∧
    (∀ e, (used location earlier).indicator.start.2 = some e →
      ((used location earlier).run args attempt).2.result = .error (.markup e) ∧
        ((used location earlier).run args attempt).1.indicator.active = true ∧
        ∃ r ∈ earlier, ∃ p ∈ r.2.progress,
          Markup.read (Utf8.decodeLossy p).strip = .error e) ∧
    ((∀ r ∈ earlier, ∀ p ∈ r.2.progress, Markup.bracket ∉ (Utf8.decodeLossy p).strip) →
      (used location earlier).indicator.start.2 = none) := by
  refine ⟨exists_result_iff, fun o ho => cleanedUp_of_result ho, ?_, ?_, ?_, ?_⟩
  · rintro f hs rfl hf
    exact (run_refused hs args hf).1
  · rintro f hs rfl hf
    refine ⟨run_passes_on hs args hf, ?_⟩
    rw [run_indicator_of_fault hs args hf, begun_active]
  · intro e hs
    obtain ⟨hresult, hend⟩ := run_of_refusal hs args attempt
    refine ⟨hresult, ?_, exists_progress_of_refusal hs⟩
    rw [hend, begun_active]
  · intro hall
    cases hs : (used location earlier).indicator.start.2 with
    | none => rfl
    | some e =>
      obtain ⟨r, hr, p, hp, hread⟩ := exists_progress_of_refusal hs
      obtain ⟨s, hs'⟩ := Markup.exists_read (hall r hr p hp)
      rw [hs'] at hread
      cases hread

/-- A run with some progress, and a process that ends well. -/
def ranWith (progress : Text) : List Text × Attempt :=
  ([], .starts [[.data .out (Utf8.encode progress)], [.ended (.status 0)]])

theorem run_returns_afterProgress :
    (used .standard [ranWith "50% a]\\"]).indicator.start.2 = none ∧
      ((used .standard [ranWith "50% a]\\"]).run []
        (.refused (.refusal "PermissionError" "no"))).2.result = .ok (.failed "no" none) ∧
      CleanedUp ((used .standard [ranWith "50% a]\\"]).run []
          (.refused (.refusal "PermissionError" "no"))).1
        ((used .standard [ranWith "50% a]\\"]).run []
          (.refused (.refusal "PermissionError" "no"))).2 (.failed "no" none) := by
  obtain ⟨-, hclean, hrefused, -, -, hstarts⟩ := run_returns .standard [ranWith "50% a]\\"] []
    (.refused (.refusal "PermissionError" "no"))
  have hstart := hstarts (by decide)
  have hresult := hrefused _ hstart rfl rfl
  exact ⟨hstart, hresult, hclean _ hresult⟩

/-- **A run can raise a fault**: after progress that closes a tag which nobody has
opened, and at the first run, where the name of the engine is none. The
indicator goes on in both cases. -/
theorem run_raises_closingTag :
    ((used .standard [ranWith "[/]"]).run [] (.starts [])).2.result =
        .error (.markup (.nothingToClose 0)) ∧
      ((used .standard [ranWith "[/]"]).run [] (.starts [])).1.indicator.active = true ∧
      ((used .standard []).run [] (.refused (.name .nul))).2.result = .error (.name .nul) ∧
      ((used .standard []).run [] (.refused (.name .nul))).1.indicator.active = true := by
  exact ⟨rfl, rfl, rfl, rfl⟩

end Executor

end SynthDesk.Engine
