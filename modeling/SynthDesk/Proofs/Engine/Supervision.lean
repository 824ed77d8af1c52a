/-
The supervisor as a function of the history.

`Reflects` is the invariant of a supervised run: it says what each part of the
supervisor is, read off the history alone. One instant keeps it, so a run keeps
it, and with it comes what appears on the screen: the report of the ruling in
the instant that brings it, and nothing in any other.
-/
import SynthDesk.Proofs.Engine.Instant

set_option autoImplicit false

namespace SynthDesk.Engine

open Supervisor

/-! ## Books and state -/

/-- The books of a supervisor: which ends it has seen. -/
structure Books (h : List Instant) (s : Supervisor) : Prop where
  outOpen : s.outOpen = !hasEnded .out h
  errOpen : s.errOpen = !hasEnded .err h
  waited : s.waited = processEnd h

/-- **The invariant of a supervised run.** A run begun with the indicator
`start`, and with a console for its own lines or without one, has come through
the history `h`, and `s` is the supervisor now. -/
structure Reflects (own : Bool) (start : Indicator) (h : List Instant) (s : Supervisor) : Prop where
  books : Books h s
  outcome : s.outcome = (rulingOf h).map Ruling.outcome
  phase : s.phase = (s.outcome.map Outcome.phase).getD .running
  active : s.indicator.active = s.outcome.isNone
  consoles : s.consoles = ⟨own, start.console⟩
  text : s.outcome = none → s.indicator.text = textAfter start.text (piecesRead .out h)

namespace Books

variable {h : List Instant} {s : Supervisor}

/-- What a stream gets is what the history has it read. -/
theorem gets_eq (hb : Books h s) (stream : Stream) (i : Instant) :
    s.gets stream i = if hasEnded stream h then [] else (arrival stream i).pieces := by
  cases stream with
  | out =>
    rw [gets, isOpen, hb.outOpen]
    cases hasEnded .out h <;> rfl
  | err =>
    rw [gets, isOpen, hb.errOpen]
    cases hasEnded .err h <;> rfl

theorem piecesRead_concat (hb : Books h s) (stream : Stream) (i : Instant) :
    piecesRead stream (h ++ [i]) = piecesRead stream h ++ s.gets stream i := by
  rw [Engine.piecesRead_concat, hb.gets_eq]

/-- The books are complete when the history is. -/
theorem isComplete_iff (hb : Books h s) : s.isComplete = true ↔ IsComplete h := by
  rw [isComplete, hb.outOpen, hb.errOpen, hb.waited, Bool.not_not, Bool.not_not,
    Bool.and_eq_true, Bool.and_eq_true, and_assoc]
  rfl

/-- The ends of an instant, entered, make the books of the longer history. -/
theorem passed (hb : Books h s) (i : Instant) : Books (h ++ [i]) (s.passed i) where
  outOpen := by
    rw [passed_outOpen, hasEnded_concat, hb.outOpen]
    cases (arrival .out i).ending.isSome <;> cases hasEnded .out h <;> rfl
  errOpen := by
    rw [passed_errOpen, hasEnded_concat, hb.errOpen]
    cases (arrival .err i).ending.isSome <;> cases hasEnded .err h <;> rfl
  waited := by
    rw [passed_waited, processEnd_concat, hb.waited]

/-- Showing progress does not touch the books, nor does settling. -/
theorem showing (hb : Books h s) (pieces : List (List Octet)) : Books h (s.showing pieces) := by
  unfold Supervisor.showing
  split
  · exact hb
  · exact ⟨hb.outOpen, hb.errOpen, hb.waited⟩

theorem settle (hb : Books h s) (r : Ruling) : Books h (s.settle r) :=
  ⟨hb.outOpen, hb.errOpen, hb.waited⟩

end Books

/-! ## Frozen runs -/

/-- A settled run is frozen: an instant enters its ends, and shows nothing. -/
theorem Supervisor.step_of_settled {s : Supervisor} (ho : s.outcome.isSome = true)
    (ha : s.indicator.active = false) (i : Instant) :
    (s.step i).1 = s.passed i ∧ Effect.shown (s.step i).2 = [] := by
  obtain ⟨hstate, hshown⟩ := takeIn_of_settled ho i
  have hop : (s.passed i).outcome.isSome = true := by rw [passed_outcome, ho]
  have hap : (s.passed i).indicator.active = false := by rw [passed_indicator, ha]
  obtain ⟨hconcl, hquiet⟩ := conclude_of_settled hop hap s.isComplete
  rw [step_eq, Act.andThen, hstate, hconcl, Effect.shown_append, hshown, hquiet]
  exact ⟨rfl, rfl⟩

/-! ## One instant -/

namespace Reflects

variable {own : Bool} {start : Indicator} {h : List Instant} {s : Supervisor}

/-- A process that was just started reflects the empty history. -/
theorem started (own : Bool) (ha : start.active = true) :
    Reflects own start [] (Supervisor.started own start) where
  books := ⟨rfl, rfl, rfl⟩
  outcome := rfl
  phase := rfl
  active := ha
  consoles := rfl
  text := fun _ => rfl

theorem rulingOf_eq_none (hr : Reflects own start h s) (ho : s.outcome = none) :
    rulingOf h = none := by
  rw [hr.outcome] at ho
  exact Option.map_eq_none_iff.mp ho

theorem active_of_open (hr : Reflects own start h s) (ho : s.outcome = none) :
    s.indicator.active = true := by
  rw [hr.active, ho]
  rfl

theorem inactive_of_settled (hr : Reflects own start h s) (ho : s.outcome.isSome = true) :
    s.indicator.active = false := by
  obtain ⟨o, hso⟩ := Option.isSome_iff_exists.mp ho
  rw [hr.active, hso]
  rfl

/-- An instant with diagnostics settles an open run by their first piece: the
first half of the instant does it, and the judge finds the run settled. -/
theorem step_of_diagnostics (hr : Reflects own start h s) (ho : s.outcome = none) {i : Instant}
    {p : List Octet} {rest : List (List Octet)} (hg : s.gets .err i = p :: rest) :
    ∃ pieces, pieces ⊆ s.gets .out i ∧
      (s.step i).1 = ((s.showing pieces).settle (.diagnosed p)).passed i ∧
      Effect.shown (s.step i).2 =
        Effect.shown ((Ruling.diagnosed p).lines ⟨own, start.console⟩) := by
  obtain ⟨pieces, hpieces, hstate, hshown⟩ := takeIn_of_cons ho hg
  have hsome : (((s.showing pieces).settle (.diagnosed p)).passed i).outcome.isSome = true := by
    rw [passed_outcome]
    rfl
  have hrest : (((s.showing pieces).settle (.diagnosed p)).passed i).indicator.active = false := by
    rw [passed_indicator]
    exact Indicator.stop_active _
  obtain ⟨hconcl, hquiet⟩ := conclude_of_settled hsome hrest s.isComplete
  refine ⟨pieces, hpieces, ?_, ?_⟩
  · rw [step_eq, Act.andThen, hstate, hconcl]
  · rw [step_eq, Act.andThen, hstate, Effect.shown_append, hshown, hquiet, List.append_nil,
      hr.consoles]

/-- An instant without diagnostics shows its progress; and if everything has
come to its end with it, the judge settles the run. -/
theorem step_of_silence (hr : Reflects own start h s) (ho : s.outcome = none) {i : Instant}
    (hg : s.gets .err i = []) :
    (¬ IsComplete (h ++ [i]) ∧ (s.step i).1 = (s.showing (s.gets .out i)).passed i ∧
      Effect.shown (s.step i).2 = []) ∨
    (IsComplete (h ++ [i]) ∧ ∃ w, processEnd (h ++ [i]) = some w ∧
      (s.step i).1 = ((s.showing (s.gets .out i)).settle (.ended w)).passed i ∧
      Effect.shown (s.step i).2 = Effect.shown ((Ruling.ended w).lines ⟨own, start.console⟩)) := by
  obtain ⟨hstate, hshown⟩ := takeIn_of_nil hg
  have hbooks : Books (h ++ [i]) ((s.showing (s.gets .out i)).passed i) :=
    (hr.books.showing _).passed i
  cases hc : ((s.showing (s.gets .out i)).passed i).isComplete with
  | false =>
    refine Or.inl ⟨?_, ?_, ?_⟩
    · rw [← hbooks.isComplete_iff, hc]
      exact Bool.false_ne_true
    · rw [step_eq, Act.andThen, hstate, conclude_of_not_isComplete hc]
      rfl
    · rw [step_eq, Act.andThen, hstate, conclude_of_not_isComplete hc, Effect.shown_append, hshown]
      rfl
  | true =>
    -- Had everything ended before, the run would be settled.
    have hbefore : s.isComplete = false := by
      refine Bool.eq_false_iff.mpr fun hs => ?_
      exact (rulingOf_eq_none_iff.mp (hr.rulingOf_eq_none ho)).2 (hr.books.isComplete_iff.mp hs)
    have hnone : ((s.showing (s.gets .out i)).passed i).outcome = none := by
      rw [passed_outcome, showing_outcome, ho]
    have hactive : ((s.showing (s.gets .out i)).passed i).indicator.active = true := by
      rw [passed_indicator, showing_active, hr.active_of_open ho]
    obtain ⟨w, hw, hconcl, hlines⟩ := conclude_of_isComplete hnone hactive hc
    refine Or.inr ⟨hbooks.isComplete_iff.mp hc, w, ?_, ?_, ?_⟩
    · rw [← hbooks.waited, hw]
    · rw [step_eq, Act.andThen, hstate, hbefore, hconcl, settle_passed]
    · rw [step_eq, Act.andThen, hstate, hbefore, Effect.shown_append, hshown, hlines,
        List.nil_append, passed_consoles, showing_consoles, hr.consoles]

/-- **What an instant can do.** A settled run is frozen. An open one shows its
progress and stays open as long as the history has no ruling; and the instant
that brings the ruling settles the run by it, and shows its report. -/
theorem step_cases (hr : Reflects own start h s) (i : Instant) :
    (s.outcome.isSome = true ∧ (s.step i).1 = s.passed i ∧ Effect.shown (s.step i).2 = []) ∨
    (s.outcome = none ∧ rulingOf (h ++ [i]) = none ∧
      (s.step i).1 = (s.showing (s.gets .out i)).passed i ∧ Effect.shown (s.step i).2 = []) ∨
    (s.outcome = none ∧ ∃ r pieces, rulingOf (h ++ [i]) = some r ∧ pieces ⊆ s.gets .out i ∧
      (s.step i).1 = ((s.showing pieces).settle r).passed i ∧
      Effect.shown (s.step i).2 = Effect.shown (r.lines ⟨own, start.console⟩)) := by
  cases ho : s.outcome with
  | some o =>
    have hsome : s.outcome.isSome = true := Option.isSome_of_eq_some ho
    exact Or.inl ⟨rfl, step_of_settled hsome (hr.inactive_of_settled hsome) i⟩
  | none =>
    -- An open run has read no diagnostics, so its next ruling depends on what
    -- this instant has of them.
    have hread : piecesRead .err (h ++ [i]) = s.gets .err i := by
      have hnil := (rulingOf_eq_none_iff.mp (hr.rulingOf_eq_none ho)).1
      rw [hr.books.piecesRead_concat, hnil, List.nil_append]
    cases hg : s.gets .err i with
    | cons p rest =>
      obtain ⟨pieces, hpieces, hstate, hshown⟩ := hr.step_of_diagnostics ho hg
      have hrule : rulingOf (h ++ [i]) = some (.diagnosed p) := rulingOf_of_cons (hread.trans hg)
      exact Or.inr (Or.inr ⟨rfl, .diagnosed p, pieces, hrule, hpieces, hstate, hshown⟩)
    | nil =>
      rcases hr.step_of_silence ho hg with ⟨hc, hstate, hshown⟩ | ⟨hc, w, hw, hstate, hshown⟩
      · have hrule : rulingOf (h ++ [i]) = none := rulingOf_eq_none_iff.mpr ⟨hread.trans hg, hc⟩
        exact Or.inr (Or.inl ⟨rfl, hrule, hstate, hshown⟩)
      · have hrule : rulingOf (h ++ [i]) = some (.ended w) :=
          rulingOf_of_isComplete (hread.trans hg) hc hw
        exact Or.inr (Or.inr ⟨rfl, .ended w, _, hrule, List.Subset.refl _, hstate, hshown⟩)

/-- **An instant keeps the invariant.** -/
theorem step (hr : Reflects own start h s) (i : Instant) :
    Reflects own start (h ++ [i]) (s.step i).1 := by
  rcases hr.step_cases i with ⟨ho, hstate, -⟩ | ⟨ho, hrule, hstate, -⟩ |
    ⟨ho, r, pieces, hrule, -, hstate, -⟩
  · -- Frozen: only the books move, and the ruling stands.
    rw [hstate]
    obtain ⟨o, hso⟩ := Option.isSome_iff_exists.mp ho
    obtain ⟨r, hrule, -⟩ := Option.map_eq_some_iff.mp (hr.outcome.symm.trans hso)
    exact {
      books := hr.books.passed i
      outcome := by rw [passed_outcome, hr.outcome, hrule, rulingOf_append hrule]
      phase := by rw [passed_phase, passed_outcome, hr.phase]
      active := by rw [passed_indicator, passed_outcome, hr.active]
      consoles := by rw [passed_consoles, hr.consoles]
      text := fun hnone => by rw [passed_outcome, hso] at hnone; cases hnone }
  · -- Still open: the text moves with what has been read.
    rw [hstate]
    exact {
      books := (hr.books.showing _).passed i
      outcome := by rw [passed_outcome, showing_outcome, ho, hrule]; rfl
      phase := by rw [passed_phase, showing_phase, passed_outcome, showing_outcome, hr.phase]
      active := by rw [passed_indicator, showing_active, passed_outcome, showing_outcome, hr.active]
      consoles := by rw [passed_consoles, showing_consoles, hr.consoles]
      text := fun _ => by
        rw [passed_indicator, showing_text ho (hr.active_of_open ho), hr.text ho,
          hr.books.piecesRead_concat, textAfter_append] }
  · -- Settled in this instant: of the text nothing is said from here on.
    rw [hstate]
    exact {
      books := ((hr.books.showing pieces).settle r).passed i
      outcome := by rw [passed_outcome, hrule]; rfl
      phase := by rw [passed_phase, passed_outcome]; rfl
      active := by rw [passed_indicator, passed_outcome]; exact Indicator.stop_active _
      consoles := by rw [passed_consoles, settle_consoles, showing_consoles, hr.consoles]
      text := fun hnone => by rw [passed_outcome] at hnone; cases hnone }

end Reflects

end SynthDesk.Engine
