/-
One instant of a supervised process.

An instant has two halves: what arrived is taken in, stream by stream, and then
the judge may speak. Which stream comes first depends on the instant; what the
first half leaves does not, up to the text of an indicator that stops in it.
-/
import SynthDesk.Proofs.Engine.Acts

set_option autoImplicit false

namespace SynthDesk.Engine.Supervisor

/-! ## Taking in

The ends of the streams and of the process are entered whatever else happens,
so `passed` is split off from what the pieces do. -/

/-- The ends that fall into an instant, entered. -/
def passed (i : Instant) (s : Supervisor) : Supervisor := ((s.pass .out i).pass .err i).account i

/-- The first half of an instant. -/
def takeIn (i : Instant) (s : Supervisor) : Act :=
  ((receive (readingOrder i).1 (arrival (readingOrder i).1 i) s).andThen
    (receive (readingOrder i).2 (arrival (readingOrder i).2 i))).andThen
    fun s' => (s'.account i).quiet

theorem step_eq (s : Supervisor) (i : Instant) :
    s.step i = (s.takeIn i).andThen (conclude s.isComplete) := rfl

/-- Progress or diagnostics come first; there is no third order. -/
theorem readingOrder_eq (i : Instant) :
    readingOrder i = (.out, .err) ∨ readingOrder i = (.err, .out) := by
  rw [readingOrder]
  cases firstStream i with
  | out => exact Or.inl rfl
  | err => exact Or.inr rfl

@[simp] theorem pass_outcome (s : Supervisor) (stream : Stream) (i : Instant) :
    (s.pass stream i).outcome = s.outcome := by
  unfold pass
  split
  · cases stream <;> rfl
  · rfl

@[simp] theorem pass_indicator (s : Supervisor) (stream : Stream) (i : Instant) :
    (s.pass stream i).indicator = s.indicator := by
  unfold pass
  split
  · cases stream <;> rfl
  · rfl

@[simp] theorem pass_consoles (s : Supervisor) (stream : Stream) (i : Instant) :
    (s.pass stream i).consoles = s.consoles := by
  unfold pass
  split
  · cases stream <;> rfl
  · rfl

theorem pass_pass (s : Supervisor) (i : Instant) :
    (s.pass .err i).pass .out i = (s.pass .out i).pass .err i := by
  unfold pass
  split <;> split <;> rfl

theorem settle_pass (s : Supervisor) (stream : Stream) (i : Instant) (r : Ruling) :
    (s.pass stream i).settle r = (s.settle r).pass stream i := by
  unfold pass
  split
  · cases stream <;> rfl
  · rfl

theorem showing_pass (s : Supervisor) (stream : Stream) (i : Instant)
    (pieces : List (List Octet)) :
    (s.pass stream i).showing pieces = (s.showing pieces).pass stream i := by
  unfold showing
  rw [pass_outcome]
  split
  · rfl
  · unfold pass
    split
    · cases stream <;> rfl
    · rfl

/-! Entering the ends of an instant moves the books and leaves the rest alone. -/

theorem passed_outOpen (s : Supervisor) (i : Instant) :
    (s.passed i).outOpen = if (arrival .out i).ending.isSome then false else s.outOpen := by
  unfold passed account pass
  split <;> split <;> rfl

theorem passed_errOpen (s : Supervisor) (i : Instant) :
    (s.passed i).errOpen = if (arrival .err i).ending.isSome then false else s.errOpen := by
  unfold passed account pass
  split <;> split <;> rfl

theorem passed_waited (s : Supervisor) (i : Instant) :
    (s.passed i).waited = s.waited.or (endIn i) := by
  unfold passed account pass
  split <;> split <;> rfl

@[simp] theorem passed_outcome (s : Supervisor) (i : Instant) :
    (s.passed i).outcome = s.outcome := by
  simp only [passed, account, pass_outcome]

@[simp] theorem passed_indicator (s : Supervisor) (i : Instant) :
    (s.passed i).indicator = s.indicator := by
  simp only [passed, account, pass_indicator]

@[simp] theorem passed_consoles (s : Supervisor) (i : Instant) :
    (s.passed i).consoles = s.consoles := by
  unfold passed account pass
  split <;> split <;> rfl

@[simp] theorem passed_phase (s : Supervisor) (i : Instant) : (s.passed i).phase = s.phase := by
  unfold passed account pass
  split <;> split <;> rfl

theorem settle_passed (s : Supervisor) (i : Instant) (r : Ruling) :
    (s.passed i).settle r = (s.settle r).passed i := by
  rw [passed, passed, ← settle_pass, ← settle_pass]
  rfl

/-! What one stream gets does not depend on what was done for the other. -/

theorem gets_out_pass_err (s : Supervisor) (i : Instant) :
    (s.pass .err i).gets .out i = s.gets .out i := by
  unfold gets pass
  split <;> rfl

theorem gets_err_pass_out (s : Supervisor) (i : Instant) :
    (s.pass .out i).gets .err i = s.gets .err i := by
  unfold gets pass
  split <;> rfl

theorem gets_showing (s : Supervisor) (pieces : List (List Octet)) (stream : Stream)
    (i : Instant) : (s.showing pieces).gets stream i = s.gets stream i := by
  unfold showing
  split
  · rfl
  · cases stream <;> rfl

/-- Notes leave nothing on the screen. -/
theorem shown_map_progressNote (pieces : List (List Octet)) :
    Effect.shown (pieces.map progressNote) = [] := by
  induction pieces with
  | nil => rfl
  | cons p r ih => exact ih

theorem shown_map_lateNote (pieces : List (List Octet)) :
    Effect.shown (pieces.map lateNote) = [] := by
  induction pieces with
  | nil => rfl
  | cons p r ih => exact ih

/-- A settled run takes in an instant without a change but to what has ended. -/
theorem takeIn_of_settled {s : Supervisor} (h : s.outcome.isSome = true) (i : Instant) :
    (s.takeIn i).1 = s.passed i ∧ Effect.shown (s.takeIn i).2 = [] := by
  have hout : (s.pass .out i).outcome.isSome = true := by rw [pass_outcome]; exact h
  have herr : (s.pass .err i).outcome.isSome = true := by rw [pass_outcome]; exact h
  rcases readingOrder_eq i with ho | ho
  · simp only [takeIn, ho, Act.andThen, quiet, receive_out, showing_of_settled h,
      receive_err_of_settled hout, Effect.shown_append, shown_map_progressNote,
      shown_map_lateNote, passed, true_and]
    rfl
  · simp only [takeIn, ho, Act.andThen, quiet, receive_err_of_settled h, receive_out,
      showing_of_settled herr, Effect.shown_append, shown_map_progressNote,
      shown_map_lateNote, passed, pass_pass, true_and]
    rfl

/-- Without diagnostics an instant shows its progress. -/
theorem takeIn_of_nil {s : Supervisor} {i : Instant} (h : s.gets .err i = []) :
    (s.takeIn i).1 = (s.showing (s.gets .out i)).passed i ∧ Effect.shown (s.takeIn i).2 = [] := by
  have hnil : ((s.showing (s.gets .out i)).pass .out i).gets .err i = [] := by
    rw [gets_err_pass_out, gets_showing, h]
  rcases readingOrder_eq i with ho | ho
  · simp only [takeIn, ho, Act.andThen, quiet, receive_out, receive_err_of_nil hnil,
      Effect.shown_append, shown_map_progressNote, passed, true_and]
    rfl
  · simp only [takeIn, ho, Act.andThen, quiet, receive_err_of_nil h, receive_out,
      gets_out_pass_err, showing_pass, Effect.shown_append, shown_map_progressNote, passed,
      pass_pass, true_and]
    rfl

/-- **Diagnostics settle the instant.** Progress that was first to arrive in the
same instant has been shown before, so the text can be that of some pieces. -/
theorem takeIn_of_cons {s : Supervisor} {i : Instant} (hs : s.outcome = none) {p : List Octet}
    {r : List (List Octet)} (h : s.gets .err i = p :: r) :
    ∃ pieces, pieces ⊆ s.gets .out i ∧
      (s.takeIn i).1 = ((s.showing pieces).settle (.diagnosed p)).passed i ∧
      Effect.shown (s.takeIn i).2 =
        Effect.shown ((Ruling.diagnosed p).lines s.consoles) := by
  rcases readingOrder_eq i with ho | ho
  · -- Progress is read first, and the run is still open when the diagnostics come.
    refine ⟨s.gets .out i, List.Subset.refl _, ?_⟩
    have hnone : ((s.showing (s.gets .out i)).pass .out i).outcome = none := by
      rw [pass_outcome, showing_outcome, hs]
    have hcons : ((s.showing (s.gets .out i)).pass .out i).gets .err i = p :: r := by
      rw [gets_err_pass_out, gets_showing, h]
    have hconsoles : ((s.showing (s.gets .out i)).pass .out i).consoles = s.consoles := by
      rw [pass_consoles, showing_consoles]
    simp only [takeIn, ho, Act.andThen, quiet, receive_out, receive_err_of_cons hnone hcons,
      hconsoles, settle_pass, Effect.shown_append, shown_map_progressNote, diagnosticsNote,
      shown_note_cons, shown_map_lateNote, passed, List.nil_append, List.append_nil, and_self]
  · -- The diagnostics are read first, and progress finds the run settled.
    refine ⟨[], List.nil_subset _, ?_⟩
    have hsettled : ((s.settle (.diagnosed p)).pass .err i).outcome.isSome = true := by
      rw [pass_outcome]
      rfl
    simp only [takeIn, ho, Act.andThen, quiet, receive_err_of_cons hs h, receive_out,
      showing_of_settled hsettled, showing_nil, Effect.shown_append, shown_map_progressNote,
      diagnosticsNote, shown_note_cons, shown_map_lateNote, passed, pass_pass, List.append_nil,
      and_self]

/-! ## Concluding -/

/-- In a settled run the judge changes nothing and shows nothing. -/
theorem conclude_of_settled {s : Supervisor} (ho : s.outcome.isSome = true)
    (ha : s.indicator.active = false) (before : Bool) :
    (conclude before s).1 = s ∧ Effect.shown (conclude before s).2 = [] := by
  unfold conclude
  split
  case h_1 w hw =>
    split
    · rw [judge_of_settled ho ha]
      cases w <;> exact ⟨rfl, rfl⟩
    · exact ⟨rfl, rfl⟩
  case h_2 => exact ⟨rfl, rfl⟩

/-- While something has not ended the judge is silent. -/
theorem conclude_of_not_isComplete {s : Supervisor} (h : s.isComplete = false) (before : Bool) :
    conclude before s = s.quiet := by
  unfold conclude
  split
  · simp only [h, Bool.false_and, Bool.false_eq_true, if_false]
  · rfl

/-- **The judge settles an open run** once everything has come to its end. -/
theorem conclude_of_isComplete {s : Supervisor} (ho : s.outcome = none)
    (ha : s.indicator.active = true) (hc : s.isComplete = true) :
    ∃ w, s.waited = some w ∧ (conclude false s).1 = s.settle (.ended w) ∧
      Effect.shown (conclude false s).2 =
        Effect.shown ((Ruling.ended w).lines s.consoles) := by
  have hsome : s.waited.isSome = true := (Bool.and_eq_true_iff.mp hc).2
  obtain ⟨w, hw⟩ := Option.isSome_iff_exists.mp hsome
  refine ⟨w, hw, ?_⟩
  have hj : conclude false s = judge w s := by
    simp only [conclude, hw, hc, Bool.not_false, Bool.and_self, if_true]
  rw [hj, judge_of_open ho ha]
  cases w <;> exact ⟨rfl, rfl⟩

end SynthDesk.Engine.Supervisor
