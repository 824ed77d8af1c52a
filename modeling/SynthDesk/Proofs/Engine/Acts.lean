/-
What each act of the supervisor leaves.

Every act is given by one equation: the supervisor afterwards, and all effects
in order. There are two kinds of supervisor, one whose outcome is open and one
that is settled, and an act does different things to them; so most acts have
two equations. Later modules use these and do not open the acts again.
-/
import SynthDesk.Proofs.Engine.Ruling

set_option autoImplicit false

namespace SynthDesk.Engine

/-! ## Lines of a ruling -/

/-- The effects that put a report on the screen, as far as there are consoles. -/
def Ruling.lines (c : Consoles) (r : Ruling) : List Effect :=
  (r.reportOn c).map fun l => .shows (.status l)

theorem Ruling.shown_lines (c : Consoles) (r : Ruling) :
    Effect.shown (r.lines c) = (r.reportOn c).map .status := by
  simp only [lines, Effect.shown, List.filterMap_map]
  exact congrFun List.filterMap_eq_map (r.reportOn c)

/-! The lines of each ruling, those of one console after those of the other. -/

theorem Ruling.lines_diagnosed (c : Consoles) (p : List Octet) :
    (diagnosed p).lines c =
      if c.executor then [.line .error (Supervisor.diagnosticsMessage (Utf8.decodeLossy p))]
      else [] := by
  obtain ⟨executor, indicator⟩ := c
  cases executor <;> rfl

theorem Ruling.lines_success (c : Consoles) :
    (ended (.status 0)).lines c =
      (if c.indicator then [.line .success Supervisor.successMessage] else []) ++
        if c.executor then [.line .info Supervisor.whereToLook] else [] := by
  obtain ⟨executor, indicator⟩ := c
  cases executor <;> cases indicator <;> rfl

theorem Ruling.lines_badStatus (c : Consoles) {n : Int} (hn : n ≠ 0) :
    (ended (.status n)).lines c =
      if c.indicator then [.line .error (Supervisor.statusMessage n)] else [] := by
  obtain ⟨executor, indicator⟩ := c
  simp only [lines, reportOn, told, if_neg hn]
  cases indicator <;> rfl

theorem Ruling.lines_lost (c : Consoles) (m : Mishap) :
    (ended (.lost m)).lines c =
      if c.indicator then [.line .error (Supervisor.lostMessage m)] else [] := by
  obtain ⟨executor, indicator⟩ := c
  cases indicator <;> rfl

namespace Supervisor

/-! ## Notes -/

theorem shown_note_cons (level : Log.Level) (message : Text) (es : List Effect) :
    Effect.shown (note level message :: es) = Effect.shown es := rfl

/-- The note of a piece of progress. -/
def progressNote (piece : List Octet) : Effect :=
  note .debug (Text.ofString "engine: " ++ (Utf8.decodeLossy piece).strip)

/-- The note of the diagnostics that settle a run. -/
def diagnosticsNote (piece : List Octet) : Effect :=
  note .info (Text.ofString "Engine stderr: " ++ (Utf8.decodeLossy piece).strip)

/-- The note of diagnostics that come too late. -/
def lateNote (piece : List Octet) : Effect :=
  note .debug (Text.ofString "engine stderr after resolution: " ++ (Utf8.decodeLossy piece).strip)

/-- The note of the end of the process. -/
def endNote : Waited → Effect
  | .status n => note .info (Text.ofString "Engine exited with code " ++ Text.ofInt n)
  | .lost m => lostNote m

/-- What is noted about the end of the process in a run that is settled. -/
def lateEndNotes : Waited → List Effect
  | .status n => [endNote (.status n)]
  | .lost m => [endNote (.lost m), note .debug (Text.ofString "Ignoring late engine event: " ++
      (Outcome.failed m.message none).inLog)]

/-! ## Settling and showing -/

/-- **Settled by a ruling.** Outcome, phase and indicator change together. -/
def settle (r : Ruling) (s : Supervisor) : Supervisor :=
  { s with phase := r.outcome.phase, outcome := some r.outcome, indicator := s.indicator.stop }

@[simp] theorem settle_consoles (s : Supervisor) (r : Ruling) :
    (s.settle r).consoles = s.consoles :=
  congrArg (Consoles.mk s.console) (Indicator.stop_console _)

/-- Pieces of progress shown by an indicator, one after another. -/
def progress (pieces : List (List Octet)) (i : Indicator) : Indicator :=
  pieces.foldl (fun i p => i.update (Utf8.decodeLossy p).strip) i

theorem progress_active (pieces : List (List Octet)) (i : Indicator) :
    (progress pieces i).active = i.active := by
  induction pieces generalizing i with
  | nil => rfl
  | cons p r ih => exact (ih _).trans (Indicator.update_active ..)

theorem progress_console (pieces : List (List Octet)) (i : Indicator) :
    (progress pieces i).console = i.console := by
  induction pieces generalizing i with
  | nil => rfl
  | cons p r ih => exact (ih _).trans (Indicator.update_console ..)

/-- The text after pieces of progress: the last of them without the blanks
around it, and the text before where there is none. -/
def textAfter (t : Text) (pieces : List (List Octet)) : Text :=
  (pieces.getLast?.map fun p => (Utf8.decodeLossy p).strip).getD t

theorem textAfter_append (t : Text) (a b : List (List Octet)) :
    textAfter t (a ++ b) = textAfter (textAfter t a) b := by
  simp only [textAfter, List.getLast?_append]
  cases b.getLast? with
  | none => rfl
  | some p => rfl

/-- An active indicator has the text of the last piece. -/
theorem progress_text {i : Indicator} (h : i.active = true) (pieces : List (List Octet)) :
    (progress pieces i).text = textAfter i.text pieces := by
  induction pieces generalizing i with
  | nil => rfl
  | cons p r ih =>
    have hu : (i.update (Utf8.decodeLossy p).strip).active = true := by
      rw [Indicator.update_active, h]
    have ht : (i.update (Utf8.decodeLossy p).strip).text = textAfter i.text [p] := by
      rw [Indicator.update, h]
      rfl
    calc
      (progress r (i.update (Utf8.decodeLossy p).strip)).text
        = textAfter (i.update (Utf8.decodeLossy p).strip).text r := ih hu
      _ = textAfter i.text ([p] ++ r) := by rw [ht, ← textAfter_append]

/-- Pieces of progress shown, while the outcome is open. -/
def showing (pieces : List (List Octet)) (s : Supervisor) : Supervisor :=
  if s.outcome.isSome then s else { s with indicator := progress pieces s.indicator }

theorem showing_of_settled {s : Supervisor} (h : s.outcome.isSome = true)
    (pieces : List (List Octet)) : s.showing pieces = s := by
  rw [showing, if_pos h]

@[simp] theorem showing_outcome (s : Supervisor) (pieces : List (List Octet)) :
    (s.showing pieces).outcome = s.outcome := by
  unfold showing
  split <;> rfl

@[simp] theorem showing_phase (s : Supervisor) (pieces : List (List Octet)) :
    (s.showing pieces).phase = s.phase := by
  unfold showing
  split <;> rfl

@[simp] theorem showing_consoles (s : Supervisor) (pieces : List (List Octet)) :
    (s.showing pieces).consoles = s.consoles := by
  unfold showing
  split
  · rfl
  · exact congrArg (Consoles.mk s.console) (progress_console ..)

@[simp] theorem showing_active (s : Supervisor) (pieces : List (List Octet)) :
    (s.showing pieces).indicator.active = s.indicator.active := by
  unfold showing
  split
  · rfl
  · exact progress_active ..

theorem showing_text {s : Supervisor} (ho : s.outcome = none) (ha : s.indicator.active = true)
    (pieces : List (List Octet)) :
    (s.showing pieces).indicator.text = textAfter s.indicator.text pieces := by
  rw [showing, ho]
  exact progress_text ha pieces

theorem showing_nil (s : Supervisor) : s.showing [] = s := by
  unfold showing
  split <;> rfl

theorem showing_cons (s : Supervisor) (p : List Octet) (r : List (List Octet)) :
    s.showing (p :: r) = (s.showing [p]).showing r := by
  cases ho : s.outcome with
  | some o =>
    have hs : s.outcome.isSome = true := Option.isSome_of_eq_some ho
    rw [showing_of_settled hs, showing_of_settled hs, showing_of_settled hs]
  | none => simp [showing, ho, progress]

/-! ## Reading -/

theorem readOut_eq (s : Supervisor) (p : List Octet) :
    s.readOut p = (s.showing [p], [progressNote p]) := rfl

/-- Progress is noted piece by piece, and shown while the outcome is open. -/
theorem readPieces_out (pieces : List (List Octet)) (s : Supervisor) :
    readPieces .out pieces s = (s.showing pieces, pieces.map progressNote) := by
  induction pieces generalizing s with
  | nil => rw [showing_nil]; rfl
  | cons p r ih =>
    simp only [readPieces, readPiece, Act.andThen, readOut_eq, ih, ← showing_cons]
    rfl

/-- The first diagnostics settle the run. -/
theorem readErr_of_open {s : Supervisor} (h : s.outcome = none) (p : List Octet) :
    s.readErr p = (s.settle (.diagnosed p),
      (Ruling.diagnosed p).lines s.consoles ++ [diagnosticsNote p]) := by
  simp only [readErr, h, Option.isSome_none, Bool.false_eq_true, if_false, Act.andThen, resolve,
    List.append_nil, Ruling.lines_diagnosed]
  rfl

theorem readErr_of_settled {s : Supervisor} (h : s.outcome.isSome = true) (p : List Octet) :
    s.readErr p = (s, [lateNote p]) := by
  rw [readErr, if_pos h]
  rfl

/-- Diagnostics in a settled run are noted, and that is all. -/
theorem readPieces_err_of_settled {s : Supervisor} (h : s.outcome.isSome = true)
    (pieces : List (List Octet)) : readPieces .err pieces s = (s, pieces.map lateNote) := by
  induction pieces with
  | nil => rfl
  | cons p r ih =>
    simp only [readPieces, readPiece, Act.andThen, readErr_of_settled h, ih]
    rfl

/-- Of several pieces the first settles the run, and the others are too late. -/
theorem readPieces_err_of_open {s : Supervisor} (h : s.outcome = none) (p : List Octet)
    (r : List (List Octet)) :
    readPieces .err (p :: r) s = (s.settle (.diagnosed p),
      (Ruling.diagnosed p).lines s.consoles ++ diagnosticsNote p :: r.map lateNote) := by
  have hs : (s.settle (.diagnosed p)).outcome.isSome = true := rfl
  simp only [readPieces, readPiece, Act.andThen, readErr_of_open h,
    readPieces_err_of_settled hs, List.append_assoc, List.singleton_append]

/-! ## Receiving -/

/-- The pieces that a stream gives in an instant: none once it has ended. -/
def gets (s : Supervisor) (stream : Stream) (i : Instant) : List (List Octet) :=
  if s.isOpen stream then (arrival stream i).pieces else []

/-- The stream has ended, if the instant ends it. -/
def pass (stream : Stream) (i : Instant) (s : Supervisor) : Supervisor :=
  if (arrival stream i).ending.isSome then s.close stream else s

theorem close_of_not_isOpen {s : Supervisor} {stream : Stream} (h : s.isOpen stream = false) :
    s.close stream = s := by
  cases stream with
  | out => rw [close, ← (show s.outOpen = false from h)]
  | err => rw [close, ← (show s.errOpen = false from h)]

/-- Receiving is reading what there is, and then taking note of the end. -/
theorem receive_eq (stream : Stream) (i : Instant) (s : Supervisor) :
    receive stream (arrival stream i) s =
      (readPieces stream (s.gets stream i) s).andThen fun s => (s.pass stream i).quiet := by
  cases ho : s.isOpen stream with
  | true => simp only [receive, gets, ho, if_true, pass]
  | false =>
    -- An ended stream gives nothing, and it cannot end again.
    have hpass : s.pass stream i = s := by
      rw [pass, close_of_not_isOpen ho, ite_self]
    simp [receive, gets, ho, readPieces, Act.andThen, quiet, hpass]

theorem receive_out (i : Instant) (s : Supervisor) :
    receive .out (arrival .out i) s =
      ((s.showing (s.gets .out i)).pass .out i, (s.gets .out i).map progressNote) := by
  rw [receive_eq, readPieces_out]
  simp only [Act.andThen, quiet, List.append_nil]

theorem receive_err_of_settled {s : Supervisor} (h : s.outcome.isSome = true) (i : Instant) :
    receive .err (arrival .err i) s = (s.pass .err i, (s.gets .err i).map lateNote) := by
  rw [receive_eq, readPieces_err_of_settled h]
  simp only [Act.andThen, quiet, List.append_nil]

theorem receive_err_of_nil {s : Supervisor} {i : Instant} (h : s.gets .err i = []) :
    receive .err (arrival .err i) s = (s.pass .err i, []) := by
  rw [receive_eq, h]
  rfl

theorem receive_err_of_cons {s : Supervisor} {i : Instant} (ho : s.outcome = none)
    {p : List Octet} {r : List (List Octet)} (h : s.gets .err i = p :: r) :
    receive .err (arrival .err i) s =
      ((s.settle (.diagnosed p)).pass .err i,
        (Ruling.diagnosed p).lines s.consoles ++ diagnosticsNote p :: r.map lateNote) := by
  rw [receive_eq, h, readPieces_err_of_open ho]
  simp only [Act.andThen, quiet, List.append_nil]

/-! ## Judging -/

/-- The judge settles an open run by the end of the process. -/
theorem judge_of_open {s : Supervisor} (ho : s.outcome = none)
    (ha : s.indicator.active = true) (w : Waited) :
    judge w s = (s.settle (.ended w), endNote w :: (Ruling.ended w).lines s.consoles) := by
  cases w with
  | status n =>
    by_cases hn : n = 0
    · subst hn
      simp only [judge, Act.andThen, ho, Option.isSome_none, Bool.false_eq_true, if_false, if_true,
        finish, Indicator.finish, ha, Bool.true_and, say, resolve, Ruling.lines_success,
        List.append_nil]
      rfl
    · simp only [judge, Act.andThen, ho, Option.isSome_none, Bool.false_eq_true, if_false, hn,
        finish, Indicator.finish, ha, Bool.true_and, resolve, Ruling.lines_badStatus _ hn,
        List.append_nil, settle, Ruling.outcome]
      rfl
  | lost m =>
    simp only [judge, Act.andThen, ho, finish, Indicator.finish, ha, Bool.true_and, resolve,
      Ruling.lines_lost, List.append_nil]
    rfl

/-- What comes too late to settle a run is noted. -/
theorem resolve_of_settled {s : Supervisor} (h : s.outcome.isSome = true) (o : Outcome) :
    resolve o s = (s, [note .debug (Text.ofString "Ignoring late engine event: " ++ o.inLog)]) := by
  obtain ⟨o', ho'⟩ := Option.isSome_iff_exists.mp h
  rw [resolve, ho']

/-- An indicator at rest ends nothing and says nothing. -/
theorem finish_of_inactive {s : Supervisor} (h : s.indicator.active = false)
    (kind : Console.StatusKind) (message : Text) : finish kind message s = (s, []) := by
  rw [finish, Indicator.finish, Indicator.stop_of_inactive h, h]
  rfl

/-- In a settled run the judge's word is noted, and that is all. -/
theorem judge_of_settled {s : Supervisor} (ho : s.outcome.isSome = true)
    (ha : s.indicator.active = false) (w : Waited) : judge w s = (s, lateEndNotes w) := by
  cases w with
  | status n =>
    simp only [judge, Act.andThen, ho, if_true]
    rfl
  | lost m =>
    -- The judge turns to the indicator before it looks at the outcome; only
    -- because the indicator is at rest does no second line appear.
    simp only [judge, Act.andThen, finish_of_inactive ha, resolve_of_settled ho]
    rfl

/-! ## The judge's words -/

theorem Act.mem_andThen {a : Act} {next : Supervisor → Act} {e : Effect} :
    e ∈ (a.andThen next).2 ↔ e ∈ a.2 ∨ e ∈ (next a.1).2 := List.mem_append

theorem exists_shows_of_mem_finish {s : Supervisor} {kind : Console.StatusKind} {message : Text}
    {e : Effect} (h : e ∈ (finish kind message s).2) : ∃ l, e = .shows l := by
  unfold finish Indicator.finish at h
  dsimp only at h
  split at h
  · exact ⟨_, List.mem_singleton.mp h⟩
  · cases h

theorem exists_shows_of_mem_say {s : Supervisor} {kind : Console.StatusKind} {message : Text}
    {e : Effect} (h : e ∈ s.say kind message) : ∃ l, e = .shows l := by
  unfold say at h
  split at h
  · exact ⟨_, List.mem_singleton.mp h⟩
  · cases h

/-- Settling notes nothing but what comes too late. -/
theorem eq_of_mem_resolve {o : Outcome} {s : Supervisor} {e : Effect} (h : e ∈ (resolve o s).2) :
    e = note .debug (Text.ofString "Ignoring late engine event: " ++ o.inLog) := by
  unfold resolve at h
  split at h
  · exact List.mem_singleton.mp h
  · cases h

/-- **What the judge does**: it shows lines, and notes the end of the process, and
perhaps that it comes too late. -/
theorem mem_judge {w : Waited} {s : Supervisor} {e : Effect} (h : e ∈ (judge w s).2) :
    (∃ l, e = .shows l) ∨ e = endNote w ∨
      ∃ o : Outcome, e = note .debug (Text.ofString "Ignoring late engine event: " ++ o.inLog) := by
  cases w with
  | status n =>
    rw [judge, Act.mem_andThen] at h
    rcases h with h | h
    · exact .inr (.inl (List.mem_singleton.mp h))
    · split at h
      · cases h
      · split at h
        · rw [Act.mem_andThen, Act.mem_andThen] at h
          rcases h with (h | h) | h
          · exact .inl (exists_shows_of_mem_finish h)
          · exact .inl (exists_shows_of_mem_say h)
          · exact .inr (.inr ⟨_, eq_of_mem_resolve h⟩)
        · rw [Act.mem_andThen] at h
          rcases h with h | h
          · exact .inl (exists_shows_of_mem_finish h)
          · exact .inr (.inr ⟨_, eq_of_mem_resolve h⟩)
  | lost m =>
    rw [judge, Act.mem_andThen, Act.mem_andThen] at h
    rcases h with (h | h) | h
    · exact .inr (.inl (List.mem_singleton.mp h))
    · exact .inl (exists_shows_of_mem_finish h)
    · exact .inr (.inr ⟨_, eq_of_mem_resolve h⟩)

end Supervisor

end SynthDesk.Engine
