/-
The transcript of a run.

Whatever the process writes is noted, piece by piece. There are three kinds of
records: progress; the diagnostics that come first; and all diagnostics that come
later. The supervisor knows which it has before it by the outcome, that is open or
not; the history tells it by the order of the pieces alone. That the two agree is
kept by every instant, so that the records of a run can be read off its history.
-/
import SynthDesk.Proofs.Engine.Pieces
import SynthDesk.Proofs.Engine.Run

set_option autoImplicit false

namespace SynthDesk.Engine

open Supervisor Executor

/-- There is no third stream. -/
theorem Stream.eq_of_ne {a b c : Stream} (hab : a ≠ b) (hca : c ≠ a) : c = b := by
  cases a <;> cases b <;> cases c <;> first | rfl | contradiction

/-! ## Kinds of records -/

/-- **The records that hold what the process writes.** -/
inductive Entry
  | progress
  | diagnosis
  | late
deriving DecidableEq, Repr

namespace Entry

/-- The stream it is written to. -/
def stream : Entry → Stream
  | progress => .out
  | diagnosis => .err
  | late => .err

/-- How the record begins. -/
def opening : Entry → Text
  | progress => Text.ofString "engine: "
  | diagnosis => Text.ofString "Engine stderr: "
  | late => Text.ofString "engine stderr after resolution: "

/-- How much it weighs. -/
def level : Entry → Log.Level
  | progress => .debug
  | diagnosis => .info
  | late => .debug

/-- **The record of a piece**: the piece decoded by itself, without the blanks
around it. -/
def record (k : Entry) (piece : List Octet) : Log.Record :=
  ⟨k.level, Log.enginePart, k.opening ++ (Utf8.decodeLossy piece).strip, none⟩

/-- The record is of this kind, told by its opening. -/
def isOpening (k : Entry) (r : Log.Record) : Bool :=
  r.source = Log.enginePart && (Text.after? k.opening r.message).isSome

/-- **The records of a kind** among effects, in order. -/
def among (k : Entry) (es : List Effect) : List Log.Record := (Effect.noted es).filter k.isOpening

/-- **The pieces due a record** of the kind, by the history. -/
def due : Entry → List Instant → List (List Octet)
  | progress, h => piecesRead .out h
  | diagnosis, h => (piecesRead .err h).take 1
  | late, h => (piecesRead .err h).drop 1

/-! ### Which records are of a kind -/

theorem among_append (k : Entry) (a b : List Effect) :
    k.among (a ++ b) = k.among a ++ k.among b := by
  rw [among, Effect.noted_append, List.filter_append, among, among]

/-- The kinds are told apart. -/
theorem isOpening_record (k k' : Entry) (piece : List Octet) :
    k.isOpening (k'.record piece) = decide (k = k') := by
  by_cases hk : k = k'
  · subst hk
    have hafter : Text.after? k.opening (k.record piece).message =
        some (Utf8.decodeLossy piece).strip := Text.after?_eq_some_iff.mpr rfl
    rw [isOpening, hafter, decide_eq_true (show (k.record piece).source = Log.enginePart from rfl),
      decide_eq_true rfl]
    rfl
  · -- The openings part before one of them ends.
    rw [decide_eq_false hk]
    cases k <;> cases k' <;> first | rfl | exact absurd rfl hk

theorem among_map_record (k k' : Entry) (ps : List (List Octet)) :
    k.among (ps.map fun p => .notes (k'.record p)) = if k = k' then ps.map k.record else [] := by
  have hnoted : Effect.noted (ps.map fun p => .notes (k'.record p)) = ps.map k'.record := by
    rw [Effect.noted, List.filterMap_map]
    exact congrFun List.filterMap_eq_map ps
  rw [among, hnoted, List.filter_map]
  by_cases hk : k = k'
  · rw [if_pos hk, ← hk]
    congr 1
    apply List.filter_eq_self.mpr
    intro p _
    rw [Function.comp_apply, isOpening_record, decide_eq_true rfl]
  · rw [if_neg hk, List.map_eq_nil_iff]
    apply List.filter_eq_nil_iff.mpr
    intro p _
    rw [Function.comp_apply, isOpening_record, decide_eq_false hk]
    exact Bool.false_ne_true

theorem among_progressNotes (k : Entry) (ps : List (List Octet)) :
    k.among (ps.map progressNote) = if k = progress then ps.map k.record else [] :=
  among_map_record k progress ps

theorem among_diagnosticsNote (k : Entry) (p : List Octet) :
    k.among [diagnosticsNote p] = if k = diagnosis then [k.record p] else [] :=
  among_map_record k diagnosis [p]

theorem among_lateNotes (k : Entry) (ps : List (List Octet)) :
    k.among (ps.map lateNote) = if k = late then ps.map k.record else [] :=
  among_map_record k late ps

/-- Effects of which none is a record of the kind. -/
theorem among_eq_nil {k : Entry} {es : List Effect}
    (h : ∀ r, .notes r ∈ es → k.isOpening r = false) : k.among es = [] := by
  rw [among, List.filter_eq_nil_iff]
  intro r hr
  rw [Effect.noted, List.mem_filterMap] at hr
  obtain ⟨e, he, hnote⟩ := hr
  cases e with
  | shows l => cases hnote
  | notes r' =>
    cases hnote
    rw [h r he]
    exact Bool.false_ne_true

/-- The lines of a ruling are no records. -/
theorem among_lines (k : Entry) (c : Consoles) (r : Ruling) : k.among (r.lines c) = [] := by
  apply among_eq_nil
  intro r hr
  unfold Ruling.lines at hr
  simp at hr

/-- The judge reads nothing, and so it adds no record of a piece. -/
theorem among_conclude (k : Entry) (before : Bool) (s : Supervisor) :
    k.among (conclude before s).2 = [] := by
  unfold conclude
  split
  · next w _ =>
    split
    · apply among_eq_nil
      intro r hr
      rcases mem_judge hr with ⟨l, hl⟩ | hend | ⟨o, hlate⟩
      · cases hl
      · -- Of the two notes of an end neither opens like a record of a piece.
        cases w <;> cases hend <;> cases k <;> rfl
      · cases hlate
        cases k <;> rfl
    · rfl
  · rfl

/-! ## One instant -/

/-- The pieces that an instant adds to the records of a kind. -/
def share (k : Entry) (s : Supervisor) (i : Instant) : List (List Octet) :=
  match k with
  | progress => s.gets .out i
  | diagnosis => if s.outcome.isSome then [] else (s.gets .err i).take 1
  | late => if s.outcome.isSome then s.gets .err i else (s.gets .err i).drop 1

/-- Receiving from a stream adds the records of the kinds that belong to it. -/
theorem among_receive (k : Entry) (stream : Stream) (i : Instant) (s : Supervisor) :
    k.among (receive stream (arrival stream i) s).2 =
      if k.stream = stream then (k.share s i).map k.record else [] := by
  cases stream with
  | out =>
    rw [receive_out, among_progressNotes]
    cases k <;> rfl
  | err =>
    cases ho : s.outcome with
    | some o =>
      rw [receive_err_of_settled (Option.isSome_of_eq_some ho), among_lateNotes]
      cases k <;> simp [stream, share, ho]
    | none =>
      cases hg : s.gets .err i with
      | nil =>
        rw [receive_err_of_nil hg]
        cases k <;> simp [stream, share, ho, hg] <;> rfl
      | cons p r =>
        rw [receive_err_of_cons ho hg, among_append, among_lines, List.nil_append,
          ← List.singleton_append, among_append, among_diagnosticsNote, among_lateNotes]
        cases k <;> simp [stream, share, ho, hg]

/-- Receiving from one stream leaves what the other gives. -/
theorem share_receive {k : Entry} {stream : Stream} (hk : k.stream ≠ stream) (i : Instant)
    (s : Supervisor) : k.share (receive stream (arrival stream i) s).1 i = k.share s i := by
  cases stream with
  | out =>
    rw [receive_out]
    have hgets : ((s.showing (s.gets .out i)).pass .out i).gets .err i = s.gets .err i := by
      rw [gets_err_pass_out, gets_showing]
    cases k with
    | progress => exact absurd rfl hk
    | diagnosis => simp only [share, hgets, pass_outcome, showing_outcome]
    | late => simp only [share, hgets, pass_outcome, showing_outcome]
  | err =>
    have hgets : (receive .err (arrival .err i) s).1.gets .out i = s.gets .out i := by
      cases ho : s.outcome with
      | some o => rw [receive_err_of_settled (Option.isSome_of_eq_some ho), gets_out_pass_err]
      | none =>
        cases hg : s.gets .err i with
        | nil => rw [receive_err_of_nil hg, gets_out_pass_err]
        | cons p r =>
          rw [receive_err_of_cons ho hg, gets_out_pass_err]
          rfl
    cases k with
    | progress => exact hgets
    | diagnosis => exact absurd rfl hk
    | late => exact absurd rfl hk

/-- Of the two streams one belongs to the kind, and the other one adds nothing. -/
theorem among_receive_both (k : Entry) {first second : Stream} (hne : first ≠ second)
    (i : Instant) (s : Supervisor) :
    k.among ((receive first (arrival first i) s).andThen (receive second (arrival second i))).2 =
      (k.share s i).map k.record := by
  rw [Act.andThen, among_append, among_receive, among_receive]
  by_cases hk : k.stream = first
  · have hother : k.stream ≠ second := by rwa [hk]
    rw [if_pos hk, if_neg hother, List.append_nil]
  · have hother : k.stream = second := Stream.eq_of_ne hne hk
    rw [if_neg hk, if_pos hother, share_receive hk, List.nil_append]

/-- **An instant adds its share**, whichever stream is read first. -/
theorem among_step (k : Entry) (s : Supervisor) (i : Instant) :
    k.among (s.step i).2 = (k.share s i).map k.record := by
  have horder : (readingOrder i).1 ≠ (readingOrder i).2 := by
    rcases readingOrder_eq i with ho | ho <;> rw [ho] <;> decide
  have htake : k.among (s.takeIn i).2 = (k.share s i).map k.record := by
    rw [takeIn, Act.andThen, among_append, among_receive_both k horder]
    exact List.append_nil _
  rw [step_eq, Act.andThen, among_append, htake, among_conclude, List.append_nil]

/-- **What is due grows by the share of the instant**: the outcome is open exactly as
long as no diagnostics were read, or they can no longer be. -/
theorem due_concat {own : Bool} {start : Indicator} {h : List Instant} {s : Supervisor}
    (hr : Reflects own start h s) (k : Entry) (i : Instant) :
    k.due (h ++ [i]) = k.due h ++ k.share s i := by
  have hread := hr.books.piecesRead_concat
  cases ho : s.outcome with
  | none =>
    have hnil : piecesRead .err h = [] :=
      (rulingOf_eq_none_iff.mp (hr.rulingOf_eq_none ho)).1
    cases k <;> simp [due, share, hread, hnil, ho]
  | some o =>
    cases hp : piecesRead .err h with
    | cons p r => cases k <;> simp [due, share, hread, hp, ho]
    | nil =>
      -- The run was settled by the end of everything.
      have hrule : (rulingOf h).isSome = true := by
        rw [← Option.isSome_map (f := Ruling.outcome), ← hr.outcome, ho]
        rfl
      have hended : hasEnded .err h = true := ((rulingOf_isSome_iff hp).mp hrule).2.1
      have hgets : s.gets .err i = [] := by
        rw [hr.books.gets_eq, hended]
        rfl
      cases k <;> simp [due, share, hread, hp, hgets]

/-! ## Whole runs -/

/-- **A stretch of history** adds the records of what becomes due in it. -/
theorem among_follow {own : Bool} {start : Indicator} {h : List Instant} {s : Supervisor}
    (hr : Reflects own start h s) (k : Entry) (t : List Instant) :
    (k.due h).map k.record ++ k.among ((s.follow t).2.flatMap Moment.effects) =
      (k.due (h ++ t)).map k.record := by
  induction t generalizing h s with
  | nil =>
    rw [List.append_nil]
    exact List.append_nil _
  | cons i r ih =>
    have hrest := ih (hr.step i)
    have happ : h ++ i :: r = h ++ [i] ++ r := by
      rw [List.append_assoc, List.singleton_append]
    rw [happ, ← hrest, due_concat hr, List.map_append, ← among_step, List.append_assoc,
      ← among_append]
    rfl

/-- **The records of a run** are those that its history makes due. -/
theorem among_run {x : Executor} (hs : x.indicator.start.2 = none) (args : List Text)
    (history : List Instant) (k : Entry) :
    k.among (x.run args (.starts history)).2.effects = (k.due history).map k.record := by
  have hfollow := among_follow (Reflects.started x.console x.begun_active) k (completed history)
  have hdue : k.due ([] ++ completed history) = k.due history := by
    rw [List.nil_append]
    cases k <;> simp only [due, piecesRead_completed]
  have hnone : (k.due []).map k.record = [] := by
    cases k <;> rfl
  have hstart : k.among [startNote (x.location.command args)] = [] := by
    cases k <;> rfl
  rw [hdue, hnone, List.nil_append] at hfollow
  rw [run_starts hs, Report.effects, List.flatMap_cons, among_append, hfollow]
  exact hstart ▸ List.nil_append _

end Entry

/-- **The complete transcript.** In a run of which no stream breaks every delivery is
cut into pieces of 4096 octets, the last one shorter, which can be done in one way
only; and the log has one record for each piece, in order:

* each piece of progress has one that begins with `engine: `;
* the first piece of diagnostics has the only one that begins with `Engine stderr: `;
* each later piece has one that begins with `engine stderr after resolution: `.

It does not matter when the pieces come, before or after the outcome, before or after
the end of the process. -/
theorem transcript {x : Executor} (hs : x.indicator.start.2 = none) (args : List Text)
    {history : List Instant} (hu : ∀ stream, endingOf stream history ≠ some .broken) :
    (∀ octets ps, CutInto octets ps ↔ ps = pieces octets) ∧
    Entry.progress.among (x.run args (.starts history)).2.effects =
      ((deliveries .out history).flatMap pieces).map Entry.progress.record ∧
    Entry.diagnosis.among (x.run args (.starts history)).2.effects =
      (((deliveries .err history).flatMap pieces).take 1).map Entry.diagnosis.record ∧
    Entry.late.among (x.run args (.starts history)).2.effects =
      (((deliveries .err history).flatMap pieces).drop 1).map Entry.late.record := by
  refine ⟨fun octets ps => cutInto_iff, ?_, ?_, ?_⟩
  · rw [Entry.among_run hs, Entry.due, piecesRead_of_unbroken (hu .out)]
  · rw [Entry.among_run hs, Entry.due, piecesRead_of_unbroken (hu .err)]
  · rw [Entry.among_run hs, Entry.due, piecesRead_of_unbroken (hu .err)]

/-- Output goes on after the diagnostics, and after the process has ended. -/
def talkative : List Instant :=
  [[.data .out (Utf8.encode "one ")],
    [.data .err (Utf8.encode "bad\n"), .data .out (Utf8.encode "2")], [.ended (.status 3)],
    [.data .err (Utf8.encode "worse"), .closed .err],
    [.data .out (Utf8.encode "three"), .closed .out]]

theorem transcript_talkative :
    (Executor.ready .standard true).indicator.start.2 = none ∧
      (∀ stream, endingOf stream talkative ≠ some .broken) ∧
      Entry.progress.among ((Executor.ready .standard true).run [] (.starts talkative)).2.effects =
        [⟨.debug, Log.enginePart, "engine: one", none⟩,
          ⟨.debug, Log.enginePart, "engine: 2", none⟩,
          ⟨.debug, Log.enginePart, "engine: three", none⟩] ∧
      Entry.diagnosis.among ((Executor.ready .standard true).run [] (.starts talkative)).2.effects =
        [⟨.info, Log.enginePart, "Engine stderr: bad", none⟩] ∧
      Entry.late.among ((Executor.ready .standard true).run [] (.starts talkative)).2.effects =
        [⟨.debug, Log.enginePart, "engine stderr after resolution: worse", none⟩] := by
  have hu : ∀ stream, endingOf stream talkative ≠ some .broken := by
    intro stream
    cases stream <;> decide
  obtain ⟨-, hprogress, hdiagnosis, hlate⟩ :=
    transcript (x := Executor.ready .standard true) (by decide) [] hu
  refine ⟨by decide, hu, ?_, ?_, ?_⟩
  · rw [hprogress]
    decide
  · rw [hdiagnosis]
    decide
  · rw [hlate]
    decide

end SynthDesk.Engine
