/-
What settles a run, read off its history.

Three things can: a start that is refused, the first piece of diagnostics, and
the end of everything. A ruling says which, and from it follow both the outcome
and the lines on the screen, so that the two cannot drift apart. Some lines are
the executor's and some its indicator's, and each appears where its teller has a
console. The ruling of a history is a function of the history alone; once there
is one, no later event changes it.
-/
import SynthDesk.Engine.Executor
import SynthDesk.Proofs.Engine.History

set_option autoImplicit false

namespace SynthDesk.Engine

/-! ## Who tells -/

/-- Who tells a status line: the executor, or its indicator. -/
inductive Teller
  | executor
  | indicator
deriving DecidableEq, Repr

/-- Who has a console: the executor, and its indicator. -/
structure Consoles where
  executor : Bool
  indicator : Bool
deriving DecidableEq, Repr

/-- The teller has a console. -/
def Consoles.hasOne (c : Consoles) : Teller → Bool
  | .executor => c.executor
  | .indicator => c.indicator

/-- What appears of lines that a teller tells: all of them, if he has a console. -/
def Consoles.heard (c : Consoles) (teller : Teller) (lines : List Console.StatusLine) :
    List Console.StatusLine :=
  if c.hasOne teller then lines else []

theorem Consoles.heard_subset (c : Consoles) (teller : Teller) (lines : List Console.StatusLine) :
    c.heard teller lines ⊆ lines := by
  unfold heard
  split
  · exact List.Subset.refl lines
  · exact List.nil_subset lines

/-- The consoles of a process under supervision. -/
abbrev Supervisor.consoles (s : Supervisor) : Consoles := ⟨s.console, s.indicator.console⟩

/-- The consoles of an executor. -/
abbrev Executor.consoles (x : Executor) : Consoles := ⟨x.console, x.indicator.console⟩

/-- Unless an indicator is handed over, there is one console for both. -/
theorem Executor.consoles_ready (location : Location) (console : Bool) :
    (ready location console).consoles = ⟨console, console⟩ := rfl

/-! ## Rulings -/

/-- What settles a run. -/
inductive Ruling
  /-- The start is refused. -/
  | refused (fault : Fault)
  /-- Diagnostics come; this is their first piece. -/
  | diagnosed (piece : List Octet)
  /-- Everything has ended without diagnostics. -/
  | ended (waited : Waited)
deriving DecidableEq, Repr

namespace Ruling

/-- The outcome under a ruling. -/
def outcome : Ruling → Outcome
  | refused f => .failed f.message none
  | diagnosed piece => .failed (Utf8.decodeLossy piece) none
  | ended (.status n) =>
    if n = 0 then .succeeded else .failed (Supervisor.statusReason n) (some n)
  | ended (.lost m) => .failed m.message none

/-- The status lines of a ruling, each with the one who tells it. -/
def told : Ruling → List (Teller × Console.StatusLine)
  | refused f => [(.indicator, ⟨.error, Executor.refusedMessage f⟩)]
  | diagnosed piece =>
    [(.executor, ⟨.error, Supervisor.diagnosticsMessage (Utf8.decodeLossy piece)⟩)]
  | ended (.status n) =>
    if n = 0 then [(.indicator, ⟨.success, Supervisor.successMessage⟩),
      (.executor, ⟨.info, Supervisor.whereToLook⟩)]
    else [(.indicator, ⟨.error, Supervisor.statusMessage n⟩)]
  | ended (.lost m) => [(.indicator, ⟨.error, Supervisor.lostMessage m⟩)]

/-- **The report** of a ruling: the status lines that tell the reader. -/
def report (r : Ruling) : List Console.StatusLine := r.told.map Prod.snd

/-- The report as far as there are consoles for it. -/
def reportOn (c : Consoles) (r : Ruling) : List Console.StatusLine :=
  (r.told.filter fun l => c.hasOne l.1).map Prod.snd

/-- Line by line, what is told appears where its teller is heard. -/
theorem reportOn_eq (c : Consoles) (r : Ruling) :
    r.reportOn c = r.told.flatMap fun l => c.heard l.1 [l.2] := by
  unfold reportOn
  induction r.told with
  | nil => rfl
  | cons l rest ih =>
    rw [List.flatMap_cons, ← ih, List.filter_cons, Consoles.heard]
    split <;> rfl

/-- What appears is of the report. -/
theorem reportOn_subset (c : Consoles) (r : Ruling) : r.reportOn c ⊆ r.report :=
  List.map_subset _ (List.filter_sublist).subset

/-- With both consoles the whole report appears. -/
theorem reportOn_both (r : Ruling) : r.reportOn ⟨true, true⟩ = r.report := by
  have hall : ∀ l ∈ r.told, (Consoles.mk true true).hasOne l.1 = true := by
    rintro ⟨teller, l⟩ -
    cases teller <;> rfl
  rw [reportOn, List.filter_eq_self.mpr hall, report]

end Ruling

/-- **The ruling of a history.** The first piece of diagnostics, whatever else
there is; without any, the end of the process, once both streams have ended. -/
def rulingOf (h : List Instant) : Option Ruling :=
  match piecesRead .err h with
  | piece :: _ => some (.diagnosed piece)
  | [] => if hasEnded .out h && hasEnded .err h then (processEnd h).map .ended else none

@[simp] theorem rulingOf_nil : rulingOf [] = none := rfl

theorem rulingOf_of_cons {h : List Instant} {piece : List Octet} {rest : List (List Octet)}
    (hp : piecesRead .err h = piece :: rest) : rulingOf h = some (.diagnosed piece) := by
  rw [rulingOf, hp]

theorem rulingOf_of_nil {h : List Instant} (hp : piecesRead .err h = []) :
    rulingOf h =
      if hasEnded .out h && hasEnded .err h then (processEnd h).map .ended else none := by
  rw [rulingOf, hp]

/-- Without diagnostics the end of everything is the ruling. -/
theorem rulingOf_of_isComplete {h : List Instant} {w : Waited} (hp : piecesRead .err h = [])
    (hc : IsComplete h) (hw : processEnd h = some w) : rulingOf h = some (.ended w) := by
  obtain ⟨hout, herr, -⟩ := hc
  rw [rulingOf_of_nil hp, hout, herr, hw]
  rfl

/-- Without diagnostics there is a ruling exactly when everything has ended. -/
theorem rulingOf_isSome_iff {h : List Instant} (hp : piecesRead .err h = []) :
    (rulingOf h).isSome = true ↔ IsComplete h := by
  rw [rulingOf_of_nil hp, IsComplete]
  cases hasEnded .out h with
  | false => simp
  | true =>
    cases hasEnded .err h with
    | false => simp
    | true => simp

/-- There is no ruling exactly as long as there are no diagnostics and something
has not ended. -/
theorem rulingOf_eq_none_iff {h : List Instant} :
    rulingOf h = none ↔ piecesRead .err h = [] ∧ ¬ IsComplete h := by
  cases hp : piecesRead .err h with
  | cons piece rest => simp [rulingOf_of_cons hp]
  | nil =>
    rw [← rulingOf_isSome_iff hp, Bool.not_eq_true, Option.isSome_eq_false_iff,
      Option.isNone_iff_eq_none]
    exact ⟨fun hr => ⟨rfl, hr⟩, fun hr => hr.2⟩

/-- A history in which everything has ended has a ruling. -/
theorem exists_rulingOf {h : List Instant} (hc : IsComplete h) : ∃ r, rulingOf h = some r := by
  cases hr : rulingOf h with
  | some r => exact ⟨r, rfl⟩
  | none => exact absurd hc (rulingOf_eq_none_iff.mp hr).2

/-- **A ruling stands.** Later history does not change it: the first piece stays
the first, an ended stream gives no more pieces, and of two accounts of the
process's end the earlier counts. -/
theorem rulingOf_append {h : List Instant} {r : Ruling} (hr : rulingOf h = some r)
    (t : List Instant) : rulingOf (h ++ t) = some r := by
  cases hp : piecesRead .err h with
  | cons piece rest =>
    rw [rulingOf_of_cons hp] at hr
    rw [← hr]
    -- What is read later comes after the first piece.
    apply rulingOf_of_cons
    rw [piecesRead_append, hp, List.cons_append]
  | nil =>
    rw [rulingOf_of_nil hp] at hr
    split at hr
    case isTrue hboth =>
      obtain ⟨hout, herr⟩ := Bool.and_eq_true_iff.mp hboth
      -- The stream of diagnostics has ended without any, so there will be none.
      have hnil : piecesRead .err (h ++ t) = [] := by
        rw [piecesRead_append, hp, herr]
        rfl
      obtain ⟨w, hw, rfl⟩ := Option.map_eq_some_iff.mp hr
      rw [rulingOf_of_nil hnil, hasEnded_append, hasEnded_append, processEnd_append,
        hout, herr, hw]
      rfl
    case isFalse => cases hr

end SynthDesk.Engine
