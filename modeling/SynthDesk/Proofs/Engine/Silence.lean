/-
The consoles only look on.

Silencing takes both consoles away, and with them the spinner; of effects it leaves
what is noted. A run on a silenced executor is the silenced run: what was printed
is missing, and nothing else. The one thing that a console can change is the
start, where the text is read as markup, and so the start has to succeed.
-/
import SynthDesk.Proofs.Engine.Likeness

set_option autoImplicit false

namespace SynthDesk

/-! ## Without the console -/

/-- The indicator without its console. -/
def Indicator.silenced (i : Indicator) : Indicator := { i with console := false, spinning := false }

/-- Effects without what is shown. -/
def Effect.silenced (es : List Effect) : List Effect := (Effect.noted es).map .notes

theorem Effect.silenced_nil : Effect.silenced [] = [] := rfl

theorem Effect.silenced_notes (r : Log.Record) : Effect.silenced [.notes r] = [.notes r] := rfl

theorem Effect.silenced_append (a b : List Effect) :
    Effect.silenced (a ++ b) = Effect.silenced a ++ Effect.silenced b := by
  rw [silenced, silenced, silenced, noted_append, List.map_append]

namespace Indicator

theorem silenced_update (i : Indicator) (t : Text) :
    i.silenced.update t = (i.update t).silenced := by
  unfold update
  exact (apply_ite silenced (i.active = true) { i with text := t } i).symm

theorem silenced_stop (i : Indicator) : i.silenced.stop = i.stop.silenced := by
  unfold stop
  exact (apply_ite silenced (i.active = true)
    { i with active := false, spinning := false } i).symm

/-- A silenced indicator starts always. -/
theorem silenced_start (i : Indicator) : i.silenced.start = (i.start.1.silenced, none) := by
  cases hactive : i.active with
  | true =>
    have hsilent : i.silenced.active = true := hactive
    rw [start, start, hsilent, hactive]
    rfl
  | false =>
    have hsilent : i.silenced.active = false := hactive
    rw [start, start, hsilent, hactive]
    cases i.console with
    | false => rfl
    | true =>
      cases Markup.read i.text with
      | ok s => rfl
      | error e => rfl

end Indicator

namespace Engine

open Executor

/-- A moment without what is shown. -/
def Moment.silenced (m : Moment) : Moment := { m with effects := Effect.silenced m.effects }

/-- A report without what is shown. -/
def Report.silenced (r : Report) : Report := { r with moments := r.moments.map Moment.silenced }

/-- The executor without a console for itself or for its indicator. -/
def Executor.silenced (x : Executor) : Executor := ⟨x.location, false, x.indicator.silenced⟩

/-! ## Silent runs -/

/-- The likeness of what is loud and what is silenced. -/
def Likeness.silencing : Likeness where
  consoles _ c' := c' = false
  indicators i i' := i' = i.silenced
  texts t t' := t' = t
  effects a a' := a' = Effect.silenced a
  active h := by rw [h]; rfl
  text h := by rw [h]; rfl
  update h t := by rw [h, Indicator.silenced_update]
  stop h := by rw [h, Indicator.silenced_stop]
  nothing := Effect.silenced_nil.symm
  append ha hb := by rw [ha, hb, Effect.silenced_append]
  note r := (Effect.silenced_notes r).symm
  line {i i'} h kind message := by
    have hsilent : i'.console = false := by rw [h]; rfl
    rw [hsilent]
    cases i.console <;> rfl
  ownLine {c c'} h kind message := by
    rw [h]
    cases c <;> rfl

theorem Moment.Alike.eq_silenced {m m' : Moment} (h : m.Alike .silencing m') :
    m' = m.silenced := by
  obtain ⟨phase, text, active, outcome, effects⟩ := m'
  obtain ⟨rfl, rfl, rfl, rfl, rfl⟩ := h
  rfl

theorem Report.Alike.eq_silenced {r r' : Report} (h : r.Alike .silencing r') :
    r' = r.silenced := by
  have hmoments : r'.moments = r.moments.map Moment.silenced := by
    have hone : List.Forall₂ (fun m m' => m.silenced = m') r.moments r'.moments :=
      h.moments.imp fun _ _ hm => hm.eq_silenced.symm
    rw [← List.forall₂_map_left_iff, List.forall₂_eq_eq_eq] at hone
    exact hone.symm
  obtain ⟨command, result, closed, phase, moments⟩ := r'
  obtain ⟨rfl, rfl, rfl, rfl, -⟩ := h
  exact congrArg _ hmoments

namespace Executor

/-- **The consoles are only observers.** Where the indicator of an executor starts,
the run without consoles is the run with them, less what is shown: the same
command, result and end; at each moment the same phase, text, activity and outcome,
and the same notes; and the executor that is left is the same but for the consoles. -/
theorem run_silenced (x : Executor) (hs : x.indicator.start.2 = none) (args : List Text)
    (attempt : Attempt) :
    x.silenced.run args attempt =
      ((x.run args attempt).1.silenced, (x.run args attempt).2.silenced) := by
  have hstart := Indicator.silenced_start x.indicator
  have hs' : x.silenced.indicator.start.2 = none := congrArg Prod.snd hstart
  have hbegun : x.silenced.begun = x.begun.silenced := congrArg Prod.fst hstart
  have hlocation : x.silenced.location = x.location := rfl
  have halike := alike_run (L := .silencing) hlocation rfl hs hs' hbegun args attempt
  have hleft : (x.silenced.run args attempt).1 = (x.run args attempt).1.silenced := by
    have hplace : (x.silenced.run args attempt).1.location = (x.run args attempt).1.location := by
      rw [location_run, location_run, hlocation]
    have hmute : (x.silenced.run args attempt).1.console = false := console_run x.silenced _ _
    exact Executor.ext hplace hmute halike.2
  exact Prod.ext hleft halike.1.eq_silenced

/-- Progress, then diagnostics, and a process that is lost. -/
def lostAfterDiagnostics : List Instant :=
  [[.data .out (Utf8.encode "half [/] done")], [.data .err (Utf8.encode "bad"), .closed .err],
    [.closed .out], [.ended (.lost (.other "ChildError" "gone"))]]

theorem run_silenced_lost :
    (ready .standard true).indicator.start.2 = none ∧
      (ready .standard true).silenced = ready .standard false ∧
      ((ready .standard false).run [] (.starts lostAfterDiagnostics)).2 =
        ((ready .standard true).run [] (.starts lostAfterDiagnostics)).2.silenced := by
  have hs : (ready .standard true).indicator.start.2 = none := ready_starts .standard true
  exact ⟨hs, rfl, congrArg Prod.snd (run_silenced (ready .standard true) hs [] _)⟩

end Executor

end Engine

end SynthDesk
