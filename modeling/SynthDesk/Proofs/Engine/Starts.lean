/-
The starts that are noted.

Whoever starts the engine notes the command first, so the attempts of a session
can be counted in what it has noted. A run whose indicator starts makes one such
note, at its very beginning: whatever the process does afterwards, whatever it
writes, the supervision notes it in other words.
-/
import SynthDesk.Proofs.Engine.Run

set_option autoImplicit false

namespace SynthDesk

namespace Effect

/-! ## Notes of a start -/

/-- The command that is started, if the effect is the note of it. -/
def start? : Effect → Option Text
  | .shows _ => none
  | .notes r =>
    if r.source = Log.enginePart then Text.after? (Text.ofString "Starting engine: ") r.message
    else none

/-- **The starts** among effects, in order: their commands in print. -/
def starts (es : List Effect) : List Text := es.filterMap start?

theorem starts_append (a b : List Effect) : starts (a ++ b) = starts a ++ starts b :=
  List.filterMap_append

/-- Nothing that is shown is a start. -/
theorem starts_map_shows (shown : List Shown) : starts (shown.map .shows) = [] := by
  rw [starts, List.filterMap_map]
  exact List.filterMap_eq_nil_iff.mpr fun _ _ => rfl

/-- No other part of the program notes a start. -/
theorem starts_map_notes {rs : List Log.Record} (h : ∀ r ∈ rs, r.source ≠ Log.enginePart) :
    starts (rs.map .notes) = [] := by
  rw [starts, List.filterMap_map]
  exact List.filterMap_eq_nil_iff.mpr fun r hr => if_neg (h r hr)

end Effect

namespace Engine

open Supervisor Executor

/-! ## Supervision -/

/-- The act notes no start. -/
def Supervisor.Act.Startless (a : Act) : Prop := Effect.starts a.2 = []

theorem Supervisor.Act.Startless.andThen {a : Act} (ha : a.Startless)
    {next : Supervisor → Act} (hnext : ∀ s, (next s).Startless) : (a.andThen next).Startless := by
  unfold Act.Startless Act.andThen at *
  rw [Effect.starts_append, ha, hnext]
  rfl

namespace Supervisor

theorem startless_quiet (s : Supervisor) : s.quiet.Startless := rfl

theorem starts_say (s : Supervisor) (kind : Console.StatusKind) (message : Text) :
    Effect.starts (s.say kind message) = [] := by
  unfold say
  split <;> rfl

theorem startless_resolve (o : Outcome) (s : Supervisor) : (resolve o s).Startless := by
  unfold resolve
  split <;> rfl

theorem startless_finish (kind : Console.StatusKind) (message : Text) (s : Supervisor) :
    (finish kind message s).Startless := by
  unfold finish Indicator.finish Act.Startless
  dsimp only
  split <;> rfl

theorem startless_readErr (s : Supervisor) (piece : List Octet) : (s.readErr piece).Startless := by
  unfold readErr
  split
  · rfl
  · refine Act.Startless.andThen ?_ (startless_resolve _)
    unfold Act.Startless
    rw [Effect.starts_append, starts_say]
    rfl

theorem startless_readPieces (stream : Stream) (pieces : List (List Octet)) (s : Supervisor) :
    (readPieces stream pieces s).Startless := by
  induction pieces generalizing s with
  | nil => exact startless_quiet s
  | cons p r ih =>
    have hpiece : (s.readPiece stream p).Startless := by
      cases stream with
      | out => rfl
      | err => exact startless_readErr s p
    exact hpiece.andThen ih

theorem startless_receive (stream : Stream) (a : Arrival) (s : Supervisor) :
    (receive stream a s).Startless := by
  unfold receive
  split
  · exact (startless_readPieces stream a.pieces s).andThen fun s => startless_quiet _
  · exact startless_quiet s

theorem startless_judge (w : Waited) (s : Supervisor) : (judge w s).Startless := by
  apply List.filterMap_eq_nil_iff.mpr
  intro e he
  rcases mem_judge he with ⟨l, hl⟩ | hend | ⟨o, hlate⟩
  · rw [hl]
    rfl
  · cases w <;> rw [hend] <;> rfl
  · rw [hlate]
    rfl

theorem startless_conclude (before : Bool) (s : Supervisor) : (conclude before s).Startless := by
  unfold conclude
  split
  · split
    · exact startless_judge _ s
    · exact startless_quiet s
  · exact startless_quiet s

/-- **An instant notes no start**, whatever arrives in it. -/
theorem startless_step (s : Supervisor) (i : Instant) : (s.step i).Startless :=
  (((startless_receive _ _ s).andThen (startless_receive _ _)).andThen fun _ =>
    startless_quiet _).andThen (startless_conclude _)

/-- A stretch of history notes no start. -/
theorem starts_follow (s : Supervisor) (h : List Instant) :
    Effect.starts ((s.follow h).2.flatMap Moment.effects) = [] := by
  induction h generalizing s with
  | nil => rfl
  | cons i r ih =>
    have hfirst : Effect.starts (s.step i).2 = [] := startless_step s i
    have hrest := ih (s.step i).1
    rw [follow, List.flatMap_cons, Effect.starts_append, hrest, List.append_nil]
    exact hfirst

end Supervisor

/-! ## Runs -/

namespace Executor

variable {x : Executor}

theorem starts_startNote (command : List Text) :
    Effect.starts [startNote command] = [Text.join [' '] command] := by
  have hstart : (startNote command).start? = some (Text.join [' '] command) := by
    rw [startNote, Supervisor.note, Effect.note, Effect.start?, if_pos rfl]
    exact Text.after?_eq_some_iff.mpr rfl
  rw [Effect.starts, List.filterMap_cons, hstart]
  rfl

/-- **A run notes one start**, with its command, whatever comes of it. -/
theorem starts_run (hs : x.indicator.start.2 = none) (args : List Text) (attempt : Attempt) :
    Effect.starts (x.run args attempt).2.effects =
      [Text.join [' '] (x.location.command args)] := by
  cases attempt with
  | starts history =>
    rw [run_starts hs, Report.effects, List.flatMap_cons, Effect.starts_append, starts_follow,
      List.append_nil]
    exact starts_startNote _
  | refused f =>
    rw [run, hs]
    cases hf : f.isRefusal with
    | false => exact starts_startNote _
    | true =>
      -- The refusal is noted in other words, and then shown.
      have hfail : Effect.starts (x.indicator.start.1.fail (refusedMessage f)).2 = [] :=
        startless_finish .error _ (Supervisor.started x.console x.indicator.start.1)
      have hrefused : ∀ es, Effect.starts (refusedNote x.location.runtime f :: es) =
          Effect.starts es := fun _ => rfl
      simp only [if_true, unstarted, Report.effects, List.flatMap_singleton]
      rw [← List.singleton_append, Effect.starts_append, starts_startNote, hrefused, hfail]
      rfl

end Executor

end Engine

end SynthDesk
