/-
One line that follows the progress of something.

While it is active, an update replaces its text; a success, a failure or a
stop ends the activity, and the first of them is the one that counts. With a
console the line is drawn by a spinner, and a success or failure leaves a
status line; without one the indicator is silent. Starting with a console
reads the text as markup, and can be refused for it.
-/
import SynthDesk.Effect
import SynthDesk.Console.Markup

set_option autoImplicit false

namespace SynthDesk

/-- The text, whether anything is in progress, and whether it is drawn: `ProgressIndicator`. -/
structure Indicator where
  /-- There is a console to draw on. -/
  console : Bool
  text : Text
  active : Bool
  spinning : Bool
deriving DecidableEq, Repr

namespace Indicator

/-- The text before the first update. -/
def initialText : Text := "Generating synthetic data..."

/-- An indicator at rest. -/
def idle (console : Bool) (text : Text) : Indicator := ⟨console, text, false, false⟩

/-- Begins an activity, unless one is on. Where the text is no markup the
activity is on, but nothing is drawn, and the refusal is passed on. -/
def start (i : Indicator) : Indicator × Option Markup.Refusal :=
  if i.active then (i, none)
  else if i.console then
    match Markup.read i.text with
    | .ok _ => ({ i with active := true, spinning := true }, none)
    | .error e => ({ i with active := true }, some e)
  else ({ i with active := true }, none)

/-- Replaces the text while active. -/
def update (i : Indicator) (text : Text) : Indicator := if i.active then { i with text } else i

/-- Ends the activity. -/
def stop (i : Indicator) : Indicator :=
  if i.active then { i with active := false, spinning := false } else i

/-- Ends the activity, and says so on the console if there was any: what `succeed` and `fail`
have in common. -/
def finish (i : Indicator) (kind : Console.StatusKind) (message : Text) :
    Indicator × List Effect :=
  (i.stop, if i.active && i.console then [Effect.line kind message] else [])

/-- Ends the activity well. -/
def succeed (i : Indicator) (message : Text) : Indicator × List Effect := i.finish .success message

/-- Ends the activity badly. -/
def fail (i : Indicator) (message : Text) : Indicator × List Effect := i.finish .error message

/-! ## Calls -/

/-- What can be asked of an indicator. `enter` and `exit` bracket a piece of
work: they start and stop. -/
inductive Call
  | start
  | enter
  | update (text : Text)
  | stop
  | succeed (message : Text)
  | fail (message : Text)
  | exit
deriving DecidableEq, Repr

/-- What a call leaves behind. -/
structure Answer where
  indicator : Indicator
  effects : List Effect
  refused : Option Markup.Refusal
deriving DecidableEq, Repr

/-- One call. -/
def call (i : Indicator) : Call → Answer
  | .start | .enter => ⟨i.start.1, [], i.start.2⟩
  | .update t => ⟨i.update t, [], none⟩
  | .stop | .exit => ⟨i.stop, [], none⟩
  | .succeed m => ⟨(i.succeed m).1, (i.succeed m).2, none⟩
  | .fail m => ⟨(i.fail m).1, (i.fail m).2, none⟩

/-- The indicator after calls, with all their effects. -/
def calls (i : Indicator) : List Call → Indicator × List Effect
  | [] => (i, [])
  | c :: r =>
    let a := i.call c
    let later := calls a.indicator r
    (later.1, a.effects ++ later.2)

/-! ## What each operation leaves -/

@[simp] theorem stop_active (i : Indicator) : i.stop.active = false := by
  unfold stop; split <;> simp_all

@[simp] theorem stop_text (i : Indicator) : i.stop.text = i.text := by
  unfold stop; split <;> rfl

@[simp] theorem stop_console (i : Indicator) : i.stop.console = i.console := by
  unfold stop; split <;> rfl

/-- At rest there is nothing to stop. -/
theorem stop_of_inactive {i : Indicator} (h : i.active = false) : i.stop = i := by
  rw [stop, h]
  rfl

@[simp] theorem update_active (i : Indicator) (t : Text) : (i.update t).active = i.active := by
  unfold update; split <;> rfl

@[simp] theorem update_console (i : Indicator) (t : Text) : (i.update t).console = i.console := by
  unfold update; split <;> rfl

@[simp] theorem start_active (i : Indicator) : i.start.1.active = true := by
  unfold start
  split
  · assumption
  · split
    · split <;> rfl
    · rfl

@[simp] theorem start_text (i : Indicator) : i.start.1.text = i.text := by
  unfold start
  split
  · rfl
  · split
    · split <;> rfl
    · rfl

@[simp] theorem start_console (i : Indicator) : i.start.1.console = i.console := by
  unfold start
  split
  · rfl
  · split
    · split <;> rfl
    · rfl

end Indicator

end SynthDesk
