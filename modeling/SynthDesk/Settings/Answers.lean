/-
Answers folded into settings.

An answer that is open or empty keeps what was there. The answer for the
tables is a list written with commas; its items are trimmed, and blank ones
are dropped.
-/
import SynthDesk.Settings.Draft
import SynthDesk.Options.Basic
import SynthDesk.Text.Blank
import SynthDesk.Text.Split

set_option autoImplicit false

namespace SynthDesk.Settings

/-- The tables that an answer lists. -/
def tablesOfAnswer (t : Text) : List Text :=
  ((Text.splitOn (CodePoint.ofChar ',') t).map Text.strip).filter fun s => !s.isEmpty

/-- **The draft after an interview**, `answers_to_config` over any configuration. What was there
stays as it was, of whatever kind it is. -/
def Draft.withAnswers (base : Draft) (o : Options) : Draft where
  model := ((o.requested .model).map Value.text).getD base.model
  tables := match o.requested .tables with
    | some t => .list ((tablesOfAnswer t).map .text)
    | none => base.tables
  dataOutput := ((o.requested .dataOutput).map Value.text).getD base.dataOutput
  syntheticGenerate :=
    ((o.requested .syntheticGenerate).map Value.text).getD base.syntheticGenerate

/-- **The settings after an interview**: `answers_to_config`. -/
def withAnswers (base : Settings) (o : Options) : Settings where
  model := (o.requested .model).getD base.model
  tables := match o.requested .tables with
    | some t => tablesOfAnswer t
    | none => base.tables
  dataOutput := (o.requested .dataOutput).getD base.dataOutput
  syntheticGenerate := (o.requested .syntheticGenerate).getD base.syntheticGenerate

/-- Folding answers into settings is folding them into the draft that the
settings are. -/
theorem toDraft_withAnswers (base : Settings) (o : Options) :
    (base.withAnswers o).toDraft = base.toDraft.withAnswers o := by
  simp only [withAnswers, toDraft, Draft.withAnswers]
  cases o.requested .model <;> cases o.requested .tables <;> cases o.requested .dataOutput <;>
    cases o.requested .syntheticGenerate <;> rfl

end SynthDesk.Settings
