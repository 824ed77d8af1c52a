/-
The five questions.

Four ask for parameters of a generation, each with the remembered answer as
its default; the first of them takes one of three models only. Defaults are
texts as a rule, but a draft may hold any value: one that is no text is not
shown, and an empty line answers with it all the same. The fifth asks
whether to remember the answers, and takes yes or no.
-/
import SynthDesk.Interview.Question
import SynthDesk.Settings.Draft
import SynthDesk.Options.Basic

set_option autoImplicit false

namespace SynthDesk.Interview

/-- The models to choose from: `MODEL_CHOICES`. -/
def models : List Text := ["HR", "OE", "Invest"]

/-- How defaults are remembered: a line that is typed becomes such a thing, and
some of them can be shown in a prompt. -/
structure Memory (α : Type) where
  typed : Text → α
  shown : α → Option Text

/-- Defaults that are texts. -/
def Memory.texts : Memory Text := ⟨id, some⟩

/-- Defaults that can be any value; only texts are shown. -/
def Memory.values : Memory Value := ⟨.text, Value.text?⟩

variable {α : Type}

/-- A line as a model: the remembered one if it is empty, else one of the
choices once it is trimmed. -/
def Memory.modelOf (m : Memory α) (remembered : α) (line : Text) : Option α :=
  if line.isEmpty then some remembered
  else if models.contains line.strip then some (m.typed line.strip) else none

/-- The question for the model. -/
def Memory.modelQuestion (m : Memory α) (remembered : α) : Question α where
  prompt := promptText "Which database model do you want to use?" models (m.shown remembered)
  answer? := m.modelOf remembered
  remark := "Please select one of the available options"

/-- A line that stands for the default exactly when it is empty; otherwise it
is trimmed. -/
def Memory.orDefault (m : Memory α) (remembered : α) (line : Text) : α :=
  if line.isEmpty then remembered else m.typed line.strip

/-- A question that any line answers. -/
def Memory.freeQuestion (m : Memory α) (question : Text) (remembered : α) : Question α where
  prompt := promptText question [] (m.shown remembered)
  answer? line := some (m.orDefault remembered line)
  remark := []

/-- The question for the tables. -/
def tablesQuestion (remembered : Text) : Question Text :=
  Memory.texts.freeQuestion "Enter tables to generate (comma-separated)" remembered

/-- The question for the file to write. -/
def Memory.dataOutputQuestion (m : Memory α) (remembered : α) : Question α :=
  m.freeQuestion "Enter output file path for data" remembered

/-- The question for the row counts. -/
def Memory.syntheticGenerateQuestion (m : Memory α) (remembered : α) : Question α :=
  m.freeQuestion "Enter tables and row counts (e.g., employees(100),departments(50))" remembered

/-- A line as yes or no: no if it is empty, else one letter in either case once
it is trimmed. -/
def yesNoOf (line : Text) : Option Bool :=
  if line.isEmpty then some false
  else if line.strip.lower = Text.ofString "y" then some true
  else if line.strip.lower = Text.ofString "n" then some false
  else none

/-- The question whether to remember the answers. -/
def rememberQuestion : Question Bool where
  prompt := promptText "Remember these answers as defaults?" ["y", "n"] (some "n")
  answer? := yesNoOf
  remark := "Please enter Y or N"

/-- The words at the beginning. -/
def welcome : Shown := .verbatim "Welcome to the SMG Interactive CLI!\n"

/-- The defaults of the four questions. The tables are put into one line only
when their question comes up, and that can be a fault. -/
structure Defaults (α : Type) where
  model : α
  tables : Except Fault Text
  dataOutput : α
  syntheticGenerate : α

/-- The answers to the four questions. -/
structure Answers (α : Type) where
  model : α
  tables : Text
  dataOutput : α
  syntheticGenerate : α
deriving DecidableEq, Repr

/-- The four questions after the welcome. -/
def Memory.questions (m : Memory α) (d : Defaults α) (keys : Keyboard) : Reply (Answers α) :=
  ((m.modelQuestion d.model).ask keys).andThen fun model keys =>
  match d.tables with
  | .error f => .refused f keys
  | .ok line =>
    ((tablesQuestion line).ask keys).andThen fun tables keys =>
    ((m.dataOutputQuestion d.dataOutput).ask keys).andThen fun dataOutput keys =>
    ((m.syntheticGenerateQuestion d.syntheticGenerate).ask keys).andThen fun rows keys =>
    .pure ⟨model, tables, dataOutput, rows⟩ keys

/-- **The four questions**, with defaults of some kind: `AnswerCollector.collect`. -/
def Memory.collect (m : Memory α) (d : Defaults α) (keys : Keyboard) : Reply (Answers α) :=
  { m.questions d keys with shown := welcome :: (m.questions d keys).shown }

/-- The defaults that settings give. -/
def Defaults.ofSettings (s : Settings) : Defaults Text where
  model := s.model
  tables := .ok (Text.join [','] s.tables)
  dataOutput := s.dataOutput
  syntheticGenerate := s.syntheticGenerate

/-- The defaults that a draft gives. -/
def Defaults.ofDraft (d : Settings.Draft) : Defaults Value where
  model := d.model
  tables := d.tablesLine.mapError .listing
  dataOutput := d.dataOutput
  syntheticGenerate := d.syntheticGenerate

/-- The options of the four answers. -/
def Answers.options (a : Answers Text) : Options :=
  (((Options.empty.set .model (some a.model)).set .tables (some a.tables)).set .dataOutput
    (some a.dataOutput)).set .syntheticGenerate (some a.syntheticGenerate)

/-- **The four questions**, with settings as defaults. -/
def collect (s : Settings) (keys : Keyboard) : Reply Options :=
  (Memory.texts.collect (.ofSettings s) keys).map Answers.options

/-- **The fifth question**: `AnswerCollector.confirm_save`. -/
def confirm (keys : Keyboard) : Reply Bool := rememberQuestion.ask keys

/-- **The interview**: the four answers, and whether to remember them, as `run_interactive` asks
for them. -/
def interview (s : Settings) (keys : Keyboard) : Reply (Options × Bool) :=
  (collect s keys).andThen fun o keys =>
  (confirm keys).andThen fun remember keys =>
  .pure (o, remember) keys

end SynthDesk.Interview
