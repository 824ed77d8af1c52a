/-
The settings: answers that are remembered as defaults of the next interview.

Four entries, each with an initial content. Settings are read from a value by
taking each entry that is there and the initial content of each that is not;
an entry of the wrong kind spoils the reading as a whole, and the first such
entry in a fixed order is the one named.
-/
import SynthDesk.Value.Basic

set_option autoImplicit false

namespace SynthDesk

/-- The remembered answers: `SmgConfig`. -/
structure Settings where
  model : Text
  tables : List Text
  dataOutput : Text
  syntheticGenerate : Text
deriving DecidableEq, Repr

namespace Settings

/-- What holds before anything was remembered. -/
def initial : Settings where
  model := "HR"
  tables := ["employees", "departments", "jobs"]
  dataOutput := "data/synthetic_data.sql"
  syntheticGenerate := "employees(100),departments(50),jobs(10)"

/-! ## Names of the entries -/

/-- The entries that hold one text. -/
inductive Entry
  | model
  | dataOutput
  | syntheticGenerate
deriving DecidableEq, Repr

/-- The name of an entry in a document. -/
def Entry.name : Entry → Text
  | model => "model"
  | dataOutput => "dataOutput"
  | syntheticGenerate => "syntheticGenerate"

/-- The name of the entry that holds a list. -/
def tablesName : Text := "tables"

/-! ## From and to values -/

/-- Why a value holds no settings. -/
inductive ShapeError
  /-- Not an object; the kind of value that was found. -/
  | notAnObject (kind : Text)
  /-- The tables are no list of texts. -/
  | tables
  /-- An entry is no text. -/
  | entry (e : Entry)
deriving DecidableEq, Repr

/-- How the refusal reads. -/
def ShapeError.message : ShapeError → Text
  | notAnObject kind => Text.ofString "Expected a JSON object, got " ++ kind
  | tables => "'tables' must be a list of strings"
  | entry e => CodePoint.ofChar '\x27' :: e.name ++ Text.ofString "' must be a string"

/-- The tables of an object. -/
def tablesOf (fields : Keyed Value) : Except ShapeError (List Text) :=
  match fields.get? tablesName with
  | none => .ok initial.tables
  | some (.list items) => match Value.texts? items with
    | some ts => .ok ts
    | none => .error .tables
  | some _ => .error .tables

/-- The text of an entry of an object. -/
def entryOf (fields : Keyed Value) (e : Entry) (otherwise : Text) : Except ShapeError Text :=
  match fields.get? e.name with
  | none => .ok otherwise
  | some (.text t) => .ok t
  | some _ => .error (.entry e)

/-- **Reading settings** (`SmgConfig.from_dict`). The tables are looked at first. -/
def ofValue : Value → Except ShapeError Settings
  | .object fields => do
    let tables ← tablesOf fields
    let model ← entryOf fields .model initial.model
    let dataOutput ← entryOf fields .dataOutput initial.dataOutput
    let syntheticGenerate ← entryOf fields .syntheticGenerate initial.syntheticGenerate
    return { model, tables, dataOutput, syntheticGenerate }
  | v => .error (.notAnObject v.kind)

/-- The settings as an object: `SmgConfig.to_dict`. -/
def toValue (s : Settings) : Value := .object [
  (Entry.model.name, .text s.model),
  (tablesName, .list (s.tables.map .text)),
  (Entry.dataOutput.name, .text s.dataOutput),
  (Entry.syntheticGenerate.name, .text s.syntheticGenerate)]

end Settings

end SynthDesk
