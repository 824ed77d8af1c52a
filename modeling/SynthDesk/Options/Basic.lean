/-
The parameters of a generation.

There are seven, each named by a flag, and each may be left open. A parameter
that is open, or given as an empty text, is not requested: the engine's own
default applies to it.
-/
import SynthDesk.Text.Basic

set_option autoImplicit false

namespace SynthDesk

/-! ## Flags -/

/-- The parameters that can be requested. -/
inductive Flag
  | model
  | tables
  | diagram
  | schemaOutput
  | dataOutput
  | syntheticGenerate
  | mockApiKey
deriving DecidableEq, Repr

namespace Flag

/-- The flags in their order, that of `flag_names`. -/
def all : List Flag :=
  [.model, .tables, .diagram, .schemaOutput, .dataOutput, .syntheticGenerate, .mockApiKey]

theorem mem_all (f : Flag) : f ∈ all := by cases f <;> decide

/-- The name that the engine knows a flag by. -/
def name : Flag → Text
  | model => "model"
  | tables => "tables"
  | diagram => "diagram"
  | schemaOutput => "schemaOutput"
  | dataOutput => "dataOutput"
  | syntheticGenerate => "syntheticGenerate"
  | mockApiKey => "mockApiKey"

/-- The name of a flag's entry in a record of options. -/
def entryName : Flag → Text
  | model => "model"
  | tables => "tables"
  | diagram => "diagram"
  | schemaOutput => "schema_output"
  | dataOutput => "data_output"
  | syntheticGenerate => "synthetic_generate"
  | mockApiKey => "mock_api_key"

/-- The flag of an engine name. -/
def ofName? (t : Text) : Option Flag := all.find? fun f => f.name = t

/-- The flag that a name means in a loose mapping: an engine name, or the name
of an entry. -/
def ofAlias? (t : Text) : Option Flag := all.find? fun f => f.name = t || f.entryName = t

theorem name_injective {f g : Flag} (h : f.name = g.name) : f = g := by
  revert h; cases f <;> cases g <;> decide

theorem ofName?_name (f : Flag) : ofName? f.name = some f := by cases f <;> decide

end Flag

/-! ## Options -/

/-- What is asked for under each flag; open where nothing is. An `InvocationOptions`. -/
structure Options where
  get : Flag → Option Text

namespace Options

/-- Nothing asked for. -/
def empty : Options := ⟨fun _ => none⟩

/-- The options with another text, or none, under a flag. -/
def set (o : Options) (f : Flag) (v : Option Text) : Options :=
  ⟨fun g => if g = f then v else o.get g⟩

/-- The text under a flag that is really requested: given and not empty. -/
def requested (o : Options) (f : Flag) : Option Text :=
  match o.get f with
  | some (c :: r) => some (c :: r)
  | _ => none

/-- **What is requested**, in the order of the flags: `InvocationOptions.present`. -/
def present (o : Options) : List (Flag × Text) :=
  Flag.all.filterMap fun f => (o.requested f).map (f, ·)

theorem get_set_self (o : Options) (f : Flag) (v : Option Text) : (o.set f v).get f = v := by
  simp [set]

theorem get_set_of_ne (o : Options) {f g : Flag} (h : g ≠ f) (v : Option Text) :
    (o.set f v).get g = o.get g := by
  simp [set, h]

theorem ext_get {o p : Options} (h : ∀ f, o.get f = p.get f) : o = p := by
  cases o; cases p; congr; exact funext h

end Options

end SynthDesk
