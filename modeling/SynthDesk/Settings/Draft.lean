/-
Settings as they are handed over to be saved.

A draft has the four entries of the settings, but any value can stand in them:
what is wrong with a draft shows only when it is to be written. The tables have
to be something that can be gone through, item by item; the other entries are
taken as they are.
-/
import SynthDesk.Settings.Basic
import SynthDesk.Json.Writer

set_option autoImplicit false

namespace SynthDesk.Settings

/-- Four entries of any kind: an `SmgConfig` as a caller can make one. -/
structure Draft where
  model : Value
  tables : Value
  dataOutput : Value
  syntheticGenerate : Value

/-- Settings are a draft with nothing wrong. -/
def toDraft (s : Settings) : Draft where
  model := .text s.model
  tables := .list (s.tables.map .text)
  dataOutput := .text s.dataOutput
  syntheticGenerate := .text s.syntheticGenerate

/-- Why a draft cannot be written. -/
inductive DraftError
  /-- The tables are of a kind without items. -/
  | noItems (kind : Text)
  /-- There is no document of it. -/
  | document (e : Json.WriteError)
deriving DecidableEq, Repr

/-- How the refusal reads. -/
def DraftError.message : DraftError → Text
  | noItems kind => CodePoint.ofChar '\x27' :: kind ++ Text.ofString "' object is not iterable"
  | document e => e.message

/-- The items of a value: those of a list, the code points of a text, the names
of an object, or what else going through it gives. -/
def itemsOf : Value → Except DraftError (List Value)
  | .list items => .ok items
  | .text t => .ok (t.map fun c => .text [c])
  | .object fields => .ok (fields.map fun f => .text f.1)
  | .foreign _ _ _ (some items) => .ok items
  | v => .error (.noItems v.kind)

/-- Why tables cannot be put into one line. -/
inductive ListingError
  /-- The tables are of a kind without items. -/
  | noItems
  /-- An item is no text: its place and its kind. -/
  | item (index : Nat) (kind : Text)
deriving DecidableEq, Repr

/-- How the refusal reads. -/
def ListingError.message : ListingError → Text
  | noItems => "can only join an iterable"
  | item n kind =>
    Text.ofString "sequence item " ++ Text.ofNat n ++ Text.ofString ": expected str instance, " ++
      kind ++ Text.ofString " found"

/-- The texts of items from a place on. -/
def itemTexts (place : Nat) : List Value → Except ListingError (List Text)
  | [] => .ok []
  | .text t :: r => (itemTexts (place + 1) r).map (t :: ·)
  | v :: _ => .error (.item place v.kind)

/-- The tables of a draft on one line, with commas between them. -/
def Draft.tablesLine (d : Draft) : Except ListingError Text :=
  match itemsOf d.tables with
  | .error _ => .error .noItems
  | .ok items => (itemTexts 0 items).map (Text.join [','])

/-- The draft as an object: `SmgConfig.to_dict`. -/
def Draft.toValue (d : Draft) : Except DraftError Value :=
  match itemsOf d.tables with
  | .error e => .error e
  | .ok items => .ok (.object [
      (Entry.model.name, d.model),
      (tablesName, .list items),
      (Entry.dataOutput.name, d.dataOutput),
      (Entry.syntheticGenerate.name, d.syntheticGenerate)])

/-- **The document of a draft.** -/
def Draft.document (d : Draft) : Except DraftError Text :=
  match d.toValue with
  | .error e => .error e
  | .ok v => match Json.write v with
    | .error e => .error (.document e)
    | .ok t => .ok t

/-- A draft made from settings is the object of the settings. -/
theorem toValue_toDraft (s : Settings) : s.toDraft.toValue = .ok s.toValue := rfl

end SynthDesk.Settings
