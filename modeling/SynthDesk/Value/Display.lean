/-
A value as one line of text for display.

A text on its own is shown as it is. Inside a list or an object every text is
quoted, items are separated by a comma and a blank, and names and values by a
colon and a blank.
-/
import SynthDesk.Value.Basic
import SynthDesk.Text.Quoted
import SynthDesk.Text.Split

set_option autoImplicit false

namespace SynthDesk.Value

/-- The words for the doubles that are no finite numbers. -/
def displayWords : Binary64.Words := ⟨"nan", "inf"⟩

mutual

/-- A value as it stands inside another. -/
def displayInside : Value → Except TooManyDigits Text
  | null => .ok "None"
  | bool b => .ok (if b then Text.ofString "True" else Text.ofString "False")
  | int i => numeral i
  | float x => .ok (x.render displayWords)
  | text t => .ok t.quoted
  | list items => do
    let shown ← displayItems items
    return CodePoint.ofChar '[' :: Text.join ", " shown ++ [CodePoint.ofChar ']']
  | object fields => do
    let shown ← displayFields fields
    return CodePoint.ofChar '\x7b' :: Text.join ", " shown ++ [CodePoint.ofChar '\x7d']
  | foreign _ _ inner _ => .ok inner

/-- The items of a list. -/
def displayItems : List Value → Except TooManyDigits (List Text)
  | [] => .ok []
  | v :: r => do
    let shown ← displayInside v
    return shown :: (← displayItems r)

/-- The fields of an object. -/
def displayFields : List (Text × Value) → Except TooManyDigits (List Text)
  | [] => .ok []
  | (k, v) :: r => do
    let shown ← displayInside v
    return (k.quoted ++ Text.ofString ": " ++ shown) :: (← displayFields r)

end

/-- **Display.** The value as a line of text: its `str`. -/
def display : Value → Except TooManyDigits Text
  | text t => .ok t
  | foreign _ shown _ _ => .ok shown
  | v => displayInside v

end SynthDesk.Value
