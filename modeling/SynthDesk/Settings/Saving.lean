/-
Saving, as far as the levels go.

A draft can be nested deeper than a document can be written. That is no reason for a note, as
any other is: the saving is left by the side, before the file is touched.
-/
import SynthDesk.Settings.Store
import SynthDesk.Json.Levels

set_option autoImplicit false

namespace SynthDesk.Settings

/-- The levels give out before the draft is written, and before anything else is in the way. -/
def Draft.exceeds (d : Draft) (levels : Nat) : Bool :=
  match d.toValue with
  | .error _ => false
  | .ok v => Json.obstacle? levels v = some .levels

namespace Store

/-- How a saving ends: whether it was saved, unless the levels gave out; the tree afterwards;
and what is noted. -/
structure SaveEnding where
  answer : Except Json.OutOfLevels Bool
  tree : FileTree
  records : List Log.Record
deriving Repr

/-- **Saving with so many levels**: `ConfigStore.save`. -/
def saveWithin (store : Store) (levels : Nat) (t : FileTree) (d : Draft) : SaveEnding :=
  if d.exceeds levels then ⟨.error .mk, t, []⟩
  else
    let r := store.save t d
    ⟨.ok r.saved, r.tree, r.records⟩

end Store

end SynthDesk.Settings
