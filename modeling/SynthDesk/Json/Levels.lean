/-
How deep a value may be written.

The writer goes down from level to level, and it has so many of them. An array or an object
with members opens a level, a double takes one for its digits, and what is foreign to documents
takes two until it is refused; anything else is written on the level where it stands, an empty
array or object as well. Of several things that are in
the way, the first one in the document counts: what comes after it is not looked at.
-/
import SynthDesk.Json.Writer

set_option autoImplicit false

namespace SynthDesk.Json

/-- There are not levels enough. -/
inductive OutOfLevels
  | mk
deriving DecidableEq, Repr

/-- What can be in the way of writing. -/
inductive Obstacle
  /-- A whole number is too long for print. -/
  | digits
  /-- Something of a class that no document can hold. -/
  | unsupported (className : Text)
  /-- There are no more levels. -/
  | levels
deriving DecidableEq, Repr

/-- The first obstacle of an array or object with so many members: none, if there are no
members; the bracket itself, if there is no level for it; or what is inside. -/
def bracketObstacle? (members : Nat) (inside : Nat → Option Obstacle) : Nat → Option Obstacle
  | 0 => if members = 0 then none else some .levels
  | levels + 1 => inside levels

mutual

/-- **The first obstacle** to writing a value, with the levels that may still be opened. -/
def obstacle? (levels : Nat) : Value → Option Obstacle
  | .null => none
  | .bool _ => none
  | .int i => match Value.numeral i with
    | .error _ => some .digits
    | .ok _ => none
  | .float _ => if levels = 0 then some .levels else none
  | .text _ => none
  | .list items => bracketObstacle? items.length (fun n => itemsObstacle? n items) levels
  | .object fields => bracketObstacle? fields.length (fun n => fieldsObstacle? n fields) levels
  | .foreign className _ _ _ => some (if levels < 2 then .levels else .unsupported className)

/-- The first obstacle among items. -/
def itemsObstacle? (levels : Nat) : List Value → Option Obstacle
  | [] => none
  | v :: r => (obstacle? levels v).or (itemsObstacle? levels r)

/-- The first obstacle among fields. -/
def fieldsObstacle? (levels : Nat) : List (Text × Value) → Option Obstacle
  | [] => none
  | (_, v) :: r => (obstacle? levels v).or (fieldsObstacle? levels r)

end

end SynthDesk.Json
