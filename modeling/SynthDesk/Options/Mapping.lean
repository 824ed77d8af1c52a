/-
Options from a loose mapping.

A mapping may name a parameter by its flag or by its entry, and may hold names
that mean nothing here. Values that are no texts are displayed; an empty value
leaves the parameter open. Where several names of a mapping mean the same
parameter, the last one decides.
-/
import SynthDesk.Options.Basic
import SynthDesk.Value.Display

set_option autoImplicit false

namespace SynthDesk.Options

/-- What a value asks for: nothing, or its display. -/
def wanted : Value → Except Value.TooManyDigits (Option Text)
  | .null => .ok none
  | v => v.display.map some

/-- The options after one more entry of a mapping. -/
def take (o : Options) (entry : Text × Value) : Except Value.TooManyDigits Options :=
  match Flag.ofAlias? entry.1 with
  | none => .ok o
  | some f => (wanted entry.2).map fun v => o.set f v

/-- **The options of a mapping**: `InvocationOptions.from_mapping`. -/
def ofMapping (entries : Keyed Value) : Except Value.TooManyDigits Options :=
  entries.foldlM take empty

end SynthDesk.Options
