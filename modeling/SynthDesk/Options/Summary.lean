/-
Options for the eye.

One line of markup for each requested parameter, the flag in colour and the
text after it; the key of the data service is masked. Without any request a
single line says so.
-/
import SynthDesk.Options.Basic
import SynthDesk.Text.Split

set_option autoImplicit false

namespace SynthDesk.Options

/-- Markup for one parameter: `ConsoleStyles.engine_flag`. -/
def flagMarkup (flag value : Text) : Text :=
  Text.ofString "[cyan]-" ++ flag ++ Text.ofString ":[/cyan] " ++ value

/-- A parameter whose text is not for the eye: one of `_MASKED_FLAGS`. -/
def isSecret : Flag → Bool
  | .mockApiKey => true
  | _ => false

/-- What stands for a secret. -/
def mask : Text := "****"

/-- The text that is shown for a parameter. -/
def shown (f : Flag) (v : Text) : Text := if isSecret f then mask else v

/-- The line when nothing is requested. -/
def nothingRequested : Text := "[dim]No parameters; engine defaults apply[/dim]"

/-- The lines of the summary. -/
def summaryLines (o : Options) : List Text :=
  o.present.map fun (f, v) => flagMarkup f.name (shown f v)

/-- **The summary**, as markup: `describe_options`. -/
def describe (o : Options) : Text :=
  match o.summaryLines with
  | [] => nothingRequested
  | ls => Text.join [Text.newline] ls

end SynthDesk.Options
