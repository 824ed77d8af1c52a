/-
The command that starts the engine.

A runtime, the option that runs an archive, the archive, and the arguments.
Runtime and archive have names of their own, which the environment can
replace; an empty replacement counts as none.
-/
import SynthDesk.Text.Split

set_option autoImplicit false

namespace SynthDesk.Engine

/-- Where the runtime and the engine's archive are: `EngineSettings`. -/
structure Location where
  runtime : Text
  jar : Text
deriving DecidableEq, Repr

namespace Location

/-- Where they are if nobody says otherwise. -/
def standard : Location where
  runtime := "java"
  jar := "../core/target/smg-core-1.0.0.jar"

/-- A replacement, unless it is missing or empty. -/
def orElse (standard : Text) : Option Text → Text
  | some (c :: r) => c :: r
  | _ => standard

/-- Where the environment says they are: `EngineSettings.from_env`. -/
def ofEnvironment (runtime jar : Option Text) : Location where
  runtime := orElse standard.runtime runtime
  jar := orElse standard.jar jar

/-- **The command** with arguments: `EngineSettings.command`. -/
def command (l : Location) (args : List Text) : List Text :=
  l.runtime :: Text.ofString "-jar" :: l.jar :: args

end Location

end SynthDesk.Engine
