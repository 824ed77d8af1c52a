/-
What is noted down while the program works.

A record has a level, the name of the part that made it, a message, and the fault
that it was made for, if it was. Levels are ordered by weight; a reader of the log
asks for a level and gets what weighs at least as much. Names form a tree: `a.b`
lies below `a`.
-/
import SynthDesk.Text.Basic

set_option autoImplicit false

namespace SynthDesk.Log

/-! ## Levels -/

/-- How much a record weighs. -/
inductive Level
  | debug
  | info
  | warning
  | error
  | critical
deriving DecidableEq, Repr

/-- The levels in ascending order. -/
def Level.all : List Level := [.debug, .info, .warning, .error, .critical]

/-- The weight of a level. -/
def Level.weight : Level → Nat
  | debug => 10
  | info => 20
  | warning => 30
  | error => 40
  | critical => 50

/-- The name of a level in print. -/
def Level.name : Level → Text
  | debug => "DEBUG"
  | info => "INFO"
  | warning => "WARNING"
  | error => "ERROR"
  | critical => "CRITICAL"

/-- The second level weighs at least as much as the first. -/
def Level.admits (least l : Level) : Bool := least.weight ≤ l.weight

/-! ## Records -/

/-- A note: what a call of `logger.debug` and its like makes. -/
structure Record where
  level : Level
  /-- The name of the part that made it. -/
  source : Text
  message : Text
  /-- The last line of the trace, if the note is made with one (`exc_info`, `logger.exception`):
  the kind of the fault and its words. -/
  trace : Option Text
deriving DecidableEq, Repr

/-- The name that all parts of the program lie below. -/
def program : Text := "smg_cli"

/-- The part that keeps the settings: the logger of `ConfigStore`. -/
def settingsPart : Text := "smg_cli.config_utils.smg_config"

/-- The part that runs the engine: the logger of `EngineExecutor`. -/
def enginePart : Text := "smg_cli.engine.engine_executor"

/-- The part that carries commands out: the logger of `generate_from_options` and its like. -/
def commandPart : Text := "smg_cli.cli_utils.generate_commands"

/-- The name is that of the program or lies below it. -/
def belongs (source : Text) : Bool :=
  match Text.after? program source with
  | none => false
  | some [] => true
  | some (c :: _) => c = '.'

example : belongs enginePart = true := by decide
example : belongs (Text.ofString "smg_cli_other") = false := by decide

end SynthDesk.Log
