/-
The command line.

Arguments are read from left to right. An argument that begins with a dash and
is longer than one is tried as a long spelling as a whole, up to its first
equals sign; if that fails and it begins with a single dash, it is a cluster of
one-letter spellings. A parameter takes its text from what is left of its own
argument, else from the next argument whatever that looks like. Two dashes
alone end the options. Of two texts for one parameter the later counts.

A faulty option refuses the command line at once. Only then do the requests
for the version or for help count, of which the first given wins; arguments
that belong to nothing are refused last.
-/
import SynthDesk.Options.Basic
import SynthDesk.Text.Numeral
import SynthDesk.Text.Split

set_option autoImplicit false

namespace SynthDesk.CommandLine

/-! ## Spellings -/

/-- An option without a text. -/
inductive Switch
  | verbose
  | version
  | help
deriving DecidableEq, Repr

/-- What an option is. -/
inductive Meaning
  | parameter (f : Flag)
  | switch (s : Switch)
deriving DecidableEq, Repr

/-- The letter of a parameter, as `generate` declares it. -/
def letterOf : Flag → CodePoint
  | .model => CodePoint.ofChar 'm'
  | .tables => CodePoint.ofChar 't'
  | .diagram => CodePoint.ofChar 'd'
  | .schemaOutput => CodePoint.ofChar 's'
  | .dataOutput => CodePoint.ofChar 'o'
  | .syntheticGenerate => CodePoint.ofChar 'g'
  | .mockApiKey => CodePoint.ofChar 'k'

/-- A dash. -/
def dash : CodePoint := CodePoint.ofChar '-'

/-- The long spellings of a parameter, as `generate` declares them: its name after one dash or
two. -/
def longSpellings (f : Flag) : List Text := [dash :: f.name, dash :: dash :: f.name]

/-- The long spelling of a switch. -/
def switchSpelling : Switch → Text
  | .verbose => "--verbose"
  | .version => "--version"
  | .help => "--help"

/-- What a long spelling means. -/
def longMeaning? (t : Text) : Option Meaning :=
  match Flag.all.find? fun f => (longSpellings f).contains t with
  | some f => some (.parameter f)
  | none => ([Switch.verbose, .version, .help].find? fun s => switchSpelling s = t).map .switch

/-- What a letter means. -/
def letterMeaning? (c : CodePoint) : Option Meaning :=
  match Flag.all.find? fun f => letterOf f = c with
  | some f => some (.parameter f)
  | none =>
    if c = 'v' then some (.switch .verbose)
    else if c = 'V' then some (.switch .version)
    else none

/-! ## Refusals -/

/-- Why a command line is refused. -/
inductive UsageError
  /-- No option has the spelling. -/
  | noSuchOption (spelling : Text)
  /-- A parameter without a text. -/
  | missingText (spelling : Text)
  /-- A text for a switch. -/
  | unexpectedText (spelling : Text)
  /-- Arguments that belong to nothing. -/
  | extraArguments (arguments : List Text)
deriving DecidableEq, Repr

/-- A text in which controls are spelled out. -/
def legible (t : Text) : Text :=
  t.flatMap fun c =>
    if c.val < 0x20 || (0x7F ≤ c.val && c.val < 0xA0) then Text.ofString "\\x" ++ Text.hex 2 c.val
    else [c]

/-- How a refusal reads. -/
def UsageError.message : UsageError → Text
  | noSuchOption s => legible (Text.ofString "No such option: " ++ s)
  | missingText s => Text.ofString "Option '" ++ s ++ Text.ofString "' requires an argument."
  | unexpectedText s => Text.ofString "Option '" ++ s ++ Text.ofString "' does not take a value."
  | extraArguments as =>
    legible (Text.ofString "Got unexpected extra argument(s) (" ++ Text.join [' '] as ++
      Text.ofString ")")

/-! ## One argument -/

/-- What an argument with options says about a parameter's text. -/
inductive Tail
  /-- Nothing. -/
  | closed
  /-- The argument holds the text. -/
  | given (f : Flag) (text : Text)
  /-- The next argument is the text. -/
  | awaited (f : Flag) (spelling : Text)
deriving DecidableEq, Repr

/-- What an argument is. -/
inductive Token
  /-- Two dashes: the end of the options. -/
  | endOfOptions
  /-- It belongs to nothing. -/
  | stray
  /-- Switches, and at most one parameter after them. -/
  | options (switches : List Switch) (tail : Tail)
  /-- It is refused. -/
  | refused (e : UsageError)
deriving DecidableEq, Repr

/-- A cluster of letters after its dash. -/
def cluster : Text → Token
  | [] => .options [] .closed
  | c :: r => match letterMeaning? c with
    | none => .refused (.noSuchOption [dash, c])
    | some (.parameter f) =>
      if r.isEmpty then .options [] (.awaited f [dash, c]) else .options [] (.given f r)
    | some (.switch s) => match cluster r with
      | .options switches tail => .options (s :: switches) tail
      | token => token

/-- What stands before the first equals sign, and what after it if there is one. -/
def cutAtEquals (a : Text) : Text × Option Text :=
  match a.dropWhile (· != CodePoint.ofChar '=') with
  | [] => (a, none)
  | _ :: text => (a.takeWhile (· != CodePoint.ofChar '='), some text)

/-- An argument that begins with a dash and goes on. -/
def optionToken (a : Text) : Token :=
  let cut := cutAtEquals a
  match longMeaning? cut.1 with
  | some (.parameter f) => match cut.2 with
    | some text => .options [] (.given f text)
    | none => .options [] (.awaited f cut.1)
  | some (.switch s) => match cut.2 with
    | some _ => .refused (.unexpectedText cut.1)
    | none => .options [s] .closed
  | none =>
    match a with
    | _ :: c :: r => if c = dash then .refused (.noSuchOption cut.1) else cluster (c :: r)
    | _ => .stray

/-- **What an argument is.** -/
def Token.of (a : Text) : Token :=
  match a with
  | c :: d :: r =>
    if c = dash then
      if d = dash && r.isEmpty then .endOfOptions else optionToken a
    else .stray
  | _ => .stray

/-! ## All arguments -/

/-- What was read. -/
structure Reading where
  options : Options
  verbose : Bool
  /-- Requests for version or help, in order. -/
  requests : List Switch
  /-- Arguments that belong to nothing, in order. -/
  extra : List Text

/-- Nothing was read. -/
def Reading.empty : Reading := ⟨.empty, false, [], []⟩

/-- What was read, and a switch. -/
def Reading.switch (r : Reading) : Switch → Reading
  | .verbose => { r with verbose := true }
  | s => { r with requests := r.requests ++ [s] }

/-- What was read, and switches in order. -/
def Reading.switches (r : Reading) (ss : List Switch) : Reading := ss.foldl Reading.switch r

/-- What was read, and the text of a parameter. -/
def Reading.assign (r : Reading) (f : Flag) (text : Text) : Reading :=
  { r with options := r.options.set f (some text) }

/-- Reads arguments one after another, as the parser of `app` does. -/
def scan (seen : Reading) : List Text → Except UsageError Reading
  | [] => .ok seen
  | a :: r => match Token.of a with
    | .endOfOptions => .ok { seen with extra := seen.extra ++ r }
    | .stray => scan { seen with extra := seen.extra ++ [a] } r
    | .refused e => .error e
    | .options switches .closed => scan (seen.switches switches) r
    | .options switches (.given f text) => scan ((seen.switches switches).assign f text) r
    | .options switches (.awaited f spelling) => match r with
      | [] => .error (.missingText spelling)
      | text :: r' => scan ((seen.switches switches).assign f text) r'

/-- What a command line asks for. -/
inductive Invocation
  /-- A generation with options. -/
  | generate (options : Options) (verbose : Bool)
  /-- The version. -/
  | version
  /-- Help. -/
  | help

/-- What is asked for by all that was read. -/
def Reading.invocation (r : Reading) : Except UsageError Invocation :=
  match r.requests with
  | .help :: _ => .ok .help
  | _ :: _ => .ok .version
  | [] => match r.extra with
    | [] => .ok (.generate r.options r.verbose)
    | extra => .error (.extraArguments extra)

/-- **Reading a command line**, without the program's name: `app`, up to the call of `generate`. -/
def parse (args : List Text) : Except UsageError Invocation :=
  match scan .empty args with
  | .error e => .error e
  | .ok r => r.invocation

/-! ## Modes -/

/-- How the program works: `RunMode`. -/
inductive Mode
  | interactive
  | direct
deriving DecidableEq, Repr

/-- The name of a mode. -/
def Mode.name : Mode → Text
  | interactive => "interactive"
  | direct => "direct"

/-- **The mode** (`select_mode`): interactive when nothing follows the program's name. -/
def selectMode (argv : List Text) : Mode :=
  match argv with
  | _ :: _ :: _ => .direct
  | _ => .interactive

/-- The text of the version, as `_version_callback` prints it. -/
def versionText : Text := "smg 1.0.0\n"

end SynthDesk.CommandLine
