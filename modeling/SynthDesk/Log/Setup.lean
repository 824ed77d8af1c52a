/-
Where the log goes.

The log of the program has handlers: a console takes what weighs enough, and a
file takes everything. Setting up closes all handlers from before, puts up one
console and then one file; a file that cannot be opened is reported as a
warning, which the new console alone takes. Records of other programs do not
come here.
-/
import SynthDesk.Log.Record
import SynthDesk.Files.FileTree

set_option autoImplicit false

namespace SynthDesk

namespace Log

/-! ## Handlers -/

/-- Something that takes records from a level on. -/
inductive Handler
  | console (least : Level)
  | file (path : Path) (least : Level)
deriving DecidableEq, Repr

/-- The level from which a handler takes records. -/
def Handler.least : Handler → Level
  | console l => l
  | file _ l => l

/-- The log of the program. -/
structure Logger where
  handlers : List Handler
  /-- Records go on to the logs above. -/
  propagates : Bool
deriving DecidableEq, Repr

/-- The log before any set-up. -/
def Logger.bare : Logger := ⟨[], true⟩

/-- The trace of a record as it follows the message: on a line of its own. -/
def traceLine (r : Record) : Text :=
  match r.trace with
  | none => []
  | some t => (if r.message.getLast? = some Text.newline then [] else [Text.newline]) ++ t

/-- The line of a record in a file, in the layout of `LOG_FORMAT`. The time of day, which a file
puts before it, is left to the file, and so are the places that a fault came through, which
stand between the message and the last line of a trace. -/
def line (r : Record) : Text :=
  CodePoint.ofChar '[' :: r.level.name ++ Text.ofString "] " ++ r.source ++ Text.ofString " - " ++
    r.message ++ traceLine r ++ [Text.newline]

/-- The tree after a file took a record, as `FileHandler.emit` writes it. A text that has no
UTF-8 form is not taken. -/
def writeLine (t : FileTree) (p : Path) (r : Record) : FileTree :=
  if (line r).any Utf8.isHalf then t
  else match t.append p (Utf8.encode (line r)) with
    | .ok t' => t'
    | .error _ => t

/-- The tree after a handler was given a record. -/
def Handler.handle (h : Handler) (t : FileTree) (r : Record) : FileTree :=
  match h with
  | console _ => t
  | file p least => if least.admits r.level then writeLine t p r else t

/-- The tree after the log was given a record. -/
def Logger.handle (l : Logger) (t : FileTree) (r : Record) : FileTree :=
  if belongs r.source then l.handlers.foldl (fun t h => h.handle t r) t else t

/-- The tree after the log was given records in order. -/
def Logger.handleAll (l : Logger) (t : FileTree) (rs : List Record) : FileTree :=
  rs.foldl l.handle t

/-- A console shows the record. -/
def Logger.showsOnConsole (l : Logger) (r : Record) : Bool :=
  belongs r.source && l.handlers.any fun
    | .console least => least.admits r.level
    | .file _ _ => false

/-! ## Setting up -/

/-- The name of the file if none is given. -/
def fileName : Text := "smg-cli.log"

/-- The path of the file: the given one unless it is empty, else one in the
working directory, if there still is one. -/
def filePath (t : FileTree) : Option Text → Except SystemError Path
  | some (c :: r) => .ok (.ofText (c :: r))
  | _ => t.atHome fileName

/-- The file opened at its end, as `FileHandler` opens it: its path from the root, and the tree
afterwards. -/
def openAtEnd (t : FileTree) (p : Path) : Except FileError (Path × FileTree) :=
  match t.absolute p with
  | .error e => .error (.system e)
  | .ok full => (t.append full []).map fun t' => (full, t')

/-- The console's level. -/
def consoleLevel (verbose : Bool) : Level := if verbose then .debug else .warning

/-- What a set-up leaves behind. -/
structure SetUp where
  logger : Logger
  tree : FileTree
  /-- The handlers from before, all of them closed. -/
  closed : List Handler
  records : List Record
  /-- What leaves the set-up. -/
  fault : Option FileError
deriving DecidableEq, Repr

/-- The warning about a file that cannot be opened. -/
def openWarning (p : Path) (e : SystemError) : Record :=
  ⟨.warning, program, Text.ofString "Could not open log file " ++ p.toText ++ Text.ofString ": " ++
    e.message, none⟩

/-- **Setting up**: `configure_logging`. Without a name for the file the working directory is asked
for outside of what catches refusals, so one that was removed leaves the set-up unfinished. -/
def Logger.configure (l : Logger) (t : FileTree) (verbose : Bool) (file : Option Text) : SetUp :=
  let console := Handler.console (consoleLevel verbose)
  let left (e : FileError) : SetUp := ⟨⟨[console], l.propagates⟩, t, l.handlers, [], some e⟩
  match filePath t file with
  | .error e => left (.system e)
  | .ok path =>
    match openAtEnd t path with
    | .ok (full, t') => ⟨⟨[console, .file full .debug], false⟩, t', l.handlers, [], none⟩
    | .error (.system e) => ⟨⟨[console], false⟩, t, l.handlers, [openWarning path e], none⟩
    | .error e => left e

end Log

end SynthDesk
