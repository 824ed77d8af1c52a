/-
The program at a terminal.

Everything is decided by `Program.run`; what happens here is fetching and
bringing. The files that a session can touch are read into a file tree
beforehand and written back where they have changed. The interview is held by
asking the library what it would show for the lines read so far: what is new
is shown, and one more line is read until no more is asked for. Processes are
not started from here, so a command ends with the refusal that the system
gives to whoever lacks the function.
-/
import SynthDesk.Program

set_option autoImplicit false

namespace SynthDesk.Terminal

/-! ## Files -/

/-- Octets of a file on disk. -/
def octetsOf (bytes : ByteArray) : List Octet := bytes.toList.map fun b => Utf8.octet b.toNat

/-- Octets for a file on disk. -/
def bytesOf (octets : List Octet) : ByteArray :=
  ⟨(octets.map fun o => UInt8.ofNat o.val).toArray⟩

/-- A place as the system writes it. -/
def nameOf (at_ : Place) : String :=
  Text.toString (Path.toText ⟨[Path.slash], at_⟩)

/-- The tree with nothing but a working directory and the way to it. -/
def startTree (home : Place) : FileTree where
  home := home
  entries := (List.range home.length).map fun n => (home.take (n + 1), .directory)
  bars := []

/-- The tree with what the disk has at a path. -/
def fetch (t : FileTree) (p : Path) : IO FileTree := do
  match t.locate p with
  | .error _ => return t
  | .ok at_ =>
    try
      let bytes ← IO.FS.readBinFile (nameOf at_)
      return t.put at_ (.file (octetsOf bytes))
    catch _ => return t

/-- The tree with the directories on the way to a path that the disk has. -/
def fetchWay (t : FileTree) (p : Path) : IO FileTree := do
  let start := if p.isAbsolute then [] else t.home
  let mut tree := t
  let mut at_ : Place := start
  for part in p.parts do
    if part = FileTree.up then at_ := at_.dropLast
    else
      at_ := at_ ++ [part]
      let found ← try
          let _ ← IO.FS.realPath (nameOf at_ ++ "/.")
          pure true
        catch _ => pure false
      if found && (tree.entryAt at_).isNone then tree := tree.put at_ .directory
  return tree

/-- What has changed is written to the disk. -/
def bring (before after : FileTree) : IO Unit := do
  for (at_, e) in after.entries do
    match e with
    | .file content =>
      if before.entryAt at_ != some e then IO.FS.writeBinFile (nameOf at_) (bytesOf content)
    | _ => pure ()

/-! ## The keyboard -/

/-- A line without its line end. -/
def lineOf (s : String) : Text :=
  let t := Text.ofString s
  match t.reverse with
  | c :: r => if c = Text.newline then r.reverse else t
  | [] => []

/-- Lines are read until the interview over the settings asks for no more. The
text shown on the way is counted. -/
partial def converse (s : Settings) (keys : Interview.Keyboard) (shownSoFar : Nat) :
    IO (Interview.Keyboard × Nat) := do
  let reply := Interview.interview s keys
  let text := reply.shown.flatMap Shown.render
  (← IO.getStdout).putStr (Text.toString (text.drop shownSoFar))
  (← IO.getStdout).flush
  match reply.result with
  | .ok _ => return (keys, text.length)
  | .error _ =>
    let line ← (← IO.getStdin).getLine
    if line.isEmpty then return (keys, text.length)
    converse s (keys ++ [.line (lineOf line)]) text.length

/-! ## The program -/

/-- A variable of the environment as text. -/
def variable_ (name : String) : IO (Option Text) := do
  return (← IO.getEnv name).map Text.ofString

/-- A screen of the common width. Nothing is known of pictures here, and what has no octets is
shown by a mark. -/
def screen : Console.Screen := .common [] false

/-- The levels that the reader of documents may go down. -/
def levels : Nat := 990

/-- The surroundings at a terminal. -/
def surroundings (environment : Environment) : IO Program.Surroundings := do
  let here := Path.ofText (Text.ofString (← IO.currentDir).toString)
  let mut t := startTree here.parts
  if let .ok settingsPath := Settings.Store.startingPath t environment.settings none then
    t ← fetchWay t settingsPath
    t ← fetch t settingsPath
    t ← fetch t (settingsPath.child Settings.fileName)
  if let .ok logPath := Log.filePath t none then
    t ← fetch t logPath
  let refusal := SystemError.ofReason (.other 38 "Function not implemented")
    environment.location.runtime
  return { environment, tree := t, keyboard := [], attempt := .refused (.system refusal)
           screen := screen, levels := levels }

/-- The lines of the keyboard, if the program is going to hold an interview. -/
def readKeyboard (w : Program.Surroundings) : IO (Interview.Keyboard × Nat) := do
  match Settings.Store.resolve w.tree w.environment.settings none with
  | .error _ => return ([], 0)
  | .ok store => match store.load w.levels w.tree with
    | .error _ => return ([], 0)
    | .ok loaded => converse loaded.settings [] 0

/-- How the program is used, in short. -/
def usage : String := "Usage: smg [OPTIONS]\n"

/-- What is said about a command line beside what the program does. -/
def remark (args : List Text) : IO Unit := do
  match args with
  | [] => pure ()
  | _ => match CommandLine.parse args with
    | .error e => IO.eprintln (usage ++ "Error: " ++ Text.toString e.message)
    | .ok .help => IO.print usage
    | .ok _ => pure ()

/-- The records that the log's console takes. -/
def showRecords (e : Session.Ending) : IO Unit := do
  for r in Effect.noted e.effects do
    if e.desk.logger.showsOnConsole r then IO.eprint (Text.toString (Log.line r))

/-- The status as the system takes it. -/
def statusOf (n : Int) : UInt32 := UInt32.ofNat (n % 256).toNat

/-- The whole program. -/
def run (args : List String) : IO UInt32 := do
  let args := args.map Text.ofString
  let environment : Environment :=
    ⟨← variable_ "SMG_CONFIG", ← variable_ "SMG_JAVA", ← variable_ "SMG_ENGINE_JAR"⟩
  let w ← surroundings environment
  let (keys, shownSoFar) ← if args.isEmpty then readKeyboard w else pure ([], 0)
  let ending := Program.run { w with keyboard := keys } args
  IO.print (Text.toString ((Effect.printed ending.effects).drop shownSoFar))
  remark args
  bring w.tree ending.desk.tree
  showRecords ending
  match ending.exit with
  | .ok n => return statusOf n
  | .error f =>
    IO.eprintln (Text.toString f.message)
    return 1

end SynthDesk.Terminal

/-- The program with the arguments after its name. -/
def main (args : List String) : IO UInt32 := SynthDesk.Terminal.run args
