/-
The program as a whole.

Without arguments it holds an interview, with arguments it carries out a
command. A command line that is refused, or that asks for the version or for
help, has no effect but its answer: nothing is set up and nothing is started.
What goes wrong with setting up the log, or with finding the settings' file,
leaves the program.
-/
import SynthDesk.CommandLine
import SynthDesk.Session

set_option autoImplicit false

namespace SynthDesk.Program

/-- What the program finds. -/
structure Surroundings where
  environment : Environment
  tree : FileTree
  keyboard : Interview.Keyboard
  /-- What comes of the attempt to start the engine. -/
  attempt : Engine.Attempt
  screen : Console.Screen
  /-- How many levels the reader of documents may go down: what its recursion limit leaves. -/
  levels : Nat
deriving DecidableEq, Repr

/-- The status of a refused command line. -/
def usageStatus : Int := 2

/-- An ending without any set-up. -/
def answered (w : Surroundings) (status : Int) (effects : List Effect) : Session.Ending :=
  ⟨.ok status, effects, none, w.keyboard, ⟨w.tree, .bare⟩⟩

/-- The log set up (`configure_logging`), and what is noted about it. -/
def setUp (w : Surroundings) (verbose : Bool) : Desk × List Effect :=
  let s := Log.Logger.bare.configure w.tree verbose none
  let effects := s.records.map Effect.notes
  ((⟨s.tree, s.logger⟩ : Desk).after effects, effects)

/-- What leaves the set-up of the log: the working directory was removed. -/
def setUpFault (w : Surroundings) (verbose : Bool) : Option Fault :=
  (Log.Logger.bare.configure w.tree verbose none).fault.map Fault.ofFileError

/-- The ending of a program that a fault leaves before its session. -/
def left (w : Surroundings) (verbose : Bool) (f : Fault) : Session.Ending :=
  (Session.Ending.early (setUp w verbose).1 w.keyboard (.error f) []).preceded (setUp w verbose).2

/-- The program without arguments: `run_interactive_mode`. -/
def interactive (w : Surroundings) : Session.Ending :=
  match setUpFault w false with
  | some f => left w false f
  | none =>
    let ready := setUp w false
    match Settings.Store.resolve ready.1.tree w.environment.settings none with
    | .error e => left w false (.system e)
    | .ok store =>
      (Session.interactive store w.levels w.environment.location ready.1 w.keyboard
        w.attempt).preceded ready.2

/-- The program with arguments: what `app` does with them, and `generate`. -/
def direct (w : Surroundings) (args : List Text) : Session.Ending :=
  match CommandLine.parse args with
  | .error _ => answered w usageStatus []
  | .ok .version => answered w 0 [.shows (.verbatim CommandLine.versionText)]
  | .ok .help => answered w 0 []
  | .ok (.generate o verbose) =>
    match setUpFault w verbose with
    | some f => left w verbose f
    | none =>
      let ready := setUp w verbose
      (Session.direct w.screen w.environment.location ready.1 w.keyboard o w.attempt).preceded
        ready.2

/-- **The program** (`main`), with the arguments after its name. -/
def run (w : Surroundings) (args : List Text) : Session.Ending :=
  match args with
  | [] => interactive w
  | _ => direct w args

end SynthDesk.Program
