/-
Setting up, handler by handler.

Of two handlers that are alike, one can be closed and the other not, and the
list can hold one of them twice. So here each handler that is ever mounted has a
number, and what was closed is kept beside what is mounted. A set-up goes over a
copy of the list: it takes each handler down and closes it. Then it mounts a
console and tries the file. A file that the system refuses is reported to the log
as it is at that moment, and what goes wrong otherwise leaves the set-up unfinished:
a path that lacks octets, or a working directory that was removed.
-/
import SynthDesk.Log.Setup

set_option autoImplicit false

namespace SynthDesk.Log

/-! ## What is mounted -/

/-- What can be mounted: a handler of this program, or somebody else's, of which
the name is all that is known. -/
inductive Fitting
  | own (h : Handler)
  | foreign (name : Text)
deriving DecidableEq, Repr

/-- A handler that was mounted, with its number. -/
structure Mount where
  number : Nat
  fitting : Fitting
deriving DecidableEq, Repr

/-- The handler, if it is one of this program. -/
def Mount.own? (m : Mount) : Option Handler :=
  match m.fitting with
  | .own h => some h
  | .foreign _ => none

/-- The tree after a record was given to it. Where somebody else's handler writes
is not known here. -/
def Fitting.handle (f : Fitting) (t : FileTree) (r : Record) : FileTree :=
  match f with
  | own h => h.handle t r
  | foreign _ => t

/-- The log with all that was ever mounted on it. -/
structure Rig where
  /-- What is mounted, in order. -/
  mounts : List Mount
  /-- What was closed, in order. -/
  closed : List Mount
  /-- A record that weighs less is not made. -/
  least : Level
  /-- Records go on to the logs above. -/
  propagates : Bool
deriving DecidableEq, Repr

namespace Rig

/-- A number above all that were given. -/
def fresh (g : Rig) : Nat := (g.mounts ++ g.closed).foldr (fun m n => max (m.number + 1) n) 0

/-- The first one that is this handler is taken down. -/
def unmount (g : Rig) (m : Mount) : Rig := { g with mounts := g.mounts.erase m }

/-- The handler is closed. -/
def close (g : Rig) (m : Mount) : Rig := { g with closed := g.closed ++ [m] }

/-- The handler comes last, unless it is there. -/
def add (g : Rig) (m : Mount) : Rig :=
  if m ∈ g.mounts then g else { g with mounts := g.mounts ++ [m] }

/-- A new handler is mounted. -/
def mount (g : Rig) (f : Fitting) : Rig := g.add ⟨g.fresh, f⟩

/-- Each handler that is there at the beginning is taken down and closed. -/
def clear (g : Rig) : Rig := g.mounts.foldl (fun g m => (g.unmount m).close m) g

/-- The tree after a record was given to what is mounted. -/
def handle (g : Rig) (t : FileTree) (r : Record) : FileTree :=
  if belongs r.source && g.least.admits r.level
  then g.mounts.foldl (fun t m => m.fitting.handle t r) t else t

/-- The tree after records were given to it in order. -/
def handleAll (g : Rig) (t : FileTree) (rs : List Record) : FileTree := rs.foldl g.handle t

/-- The log without numbers, and without what is not this program's. -/
def logger (g : Rig) : Logger := ⟨g.mounts.filterMap Mount.own?, g.propagates⟩

/-- The log with nothing on it but a new console. -/
def withConsole (g : Rig) (verbose : Bool) : Rig :=
  (clear { g with least := .debug }).mount (.own (.console (consoleLevel verbose)))

end Rig

/-! ## Calls -/

/-- A set-up that is asked for. -/
structure Call where
  /-- What it finds. -/
  tree : FileTree
  verbose : Bool
  /-- The name of the file, if one is given. -/
  file : Option Text
  /-- The system refuses the file for a reason that is not in the tree, such as a
  permission. -/
  refusal : Option SystemError
deriving DecidableEq, Repr

namespace Call

/-- The path of the file: `log_path`. -/
def path (c : Call) : Except SystemError Path := filePath c.tree c.file

/-- What comes of opening the file at a path: the path from the root, and the tree afterwards. -/
def opening (c : Call) (p : Path) : Except FileError (Path × FileTree) :=
  match c.tree.absolute p with
  | .error e => .error (.system e)
  | .ok full =>
    match Name.fault? full.toText, c.refusal with
    | some e, _ => .error (.name e)
    | none, some e => .error (.system e)
    | none, none => (c.tree.append full []).map fun t => (full, t)

end Call

/-- What a call leaves behind. -/
structure Rigging where
  rig : Rig
  tree : FileTree
  records : List Record
  /-- What leaves the call. -/
  fault : Option FileError
deriving DecidableEq, Repr

/-- **Setting up, step by step**: `configure_logging`. -/
def Rig.setUp (g : Rig) (c : Call) : Rigging :=
  let begun := g.withConsole c.verbose
  match c.path with
  | .error e => ⟨begun, c.tree, [], some (.system e)⟩
  | .ok path =>
    match c.opening path with
    | .ok (full, t) =>
      ⟨{ begun.mount (.own (.file full .debug)) with propagates := false }, t, [], none⟩
    | .error (.system e) =>
      let warning := openWarning path e
      ⟨{ begun with propagates := false }, begun.handle c.tree warning, [warning], none⟩
    | .error e => ⟨begun, c.tree, [], some e⟩

/-- Set up several times in a row. -/
def Rig.follow (g : Rig) (cs : List Call) : Rig := cs.foldl (fun g c => (g.setUp c).rig) g

end SynthDesk.Log
