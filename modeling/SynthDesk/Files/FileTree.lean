/-
The file tree as a value.

A tree has a place for every directory and file, named by the parts from the
root on, and a working directory. To reach a path the tree is walked part by
part: each part but the last has to be a directory that may be passed, going up
is possible from any directory, and a part may not be longer than 255 octets.
What the system refuses for another reason, such as for want of a permission, is
part of the tree too. Operations that change the tree return a new one, so
"nothing has changed" is an equation.
-/
import SynthDesk.Files.Name
import SynthDesk.Files.Path
import SynthDesk.Files.SystemError

set_option autoImplicit false

namespace SynthDesk

open SystemError (Reason)

/-- Where something is: the parts from the root on. -/
abbrev Place := List Text

/-- What can be at a place. -/
inductive Entry
  | directory
  | file (content : List Octet)
  /-- A device that is always empty and takes everything. -/
  | sink
deriving DecidableEq, Repr

/-- What can be wanted of a place. -/
inductive Use
  /-- To pass a directory on the way to something else. -/
  | pass
  /-- To read a file. -/
  | read
  /-- To write to a file, or to make one in a directory. -/
  | write
deriving DecidableEq, Repr

/-- Something that the system refuses, although of the entries alone it would be possible. -/
structure Bar where
  place : Place
  use : Use
  reason : Reason
deriving DecidableEq, Repr

/-- Directories and files, the working directory, and what is refused. -/
structure FileTree where
  /-- The working directory, as it was entered; it can have been removed since. -/
  home : Place
  entries : List (Place × Entry)
  bars : List Bar
deriving DecidableEq, Repr

/-- Why a file could not be used. -/
inductive FileError
  /-- The name is none. -/
  | name (e : NameFault)
  /-- The system refuses. -/
  | system (e : SystemError)
deriving DecidableEq, Repr

/-- How the failure reads. -/
def FileError.message : FileError → Text
  | name e => e.message
  | system e => e.message

namespace FileTree

/-! ## Places -/

/-- The entry at a place in a list of entries, the first one counting. -/
def find (at_ : Place) : List (Place × Entry) → Option Entry
  | [] => none
  | (p, e) :: r => if p = at_ then some e else find at_ r

/-- The entry at a place; the root is always a directory. -/
def entryAt (t : FileTree) (at_ : Place) : Option Entry :=
  if at_.isEmpty then some .directory else find at_ t.entries

/-- The entry put at the place, in place of what was there. -/
def place (at_ : Place) (e : Entry) : List (Place × Entry) → List (Place × Entry)
  | [] => [(at_, e)]
  | (p, old) :: r => if p = at_ then (p, e) :: r else (p, old) :: place at_ e r

/-- The tree with an entry at a place. -/
def put (t : FileTree) (at_ : Place) (e : Entry) : FileTree :=
  { t with entries := place at_ e t.entries }

/-- The most octets that one part may have. -/
def partLimit : Nat := 255

/-- The most octets that a whole path may have. -/
def pathLimit : Nat := 4095

/-- The part that goes up. -/
def up : Text := ".."

/-- The part that stays. -/
def here : Text := "."

/-- Why the system refuses a use of a place, the first reason counting. -/
def barred (t : FileTree) (use : Use) (at_ : Place) : Option Reason :=
  (t.bars.find? fun b => b.place = at_ && b.use = use).map Bar.reason

/-- From a place along the parts. The place reached need not hold anything. -/
def walk (t : FileTree) : Place → List Text → Except Reason Place
  | at_, [] => .ok at_
  | at_, p :: r =>
    match t.entryAt at_ with
    | none => .error .noEntry
    | some .directory =>
      match t.barred .pass at_ with
      | some reason => .error reason
      | none =>
        if p = up then walk t at_.dropLast r
        else if p = here then walk t at_ r
        else if partLimit < (Name.octets p).length then .error .nameTooLong
        else walk t (at_ ++ [p]) r
    | some _ => .error .notDirectory

/-- The place of a path. -/
def locate (t : FileTree) (p : Path) : Except Reason Place :=
  if pathLimit < (Name.octets p.toText).length then .error .nameTooLong
  else walk t (if p.isAbsolute then [] else t.home) p.parts

/-! ### What each change leaves -/

theorem find_place_self (at_ : Place) (e : Entry) (es : List (Place × Entry)) :
    find at_ (place at_ e es) = some e := by
  induction es with
  | nil => simp [place, find]
  | cons p r ih =>
    obtain ⟨q, old⟩ := p
    by_cases h : q = at_ <;> simp [place, find, h, ih]

theorem find_place_of_ne {at_ other : Place} (h : other ≠ at_) (e : Entry)
    (es : List (Place × Entry)) : find other (place at_ e es) = find other es := by
  induction es with
  | nil => simp [place, find, h.symm]
  | cons p r ih =>
    obtain ⟨q, old⟩ := p
    by_cases hq : q = at_
    · simp [place, find, hq, h.symm]
    · simp [place, find, hq, ih]

/-- Putting an entry at a place changes no other place. -/
theorem entryAt_put_of_ne (t : FileTree) {at_ other : Place} (h : other ≠ at_) (e : Entry) :
    (t.put at_ e).entryAt other = t.entryAt other := by
  simp [entryAt, put, find_place_of_ne h]

/-- Putting an entry at a place below the root is seen there. -/
theorem entryAt_put_self (t : FileTree) {at_ : Place} (h : at_ ≠ []) (e : Entry) :
    (t.put at_ e).entryAt at_ = some e := by
  simp [entryAt, put, find_place_self, h]

/-- A change of the entries leaves what is refused as it was. -/
@[simp] theorem barred_put (t : FileTree) (at_ : Place) (e : Entry) (use : Use) (other : Place) :
    (t.put at_ e).barred use other = t.barred use other := rfl

/-! ## The working directory -/

/-- **The working directory** by its name from the root on, as `Path.cwd` gives it. One that was
removed has no name any more. -/
def workingDirectory (t : FileTree) : Except SystemError Place :=
  if t.entryAt t.home = some .directory then .ok t.home else .error (.nameless .noEntry)

theorem workingDirectory_of_directory {t : FileTree} (h : t.entryAt t.home = some .directory) :
    t.workingDirectory = .ok t.home := if_pos h

theorem workingDirectory_of_removed {t : FileTree} (h : t.entryAt t.home ≠ some .directory) :
    t.workingDirectory = .error (.nameless .noEntry) := if_neg h

/-- An entry of the working directory, named from the root on. -/
def atHome (t : FileTree) (name : Text) : Except SystemError Path :=
  t.workingDirectory.map fun home => Path.child ⟨[Path.slash], home⟩ name

/-- A path named from the root on, without going up, as `os.path.abspath` gives it. -/
def absolute (t : FileTree) (p : Path) : Except SystemError Path :=
  if p.isAbsolute then .ok ⟨p.root, foldUps p.parts⟩
  else t.workingDirectory.map fun home => ⟨[Path.slash], foldUps (home ++ p.parts)⟩
where
  /-- Parts in which going up takes the last part away. -/
  foldUps (parts : List Text) : List Text :=
    parts.foldl (fun at_ p => if p = up then at_.dropLast else at_ ++ [p]) []

/-! ## Questions -/

/-- **Whether a path leads to a directory**, as `Path.is_dir` tells it. What is missing, or lies
below a file, is none, nor is what has no name; another refusal is passed on. -/
def isDirectory (t : FileTree) (p : Path) : Except SystemError Bool :=
  match Name.fault? p.toText with
  | some _ => .ok false
  | none =>
    match t.locate p with
    | .ok at_ => .ok (t.entryAt at_ = some .directory)
    | .error reason =>
      if reason.isAbsence then .ok false else .error (.ofReason reason p.toText)

/-! ## Files -/

/-- The octets of a file, opened for reading. -/
def read (t : FileTree) (p : Path) : Except FileError (List Octet) :=
  let refused (reason : Reason) : Except FileError (List Octet) :=
    .error (.system (.ofReason reason p.toText))
  match Name.fault? p.toText with
  | some e => .error (.name e)
  | none =>
    match t.locate p with
    | .error reason => refused reason
    | .ok at_ =>
      match t.entryAt at_, t.barred .read at_ with
      | none, _ => refused .noEntry
      | some _, some reason => refused reason
      | some .directory, none => refused .isDirectory
      | some (.file content), none => .ok content
      | some .sink, none => .ok []

/-- The place at which a path can be written, with the content that is there. -/
def writable (t : FileTree) (p : Path) : Except Reason (Place × Entry) :=
  match t.locate p with
  | .error reason => .error reason
  | .ok at_ =>
    match t.entryAt at_, t.barred .write at_ with
    | some .directory, _ => .error .isDirectory
    | _, some reason => .error reason
    | some e, none => .ok (at_, e)
    | none, none =>
      -- A new file is made in its directory.
      match t.entryAt at_.dropLast, t.barred .write at_.dropLast with
      | some .directory, none => .ok (at_, .file [])
      | some .directory, some reason => .error reason
      | some _, _ => .error .notDirectory
      | none, _ => .error .noEntry

/-- The tree after a file's content was changed; a missing file starts empty. -/
def update (t : FileTree) (p : Path) (change : List Octet → List Octet) :
    Except FileError FileTree :=
  match Name.fault? p.toText with
  | some e => .error (.name e)
  | none =>
    match t.writable p with
    | .error reason => .error (.system (.ofReason reason p.toText))
    | .ok (at_, .file content) => .ok (t.put at_ (.file (change content)))
    | .ok _ => .ok t

/-- The tree with new content in a file, opened for writing. -/
def write (t : FileTree) (p : Path) (content : List Octet) : Except FileError FileTree :=
  t.update p fun _ => content

/-- The tree with more at the end of a file. -/
def append (t : FileTree) (p : Path) (more : List Octet) : Except FileError FileTree :=
  t.update p fun content => content ++ more

end FileTree

end SynthDesk
