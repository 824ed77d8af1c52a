/-
The file that holds the settings.

Which file it is follows from a given path, else from the environment, else it
lies in the working directory; where a directory is named, the file lies in
it. Loading looks at the file only: whatever cannot be read as settings gives
the initial ones, and the reason is noted. Saving builds the whole document
before it touches the file, so a draft that cannot be written leaves the tree
as it was.
-/
import SynthDesk.Settings.Draft
import SynthDesk.Json.Reader
import SynthDesk.Files.FileTree
import SynthDesk.Log.Record
import SynthDesk.Text.Coding

set_option autoImplicit false

namespace SynthDesk.Settings

/-- The name of the file. -/
def fileName : Text := "smg-config.json"

/-- A place to keep settings: a `ConfigStore`. -/
structure Store where
  path : Path
deriving DecidableEq, Repr

namespace Store

/-! ## Which file -/

/-- The path to begin with: the given one, the one of the environment unless it
is empty, or the file in the working directory, if there still is one. -/
def startingPath (t : FileTree) (fromEnvironment given : Option Text) :
    Except SystemError Path :=
  match given with
  | some p => .ok (.ofText p)
  | none => match fromEnvironment with
    | some (c :: r) => .ok (.ofText (c :: r))
    | _ => t.atHome fileName

/-- **The store**, at the path that `resolve_config_path` gives. A directory stands for the file
in it. -/
def resolve (t : FileTree) (fromEnvironment given : Option Text) : Except SystemError Store :=
  match startingPath t fromEnvironment given with
  | .error e => .error e
  | .ok p => match t.isDirectory p with
    | .error e => .error e
    | .ok true => .ok ⟨p.child fileName⟩
    | .ok false => .ok ⟨p⟩

/-! ## Loading -/

/-- Why the initial settings are used. -/
inductive LoadFailure
  | file (e : FileError)
  | notUtf8 (e : Utf8.Unread)
  /-- Not of the grammar: the document, and what is wrong from which place on. -/
  | notJson (doc : Text) (what : Json.Complaint) (left : Text)
  | tooManyDigits (digits : Nat)
  | shape (e : ShapeError)
deriving DecidableEq, Repr

/-- How the reason reads. -/
def LoadFailure.reason : LoadFailure → Text
  | file e => e.message
  | notUtf8 e => e.message
  | notJson doc what left => Json.complaintMessage doc what left
  | tooManyDigits digits => Json.digitsMessage digits
  | shape e => e.message

/-- The settings in the octets of a file, where the reader may go down so many levels. Nesting
beyond them is the one failure that is not answered with the initial settings. -/
def parse (levels : Nat) (content : List Octet) :
    Except Json.Nesting (Except LoadFailure Settings) :=
  match Utf8.decode content with
  | .error e => .ok (.error (.notUtf8 e))
  | .ok t => match Json.document levels t with
    | .error (.malformed what left) => .ok (.error (.notJson t what left))
    | .error (.tooManyDigits digits) => .ok (.error (.tooManyDigits digits))
    | .error (.tooDeep n) => .error n
    | .ok v => .ok ((ofValue v).mapError .shape)

/-- Settings, and what is noted about them. -/
structure Loaded where
  settings : Settings
  records : List Log.Record
deriving DecidableEq, Repr

/-- What was found, or the initial settings and a note. -/
def Loaded.ofResult (path : Path) : Except LoadFailure Settings → Loaded
  | .ok s => ⟨s, []⟩
  | .error e => ⟨initial, [⟨.debug, Log.settingsPart,
      Text.ofString "Using default configuration (" ++ path.toText ++ Text.ofString "): " ++
        e.reason, none⟩]⟩

/-- **Loading**: `ConfigStore.load`, where the reader may go down so many levels. -/
def load (store : Store) (levels : Nat) (t : FileTree) : Except Json.Nesting Loaded :=
  match t.read store.path with
  | .error e => .ok (.ofResult store.path (.error (.file e)))
  | .ok content => match parse levels content with
    | .error n => .error n
    | .ok result => .ok (.ofResult store.path result)

/-! ## Saving -/

/-- Why settings were not saved. -/
inductive SaveFailure
  | draft (e : DraftError)
  | file (e : FileError)
deriving DecidableEq, Repr

/-- How the failure reads. -/
def SaveFailure.message : SaveFailure → Text
  | draft e => e.message
  | file e => e.message

/-- The tree with the draft in the store's file. -/
def write (store : Store) (t : FileTree) (d : Draft) : Except SaveFailure FileTree :=
  match d.document with
  | .error e => .error (.draft e)
  | .ok text => match t.write store.path (Utf8.encode text) with
    | .error e => .error (.file e)
    | .ok t' => .ok t'

/-- Whether it was saved, the tree afterwards, and what is noted. -/
structure Saved where
  saved : Bool
  tree : FileTree
  records : List Log.Record
deriving DecidableEq, Repr

/-- **Saving**: `ConfigStore.save`, where there are levels enough. -/
def save (store : Store) (t : FileTree) (d : Draft) : Saved :=
  match store.write t d with
  | .ok t' => ⟨true, t', [⟨.info, Log.settingsPart,
      Text.ofString "Configuration saved to " ++ store.path.toText, none⟩]⟩
  | .error e => ⟨false, t, [⟨.error, Log.settingsPart,
      Text.ofString "Failed to save configuration to " ++ store.path.toText ++
        Text.ofString ": " ++ e.message, none⟩]⟩

end Store

end SynthDesk.Settings
