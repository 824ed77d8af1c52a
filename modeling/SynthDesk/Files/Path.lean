/-
Names of files.

A path is a start and a list of parts. Empty parts and parts that say "here"
are dropped when a path is read, so equal paths are written alike; parts that
go up are kept, because what they mean depends on the file tree. A path that
starts with exactly two slashes keeps them.
-/
import SynthDesk.Text.Split

set_option autoImplicit false

namespace SynthDesk

/-- A path and where it starts from. -/
structure Path where
  /-- The slashes before the first part: none, one or two. -/
  root : Text
  /-- The parts, none of them empty or a single dot. -/
  parts : List Text
deriving DecidableEq, Repr

namespace Path

/-- What separates parts. -/
def slash : CodePoint := CodePoint.ofChar '/'

/-- The parts of a text between slashes, without those that lead nowhere. -/
def partsOf (t : Text) : List Text :=
  (Text.splitOn slash t).filter fun p => !p.isEmpty && p != [CodePoint.ofChar '.']

/-- The start that a number of leading slashes means. -/
def rootOf (slashes : Nat) : Text :=
  match slashes with
  | 0 => []
  | 2 => [slash, slash]
  | _ => [slash]

/-- The path that a text names. -/
def ofText (t : Text) : Path :=
  ⟨rootOf (t.takeWhile (· = slash)).length, partsOf t⟩

/-- The text of a path; the empty relative path is a dot. -/
def toText (p : Path) : Text :=
  if p.root.isEmpty && p.parts.isEmpty then [CodePoint.ofChar '.']
  else p.root ++ Text.join [slash] p.parts

/-- An entry of a directory. -/
def child (p : Path) (name : Text) : Path := ⟨p.root, p.parts ++ [name]⟩

/-- The path starts at the root of the file tree. -/
def isAbsolute (p : Path) : Bool := !p.root.isEmpty

example : (ofText "a//b/./c").toText = Text.ofString "a/b/c" := by decide +kernel
example : (ofText "").toText = Text.ofString "." := by decide +kernel
example : (ofText "//x").toText = Text.ofString "//x" := by decide +kernel
example : (ofText "///x").toText = Text.ofString "/x" := by decide +kernel

end Path

end SynthDesk
