/-
Refusals of the operating system.

A refusal carries a number, the words that go with it and, when a file is
concerned, the name under which the file was asked for.
-/
import SynthDesk.Text.Quoted

set_option autoImplicit false

namespace SynthDesk

/-- A refusal: its number, its words, the file concerned. -/
structure SystemError where
  number : Int
  words : Text
  file : Option Text
deriving DecidableEq, Repr

namespace SystemError

/-- The reasons that a file tree gives. -/
inductive Reason
  | noEntry
  | permission
  | notDirectory
  | isDirectory
  | nameTooLong
  /-- Any other one, by its number and its words. -/
  | other (number : Int) (words : Text)
deriving DecidableEq, Repr

/-- The number of a reason. -/
def Reason.number : Reason → Int
  | noEntry => 2
  | permission => 13
  | notDirectory => 20
  | isDirectory => 21
  | nameTooLong => 36
  | other number _ => number

/-- The words of a reason. -/
def Reason.words : Reason → Text
  | noEntry => "No such file or directory"
  | permission => "Permission denied"
  | notDirectory => "Not a directory"
  | isDirectory => "Is a directory"
  | nameTooLong => "File name too long"
  | other _ words => words

/-- The reason says that there is nothing: no entry, a file on the way, a descriptor that leads
nowhere, links that lead around in a circle. -/
def Reason.isAbsence (r : Reason) : Bool := [2, 9, 20, 40].contains r.number

/-- The refusal for a reason and a file. -/
def ofReason (reason : Reason) (file : Text) : SystemError :=
  ⟨reason.number, reason.words, some file⟩

/-- The refusal for a reason where no file was asked for by name. -/
def nameless (reason : Reason) : SystemError := ⟨reason.number, reason.words, none⟩

/-- How a refusal reads: number, words, and the file in quotes. -/
def message (e : SystemError) : Text :=
  Text.ofString "[Errno " ++ Text.ofInt e.number ++ Text.ofString "] " ++ e.words ++
    match e.file with
    | none => []
    | some f => Text.ofString ": " ++ f.quoted

example : (ofReason .noEntry "x").message =
    Text.ofString "[Errno 2] No such file or directory: 'x'" := by decide +kernel

end SystemError

end SynthDesk
