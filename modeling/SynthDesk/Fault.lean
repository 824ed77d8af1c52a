/-
What can go wrong outside the program, and leave an operation by the side.

The user interrupts or ends the input, the system refuses, a text cannot be
used as a name or cannot be shown, markup does not match, a document is nested too
deep; anything else that an outer part reports is kept with its class and its words.
-/
import SynthDesk.Console.Screen
import SynthDesk.Files.FileTree
import SynthDesk.Json.Reader
import SynthDesk.Settings.Draft

set_option autoImplicit false

namespace SynthDesk

/-- A reason to leave an operation by the side. -/
inductive Fault
  /-- The user interrupts. -/
  | interrupt (words : Text)
  /-- Nothing more to read. -/
  | endOfInput (words : Text)
  /-- The system refuses, with a number. -/
  | system (e : SystemError)
  /-- The system refuses, in words alone; the class of the refusal. -/
  | refusal (className words : Text)
  /-- A text that is no name. -/
  | name (e : NameFault)
  /-- A text that the screen refuses. -/
  | screen (e : Utf8.Unwritten)
  /-- Text that is refused as markup. -/
  | markup (e : Markup.Refusal)
  /-- A document with too many levels. -/
  | nesting (opening : Json.Nesting)
  /-- A whole number with too many digits. -/
  | tooManyDigits (e : Value.TooManyDigits)
  /-- Remembered tables that cannot be put into one line. -/
  | listing (e : Settings.ListingError)
  /-- Anything else, by class and words. -/
  | other (className words : Text)
deriving DecidableEq, Repr

namespace Fault

/-- The message of too many levels. -/
def nestingMessage : Json.Nesting → Text
  | .array => "maximum recursion depth exceeded while decoding a JSON array from a unicode string"
  | .object => "maximum recursion depth exceeded while decoding a JSON object from a unicode string"

/-- How a fault reads: its `str`. -/
def message : Fault → Text
  | interrupt words => words
  | endOfInput words => words
  | system e => e.message
  | refusal _ words => words
  | name e => e.message
  | screen e => Console.Screen.refusalMessage e
  | markup e => e.message
  | nesting n => nestingMessage n
  | tooManyDigits e => e.message
  | listing e => e.message
  | other _ words => words

/-- The fault of a file error. -/
def ofFileError : FileError → Fault
  | .name e => .name e
  | .system e => .system e

/-! ## Classes and traces -/

/-- The classes of refusals that have one of their own, by number. -/
def refusalClasses : List (List Int × Text) := [
  ([1, 13], "PermissionError"), ([2], "FileNotFoundError"), ([3], "ProcessLookupError"),
  ([4], "InterruptedError"), ([10], "ChildProcessError"), ([11, 114, 115], "BlockingIOError"),
  ([17], "FileExistsError"), ([20], "NotADirectoryError"), ([21], "IsADirectoryError"),
  ([32, 108], "BrokenPipeError"), ([103], "ConnectionAbortedError"),
  ([104], "ConnectionResetError"), ([110], "TimeoutError"), ([111], "ConnectionRefusedError")]

/-- The class of a refusal of the system. -/
def refusalClass (number : Int) : Text :=
  match refusalClasses.find? fun entry => entry.1.contains number with
  | some entry => entry.2
  | none => "OSError"

/-- The name of a fault's class. -/
def className : Fault → Text
  | interrupt _ => "KeyboardInterrupt"
  | endOfInput _ => "EOFError"
  | system e => refusalClass e.number
  | refusal c _ => c
  | name .nul => "ValueError"
  | name (.noOctets _) => "UnicodeEncodeError"
  | screen _ => "UnicodeEncodeError"
  | markup (.colour _) => "ValueError"
  | markup _ => "MarkupError"
  | nesting _ => "RecursionError"
  | tooManyDigits _ => "ValueError"
  | listing _ => "TypeError"
  | other c _ => c

/-- What stands before the name of a class that is not built in. -/
def package : Fault → Text
  | markup (.colour _) => []
  | markup _ => "rich.errors."
  | _ => []

/-- **The last line of a trace**: the class, and the words if there are any. -/
def trace (f : Fault) : Text :=
  f.package ++ f.className ++
    if f.message.isEmpty then [] else Text.ofString ": " ++ f.message

example : (Fault.system (.ofReason .noEntry "java")).trace =
    Text.ofString "FileNotFoundError: [Errno 2] No such file or directory: 'java'" := by
  decide +kernel

/-- A refusal of the system: what a start of a process can run into without
anything being wrong with the program. -/
def isRefusal : Fault → Bool
  | system _ => true
  | refusal _ _ => true
  | _ => false

/-- The user's wish to stop: an interrupt, or the end of the input. -/
def isCancellation : Fault → Bool
  | interrupt _ => true
  | endOfInput _ => true
  | _ => false

/-- What is reported and not passed on: every fault but an interrupt. -/
def isReportable : Fault → Bool
  | interrupt _ => false
  | _ => true

end Fault

end SynthDesk
