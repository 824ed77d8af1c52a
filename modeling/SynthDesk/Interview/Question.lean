/-
Asking at a keyboard.

The keyboard is the list of what will come from it: lines, and faults in place
of lines. A question shows its prompt and reads one line; a line that is not
accepted is answered with a remark, and the question is put again. Whoever
asks more than there is to read finds the end of the input.
-/
import SynthDesk.Effect
import SynthDesk.Fault

set_option autoImplicit false

namespace SynthDesk.Interview

/-- What comes from the keyboard next. -/
inductive Key
  /-- A line, without its line end. -/
  | line (t : Text)
  /-- A fault while reading. -/
  | fault (f : Fault)
deriving DecidableEq, Repr

/-- What there is to read. -/
abbrev Keyboard := List Key

/-- The fault of reading past the end. -/
def exhausted : Fault := .endOfInput "EOF when reading a line"

/-- A question: its prompt, the lines that answer it, the remark on others. -/
structure Question (α : Type) where
  prompt : Text
  answer? : Text → Option α
  remark : Text

/-- An answer or a fault, what was shown on the way, what is left to read. -/
structure Reply (α : Type) where
  shown : List Shown
  result : Except Fault α
  rest : Keyboard

/-- The prompt of a question: the question, the choices if there are any, the
default in parentheses if it can be shown. -/
def promptText (question : Text) (choices : List Text) (default : Option Text) : Text :=
  let offered := match choices with
    | [] => []
    | cs => Text.ofString " [" ++ Text.join ['/'] cs ++ Text.ofString "]"
  let kept := match default with
    | none => []
    | some d => Text.ofString " (" ++ d ++ Text.ofString ")"
  Console.onScreen (question ++ offered ++ kept ++ Text.ofString ": ")

/-- **Asking** until a line is accepted: `Prompt.ask`. -/
def Question.ask {α : Type} (q : Question α) : Keyboard → Reply α
  | [] => ⟨[.verbatim q.prompt], .error exhausted, []⟩
  | .fault f :: r => ⟨[.verbatim q.prompt], .error f, r⟩
  | .line t :: r =>
    match q.answer? t with
    | some a => ⟨[.verbatim q.prompt], .ok a, r⟩
    | none =>
      let again := ask q r
      ⟨.verbatim q.prompt :: .verbatim (q.remark ++ [Text.newline]) :: again.shown,
        again.result, again.rest⟩

/-- A reply followed by more reading, unless it was a fault. -/
def Reply.andThen {α β : Type} (reply : Reply α) (next : α → Keyboard → Reply β) : Reply β :=
  match reply.result with
  | .error f => ⟨reply.shown, .error f, reply.rest⟩
  | .ok a =>
    let later := next a reply.rest
    ⟨reply.shown ++ later.shown, later.result, later.rest⟩

/-- A reply whose answer is seen in another way. -/
def Reply.map {α β : Type} (f : α → β) (reply : Reply α) : Reply β :=
  ⟨reply.shown, reply.result.map f, reply.rest⟩

/-- A fault without any reading. -/
def Reply.refused {α : Type} (f : Fault) (rest : Keyboard) : Reply α := ⟨[], .error f, rest⟩

/-- A value without any reading. -/
def Reply.pure {α : Type} (a : α) (rest : Keyboard) : Reply α := ⟨[], .ok a, rest⟩

end SynthDesk.Interview
