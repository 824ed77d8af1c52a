/-
Which texts are literals.

A text is read by the grammar, a second time and warily if it does not fit, and
what was read has to stand for a value. Expressions in strings are read in the
same way, with their complaints marked as such.
-/
import SynthDesk.Literal.Grammar
import SynthDesk.Literal.Value

set_option autoImplicit false

namespace SynthDesk.Literal

/-- Why a text is no literal. -/
inductive Refusal
  /-- It does not follow the grammar. -/
  | grammar (words : Text)
  /-- It does, but it stands for no value. -/
  | content (words : Text)
deriving DecidableEq, Repr

/-! ## Reading -/

/-- **What a reading that did not fit comes to**, after a wary one. A margin
where there should be none is told first. -/
def unfit (first second : Reading) : Text :=
  match first.cells.back?.map fun c => c.token.kind with
  | some TokenKind.indent => first.lead ++ "unexpected indent"
  | some TokenKind.dedent => first.lead ++ "unexpected unindent"
  | _ => second.settle (first.lead ++ "invalid syntax")

/-- Reads a text, and once more if it does not fit. -/
def readTwice (p : Parser Expression) (start : Reading) : Except Text Expression := do
  match ← p.run.run start with
  | (some e, _) => pure e
  | (none, first) =>
    let (_, second) ← p.run.run first.again
    throw (unfit first second)

/-- The number of rules that can be read in each other where a text has so many
code points: every bracket, sign or word leads through all ranks at most once. -/
def depthOf (t : Text) : Nat := 24 * (t.length + 2)

/-- Reads the expressions in a string, and those in its strings; the number
bounds how often. -/
def readHeld : Nat → Nat → Text → Except Text Unit
  | 0, _, _ => pure ()
  | n + 1, line, t => do
    let call := Grammar.read (readHeld n) (depthOf t)
    let _ ← readTwice (Grammar.held call) (.start "f-string: " line t)

/-- **Reads a whole text.** -/
def readText (t : Text) : Except Text Expression :=
  readTwice (Grammar.whole (Grammar.read (readHeld t.length) (depthOf t))) (.start [] 1 t)

/-! ## Texts -/

/-- Line ends of all kinds as one. -/
def unifiedLines : Text → Text
  | [] => []
  | c :: r =>
    if c = '\r' then
      if r.head? = some Text.newline then unifiedLines r else Text.newline :: unifiedLines r
    else c :: unifiedLines r

/-- A half of a surrogate pair. -/
def isSurrogate (c : CodePoint) : Bool := c.isHighSurrogate || c.isLowSurrogate

/-- What is said of a text with halves of surrogate pairs: the place of the
first ones. -/
def surrogateWords? (t : Text) : Option Text :=
  match t.dropWhile fun c => !isSurrogate c with
  | [] => none
  | c :: r =>
    let place := (t.takeWhile fun c => !isSurrogate c).length
    let more := (r.takeWhile isSurrogate).length
    some <| Text.ofString "'utf-8' codec can't encode character" ++
      (if more = 0 then
        Text.ofString " '\\u" ++ Text.hex 4 c.val ++ Text.ofString "' in position " ++
          Text.ofNat place
      else Text.ofString "s in position " ++ Text.ofNat place ++ Text.ofString "-" ++
          Text.ofNat (place + more)) ++
      Text.ofString ": surrogates not allowed"

/-- The text without the blanks at its start. -/
def withoutBlanks (t : Text) : Text :=
  t.dropWhile fun c => c = CodePoint.ofChar ' ' || c = CodePoint.ofChar '\t'

/-- **Why a text is no literal**, if it is none. -/
def refusal? (text : Text) : Option Refusal :=
  let t := withoutBlanks text
  match surrogateWords? t with
  | some words => some (.content words)
  | none =>
    if t.any fun c => c.val = 0 then
      some (.grammar "source code string cannot contain null bytes")
    else
      match readText (unifiedLines t) with
      | .error words => some (.grammar words)
      | .ok e =>
        match e.nature? with
        | .error words => some (.content words)
        | .ok _ => none

end SynthDesk.Literal
