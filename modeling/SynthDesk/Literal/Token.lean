/-
Tokens of a literal.

A text is cut into names, numbers, strings and marks; line ends outside of
brackets and the margins of the lines are tokens too. A token knows the line it
starts on and how many brackets are open after it: what is told about a fault
depends on both.
-/
import SynthDesk.Text.Basic

set_option autoImplicit false

namespace SynthDesk.Literal

/-- What a token is. -/
inductive TokenKind
  /-- A name that is not reserved. -/
  | name (word : Text)
  /-- A reserved word. -/
  | keyword (word : Text)
  | number (numeral : Text)
  /-- A string with its letters in front and its quotes. -/
  | string (written : Text)
  /-- A punctuation mark, or two or three that belong together. -/
  | mark (points : Text)
  | lineEnd
  /-- The margin grows. -/
  | indent
  /-- The margin shrinks to an earlier one. -/
  | dedent
  /-- The end of the text. -/
  | finish
deriving DecidableEq, Repr

/-- A token in its place. -/
structure Token where
  kind : TokenKind
  line : Nat
  /-- The number of brackets that are open after it. -/
  depth : Nat
deriving DecidableEq, Repr

/-- The end of the token is seen without a look at what follows it: three marks,
or a string that is not just two quotes. -/
def TokenKind.endsBySelf : TokenKind → Bool
  | .mark points => points.length = 3
  | .string written =>
    2 < (written.dropWhile fun c => c ≠ CodePoint.ofChar '\'' && c ≠ CodePoint.ofChar '"').length
  | _ => false

/-- The reserved words. -/
def keywords : List String := [
  "False", "None", "True", "and", "as", "assert", "async", "await", "break", "class", "continue",
  "def", "del", "elif", "else", "except", "finally", "for", "from", "global", "if", "import", "in",
  "is", "lambda", "nonlocal", "not", "or", "pass", "raise", "return", "try", "while", "with",
  "yield"]

/-- Names that are reserved in some places only. -/
def softKeywords : List String := ["_", "case", "match"]

/-- A word is a name unless it is reserved. -/
def TokenKind.ofWord (word : Text) : TokenKind :=
  if keywords.any fun k => Text.ofString k = word then .keyword word else .name word

/-- Three marks that belong together. -/
def tripleMarks : List String := ["**=", "...", "//=", "<<=", ">>="]

/-- Two marks that belong together. -/
def doubleMarks : List String := [
  "!=", "%=", "&=", "**", "*=", "+=", "-=", "->", "//", "/=", ":=", "<<", "<=", "<>", "==", ">=",
  ">>", "@=", "^=", "|="]

/-- The marks at the start of a text that belong together, as many as possible. -/
def marksAt (t : Text) : Text :=
  if tripleMarks.any fun m => Text.ofString m = t.take 3 then t.take 3
  else if doubleMarks.any fun m => Text.ofString m = t.take 2 then t.take 2
  else t.take 1

end SynthDesk.Literal
