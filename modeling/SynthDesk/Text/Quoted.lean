/-
A text in quotes, on one line and readable back.

Single quotes are preferred; double quotes are used when the text holds a
single quote and no double one. The quote in use and the backslash are
escaped, tab and line ends have letters, and a code point without a picture is
written by number, in two, four or eight hexadecimal digits.
-/
import SynthDesk.Text.Numeral
import SynthDesk.Text.Printable

set_option autoImplicit false

namespace SynthDesk.Text

/-- The quote that a text is put in. -/
def quoteMark (t : Text) : CodePoint :=
  if t.contains (CodePoint.ofChar '\'') && !t.contains (CodePoint.ofChar '"')
  then CodePoint.ofChar '"' else CodePoint.ofChar '\''

/-- One code point between quotes `q`. -/
def quotePoint (q c : CodePoint) : Text :=
  if c = q || c = '\\' then ['\\', c]
  else if c = '\n' then "\\n"
  else if c = '\r' then "\\r"
  else if c = '\t' then "\\t"
  else if c.isPrintable then [c]
  else if c.val < 0x100 then ofString "\\x" ++ hex 2 c.val
  else if c.val < 0x10000 then ofString "\\u" ++ hex 4 c.val
  else ofString "\\U" ++ hex 8 c.val

/-- The text in quotes. -/
def quoted (t : Text) : Text :=
  let q := quoteMark t
  q :: t.flatMap (quotePoint q) ++ [q]

/-- Plain text stands between single quotes as it is. -/
example : quoted "a b" = ofString "'a b'" := by decide +kernel

/-- A single quote inside changes the quotes around. -/
example : quoted "it's" = ofString "\"it's\"" := by decide +kernel

end SynthDesk.Text
