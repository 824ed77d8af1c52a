/-
Breaking a text into lines of a width.

A text is filled word by word, each word with the blanks after it. A word that
does not fit on the line any more goes to the next one, and a word that fits on
no line is cut where the line ends. What decides is how many columns the word
takes without the blanks after it.
-/
import SynthDesk.Text.Blank
import SynthDesk.Text.Width

set_option autoImplicit false

namespace SynthDesk.Text

/-! ## Lines that a text has already -/

/-- A code point that ends a line, the information separators among them. -/
def isLineBreak (c : CodePoint) : Bool :=
  (0x0A ≤ c.val && c.val ≤ 0x0D) || (0x1C ≤ c.val && c.val ≤ 0x1E) ||
  c.val = 0x85 || c.val = 0x2028 || c.val = 0x2029

/-- The columns of the widest line, after a line begun with the text `line`,
read backwards. -/
def widestAfter (line : Text) : Text → Nat
  | [] => Text.width line.reverse
  | c :: r =>
    if isLineBreak c then max (Text.width line.reverse) (widestAfter [] r)
    else widestAfter (c :: line) r

/-- The columns of the widest line of a text. -/
def widest (t : Text) : Nat := widestAfter [] t

/-! ## Words -/

/-- The words of a text, each with the blanks after it, the first also with
those before it. `word` is the word begun, read backwards; `solid` says that it
holds more than blanks, `closed` that blanks have come after it. -/
def wordsAfter (word : Text) (solid closed : Bool) : Text → List Text
  | [] => if solid then [word.reverse] else []
  | c :: r =>
    if c.isBlank then wordsAfter (c :: word) solid solid r
    else if closed then word.reverse :: wordsAfter [c] true false r
    else wordsAfter (c :: word) true false r

/-- The words of a text with their blanks; blanks alone are no word. -/
def spacedWords (t : Text) : List Text := wordsAfter [] false false t

/-! ## Where lines end -/

/-- The places at which the parts of a word that is cut begin, except at the
beginning of the text. -/
def cutPlaces (place : Nat) : List Text → List Nat
  | [] => []
  | [_] => if place = 0 then [] else [place]
  | part :: r => (if place = 0 then [] else [place]) ++ cutPlaces (place + part.length) r

/-- The places at which new lines begin, from a place on where `used` columns
of the line are taken. -/
def breaksAfter (columns used place : Nat) : List Text → List Nat
  | [] => []
  | w :: r =>
    let next := place + w.length
    let size := w.stripEnd.width
    if used + size ≤ columns then breaksAfter columns (used + w.width) next r
    else if columns < size then
      let parts := w.folded columns
      let left := match parts.getLast? with
        | some last => last.width
        | none => used
      cutPlaces place parts ++ breaksAfter columns left next r
    else if used = 0 || place = 0 then breaksAfter columns used next r
    else place :: breaksAfter columns w.width next r

/-- **The places at which new lines begin** when a text is broken into lines of
a width. -/
def breaks (columns : Nat) (t : Text) : List Nat := breaksAfter columns 0 0 t.spacedWords

example : breaks 5 "aa bb cc" = [6] := by decide +kernel
example : breaks 3 "abcdefg" = [3, 6] := by decide +kernel

end SynthDesk.Text
