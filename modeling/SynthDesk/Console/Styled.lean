/-
Text with styles, as it is laid out in columns.

A span says that a stretch of the text is shown in a style. Styles do not show
here, but spans matter in two ways: a style has to be looked up when the text
is shown, and that can be a fault; and a text is drawn stretch by stretch, so a
joiner or a selector at the beginning of a stretch does not reach what is
before it.
-/
import SynthDesk.Console.StyleName
import SynthDesk.Text.Tabs
import SynthDesk.Text.Wrap

set_option autoImplicit false

namespace SynthDesk.Console

/-- A stretch of a text, and the style that is looked up for it, if one is. -/
structure Span where
  start : Nat
  stop : Nat
  style : Option Text
deriving DecidableEq, Repr

/-- A text and its spans. -/
structure Styled where
  text : Text
  spans : List Span
deriving DecidableEq, Repr

namespace Styled

/-- A text without styles. -/
def plain (t : Text) : Styled := ⟨t, []⟩

/-! ## Parts -/

/-- The spans that reach into a part of the text, seen from its beginning. -/
def spansWithin (start stop : Nat) (spans : List Span) : List Span :=
  spans.filterMap fun s =>
    let first := s.start - start
    let last := min s.stop stop - start
    if first < last then some ⟨first, last, s.style⟩ else none

/-- A part of a text, with what is left of its spans. -/
def part (s : Styled) (start stop : Nat) : Styled :=
  ⟨(s.text.drop start).take (stop - start), spansWithin start stop s.spans⟩

/-- The parts between places, from a place on. -/
def partsFrom (s : Styled) (start : Nat) : List Nat → List Styled
  | [] => [s.part start s.text.length]
  | p :: r => s.part start p :: partsFrom s p r

/-- The text cut at places in ascending order; one that is not cut keeps spans
that cover nothing. -/
def cutAt (s : Styled) (places : List Nat) : List Styled :=
  if places.isEmpty then [s] else s.partsFrom 0 places

/-- Parts of given lengths, with one code point left out between neighbours. -/
def piecesFrom (s : Styled) (start : Nat) : List Text → List Styled
  | [] => []
  | t :: r => s.part start (start + t.length) :: piecesFrom s (start + t.length + 1) r

/-- The lines of a text. One that has a single line keeps spans that cover
nothing. -/
def lines (s : Styled) : List Styled :=
  if s.text.contains Text.newline then s.piecesFrom 0 (Text.lines s.text) else [s]

/-- Texts one after another. -/
def join : List Styled → Styled
  | [] => plain []
  | s :: r =>
    let later := join r
    let n := s.text.length
    ⟨s.text ++ later.text, s.spans ++ later.spans.map fun p => ⟨p.start + n, p.stop + n, p.style⟩⟩

/-! ## Tabs -/

/-- Parts with their tabs filled up, from a column on. A span that reaches the
end of a part reaches the new end. -/
def fillTabs (column : Nat) : List Styled → List Styled
  | [] => []
  | s :: r =>
    let (text, next) := Text.fillPart column s.text
    let more := text.length - s.text.length
    ⟨text, s.spans.map fun p =>
      if s.text.length ≤ p.stop then ⟨p.start, p.stop + more, p.style⟩ else p⟩ :: fillTabs next r

/-- Parts of given lengths, one after another. -/
def stretchesFrom (s : Styled) (start : Nat) : List Text → List Styled
  | [] => []
  | t :: r => s.part start (start + t.length) :: stretchesFrom s (start + t.length) r

/-- A line with blanks in place of its tabs. -/
def expandTabs (s : Styled) : Styled :=
  if s.text.contains Text.tab then join (fillTabs 0 (s.stretchesFrom 0 s.text.tabParts)) else s

/-! ## Making a line fit -/

/-- The text up to a length; spans that begin behind it are gone. -/
def crop (s : Styled) (length : Nat) : Styled :=
  ⟨s.text.take length, s.spans.filterMap fun p =>
    if p.start < length then some ⟨p.start, min p.stop length, p.style⟩ else none⟩

/-- The line without blanks at its end, as many of them as it has code points
more than columns. -/
def trimEnd (columns : Nat) (s : Styled) : Styled :=
  let blanks := s.text.length - s.text.stripEnd.length
  let excess := s.text.length - columns
  if blanks = 0 || excess = 0 then s else s.crop (s.text.length - min blanks excess)

/-- The line cut to a number of columns. -/
def truncate (columns : Nat) (s : Styled) : Styled :=
  if s.text.width ≤ columns then s
  else
    let text := s.text.fitTo columns
    if text.length < s.text.length then ⟨text, (s.crop text.length).spans⟩ else { s with text }

/-- A line as it stands where a number of columns is free for it. -/
def settle (columns : Nat) (s : Styled) : Styled := (s.trimEnd columns).truncate columns

/-- **The lines of a text in a number of columns**: tabs become blanks, and
lines that are too long are broken. -/
def wrap (columns : Nat) (s : Styled) : List Styled :=
  s.lines.flatMap fun line =>
    let line := line.expandTabs
    (line.cutAt (line.text.breaks columns)).map (settle columns)

/-! ## Drawing -/

/-- The fault in looking up the styles of a text, the first one counting. -/
def fault? (s : Styled) : Option Colour.ComponentError :=
  s.spans.findSome? fun p => p.style.bind StyleName.fault?

/-- The places where a stretch begins, in ascending order. -/
def borders (s : Styled) : List Nat :=
  let n := s.text.length
  ((s.spans.flatMap fun p => [p.start, p.stop]).filter fun b => 0 < b && b < n).mergeSort
    (fun a b => decide (a ≤ b))

/-- The stretches of a text: what stands between the ends of spans. -/
def stretches (s : Styled) : List Text :=
  ((s.partsFrom 0 s.borders).map Styled.text).filter fun t => !t.isEmpty

/-- The columns of stretches. -/
def stretchesWidth (ts : List Text) : Nat := ts.foldl (fun n t => n + t.width) 0

/-- Stretches cut off at a number of columns. -/
def cutStretches (columns : Nat) : List Text → Text
  | [] => []
  | t :: r => if t.width < columns then t ++ cutStretches (columns - t.width) r else t.fitTo columns

/-- A line drawn in a number of columns: filled up with blanks, or cut off. -/
def drawIn (columns : Nat) (s : Styled) : Text :=
  let ts := s.stretches
  let width := stretchesWidth ts
  if width ≤ columns then s.text ++ Text.fill (columns - width) ' ' else cutStretches columns ts

end Styled

end SynthDesk.Console
