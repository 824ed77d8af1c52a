/-
Cutting a text into tokens.

The scanner keeps the open brackets and the margins of the lines around it, and
gives one token at a time. What is wrong with the text may come up at any
token. Most faults are told at once, even when something else has been found
wrong before; the others only when the token is asked for.
-/
import SynthDesk.Literal.Numeral
import SynthDesk.Literal.Token
import SynthDesk.Text.Printable
import SynthDesk.Text.Word

set_option autoImplicit false

namespace SynthDesk.Literal

/-- A text that is being cut. -/
structure Scanner where
  rest : Text
  line : Nat
  /-- A line begins here. -/
  fresh : Bool
  /-- The open brackets with their lines, the innermost first. -/
  brackets : List (CodePoint × Nat)
  /-- The margins that are not at the border: their columns with tabs to every
  eighth column, and with tabs as one column. -/
  margins : List (Nat × Nat)
  /-- Changes of the margin that are not told yet, negative if it shrinks. -/
  pending : Int

/-- What is wrong with a text. -/
structure Fault where
  words : Text
  /-- It is told even when another complaint stands. -/
  urgent : Bool
  /-- The innermost bracket that is open. -/
  bracket : Option (CodePoint × Nat)

/-- What is said of a bracket that stays open. -/
def neverClosed (bracket : CodePoint) : Text :=
  CodePoint.ofChar '\'' :: bracket :: Text.ofString "' was never closed"

namespace Scanner

/-- The start of a text on a line. -/
def start (line : Nat) (t : Text) : Scanner := ⟨t, line, true, [], [], 0⟩

/-- A fault that is told at once. -/
def fault (words : Text) : Fault := ⟨words, true, none⟩

/-- A fault that has to be asked for. -/
def quiet (s : Scanner) (words : String) : Fault := ⟨words, false, s.brackets.head?⟩

/-- The text ends where it has to go on. -/
def endFault (s : Scanner) : Fault :=
  match s.brackets with
  | [] => s.quiet "unexpected EOF while parsing"
  | (b, _) :: _ => ⟨neverClosed b, false, s.brackets.head?⟩

/-- A backslash is not the last of its line. -/
def continuationFault (s : Scanner) : Fault :=
  s.quiet "unexpected character after line continuation character"

/-- A token at a place of the scanner. -/
def token (s : Scanner) (kind : TokenKind) (line : Nat) : Token :=
  ⟨kind, line, s.brackets.length⟩

/-- The line after a code point is passed: the next one if it ends a line and
something follows. -/
def lineAfter (line : Nat) (c : CodePoint) (rest : Text) : Nat :=
  if c = '\n' && !rest.isEmpty then line + 1 else line

/-! ## Margins -/

/-- The margin of a line: its two columns, what follows and on which line. -/
structure Margin where
  column : Nat
  narrow : Nat
  rest : Text
  line : Nat

/-- **The margin at a place**, or why there is none: whether the text ends. A
line that goes on in the next one has the margin before its first backslash. -/
def margin (column narrow kept line : Nat) : Text → Except Bool Margin
  | [] => .ok ⟨if kept = 0 then column else kept, if kept = 0 then narrow else kept, [], line⟩
  | c :: r =>
    if c = ' ' then margin (column + 1) (narrow + 1) kept line r
    else if c = '\t' then margin ((column / 8 + 1) * 8) (narrow + 1) kept line r
    else if c.val = 12 then margin 0 0 kept line r
    else if c = '\\' then
      match r with
      | [] => .error false
      | d :: r =>
        if d ≠ CodePoint.ofChar '\n' then .error false
        else if r.isEmpty then .error true
        else margin column narrow (if kept = 0 then column else kept) (line + 1) r
    else
      .ok ⟨if kept = 0 then column else kept, if kept = 0 then narrow else kept, c :: r, line⟩

/-- What is said of tabs and blanks that could be read in two ways. -/
def mixedTabs (s : Scanner) : Fault :=
  s.quiet "inconsistent use of tabs and spaces in indentation"

/-- The current margin. -/
def currentMargin (s : Scanner) : Nat × Nat := s.margins.head?.getD (0, 0)

/-- The number of margins that can lie in each other. -/
def mostMargins : Nat := 99

/-- **Compares a margin** with those around it and notes how it changes. -/
def enterMargin (s : Scanner) (column narrow : Nat) : Except Fault Scanner :=
  if column = s.currentMargin.1 then
    if narrow = s.currentMargin.2 then .ok s else .error s.mixedTabs
  else if s.currentMargin.1 < column then
    if mostMargins ≤ s.margins.length then .error (s.quiet "too many levels of indentation")
    else if narrow ≤ s.currentMargin.2 then .error s.mixedTabs
    else .ok { s with margins := (column, narrow) :: s.margins, pending := s.pending + 1 }
  else
    let kept := s.margins.dropWhile fun m => column < m.1
    let s' := { s with
      margins := kept, pending := s.pending - ((s.margins.length - kept.length : Nat) : Int) }
    if column ≠ s'.currentMargin.1 then
      .error (s'.quiet "unindent does not match any outer indentation level")
    else if narrow ≠ s'.currentMargin.2 then .error s'.mixedTabs
    else .ok s'

/-- **Begins a line**, and tells whether it is a blank one or a comment. The
margin counts only outside of brackets and where there is something. -/
def enterLine (s : Scanner) : Except Fault (Bool × Scanner) :=
  match margin 0 0 0 s.line s.rest with
  | .error ended => .error (if ended then s.endFault else s.continuationFault)
  | .ok m =>
    let s := { s with rest := m.rest, line := m.line, fresh := false }
    let blank := m.rest.head? = some (CodePoint.ofChar '#') || m.rest.head? = some Text.newline
    if blank || !s.brackets.isEmpty then .ok (blank, s)
    else do pure (false, ← s.enterMargin m.column m.narrow)

/-! ## Names and strings -/

/-- A number with sixteen as its base and four digits at least. -/
def hexNumber (n : Nat) : Text :=
  let digits := (Nat.toDigits 16 n).map fun c => CodePoint.ofChar c.toUpper
  Text.fill (4 - digits.length) '0' ++ digits

/-- What is said of a code point that can stand nowhere. -/
def strangePoint (c : CodePoint) : Text :=
  if c.isPrintable then
    Text.ofString "invalid character '" ++ [c] ++ Text.ofString "' (U+" ++ hexNumber c.val ++
      Text.ofString ")"
  else Text.ofString "invalid non-printable character U+" ++ hexNumber c.val

/-- The first code point of a word that makes it no name. -/
def strangeIn? (word : Text) : Option CodePoint :=
  match word with
  | [] => none
  | c :: r => if c.beginsName then r.find? fun d => !d.continuesName else some c

/-- The letters that may stand in front of a string. -/
def isStringPrefix (word : Text) : Bool :=
  ["b", "r", "u", "f", "br", "rb", "fr", "rf"].any fun p =>
    Text.ofString p = word.map fun c =>
      if 65 ≤ c.val && c.val ≤ 90 then CodePoint.ofNat (c.val + 32) else c

/-- A quote of either kind. -/
def isQuote (c : CodePoint) : Bool := c = '\'' || c = '"'

/-- What follows the quotes that close a string, and the line; or the line on
which it is found that they are missing. `size` is their number and `seen` how
many have just been read. -/
def closeString (quote : CodePoint) (size : Nat) : Nat → Nat → Text → Except Nat (Text × Nat)
  | seen, line, [] => if seen = size then .ok ([], line) else .error line
  | seen, line, c :: r =>
    if seen = size then .ok (c :: r, line)
    else if c = quote then closeString quote size (seen + 1) line r
    else if size = 1 && c = '\n' then .error line
    else if c = '\\' then
      match r with
      | [] => .error line
      | d :: r => closeString quote size 0 (lineAfter line d r) r
    else closeString quote size 0 (lineAfter line c r) r

/-- What is said of a string that does not end. -/
def openString (size line : Nat) : Text :=
  Text.ofString
      (if size = 3 then "unterminated triple-quoted string literal (detected at line "
        else "unterminated string literal (detected at line ") ++
    Text.ofNat line ++ Text.ofString ")"

/-- The rest after a string whose first quote has been passed, and its line. -/
def stringRest (quote : CodePoint) (line : Nat) (t : Text) : Except Fault (Text × Nat) :=
  if t.head? = some quote then
    if t.tail.head? = some quote then
      match closeString quote 3 0 line (t.drop 2) with
      | .ok r => .ok r
      | .error l => .error (fault (openString 3 l))
    else .ok (t.tail, line)
  else
    match closeString quote 1 0 line t with
    | .ok r => .ok r
    | .error l => .error (fault (openString 1 l))

/-! ## Tokens -/

/-- The token between a place and a later one. -/
def cut (s : Scanner) (kind : Text → TokenKind) (rest : Text) (line : Nat) : Token × Scanner :=
  let written := s.rest.take (s.rest.length - rest.length)
  (s.token (kind written) s.line, { s with rest := rest, line := line })

/-- The bracket that closes another one. -/
def closingOf (c : CodePoint) : CodePoint :=
  if c = '(' then ')' else if c = '[' then ']' else '}'

/-- A bracket that opens. -/
def isOpening (c : CodePoint) : Bool := c = '(' || c = '[' || c = '{'

/-- A bracket that closes. -/
def isClosing (c : CodePoint) : Bool := c = ')' || c = ']' || c = '}'

/-- The number of brackets that can lie in each other. -/
def mostBrackets : Nat := 200

/-- What is said of a bracket that closes another one than the open one. -/
def mismatch (s : Scanner) (c opened : CodePoint) (line : Nat) : Text :=
  Text.ofString "closing parenthesis '" ++ [c] ++
    Text.ofString "' does not match opening parenthesis '" ++ [opened] ++
    (if line = s.line then Text.ofString "'" else Text.ofString "' on line " ++ Text.ofNat line)

/-- A mark, and the brackets open after it. -/
def mark (s : Scanner) (c : CodePoint) (r : Text) : Except Fault (Token × Scanner) :=
  let points := marksAt s.rest
  if 1 < points.length then .ok (s.cut .mark (s.rest.drop points.length) s.line)
  else if isOpening c then
    if mostBrackets ≤ s.brackets.length then .error (fault "too many nested parentheses")
    else .ok ({ s with brackets := (c, s.line) :: s.brackets }.cut .mark r s.line)
  else if isClosing c then
    match s.brackets with
    | [] => .error (fault (Text.ofString "unmatched '" ++ [c] ++ Text.ofString "'"))
    | (opened, line) :: outer =>
      if closingOf opened = c then .ok ({ s with brackets := outer }.cut .mark r s.line)
      else .error (fault (s.mismatch c opened line))
  else if c.isPrintable then .ok (s.cut .mark r s.line)
  else .error (fault (strangePoint c))

/-- A name, a number, a string or a mark. -/
def solid (s : Scanner) (c : CodePoint) (r : Text) : Except Fault (Token × Scanner) :=
  let word := if beginsWord c then s.rest.takeWhile isWordPart else []
  let after := s.rest.drop word.length
  if after.head?.any isQuote && (word.isEmpty || isStringPrefix word) then do
    let (rest, line) ← stringRest (after.headD c) s.line after.tail
    pure (s.cut .string rest line)
  else if beginsWord c then
    match strangeIn? word with
    | some d => .error (fault (strangePoint d))
    | none => .ok (s.cut .ofWord after s.line)
  else if c.isDigit || (c = '.' && startsWithDigit r) then
    match Numeral.rest s.rest with
    | .ok rest => .ok (s.cut .number rest s.line)
    | .error words => .error (fault words)
  else s.mark c r

/-- The text after blanks and a comment. -/
def skipBlanks (t : Text) : Text :=
  let t : Text := t.dropWhile fun c : CodePoint => c = ' ' || c = '\t' || c.val = 12
  if t.head? = some (CodePoint.ofChar '#') then t.dropWhile fun c => c ≠ Text.newline else t

/-- The next token; the number bounds the lines passed before it. -/
def nextWithin : Nat → Bool → Scanner → Except Fault (Token × Scanner)
  | 0, _, s => .ok (s.token .finish s.line, s)
  | n + 1, blank, s => do
    let (blank, s) ← if s.fresh then s.enterLine else pure (blank, s)
    if s.pending < 0 then
      pure (s.token .dedent s.line, { s with pending := s.pending + 1 })
    else if 0 < s.pending then
      pure (s.token .indent s.line, { s with pending := s.pending - 1 })
    else
      let s := { s with rest := skipBlanks s.rest }
      match s.rest with
      | [] => if s.brackets.isEmpty then pure (s.token .finish s.line, s) else throw s.endFault
      | c :: r =>
        if c = '\n' then
          let s' := { s with rest := r, line := lineAfter s.line c r, fresh := true }
          if blank || !s.brackets.isEmpty then nextWithin n false s'
          else pure (s.token .lineEnd s.line, s')
        else if c = '\\' then
          if r.head? ≠ some Text.newline then throw s.continuationFault
          else if r.tail.isEmpty then throw s.endFault
          else nextWithin n blank { s with rest := r.tail, line := s.line + 1 }
        else s.solid c r

/-- **The next token.** -/
def next (s : Scanner) : Except Fault (Token × Scanner) :=
  nextWithin (s.rest.length + 1) false s

/-- The first fault from here on; the number bounds the tokens. -/
def faultWithin : Nat → Scanner → Option Fault
  | 0, _ => none
  | n + 1, s =>
    match s.next with
    | .error f => some f
    | .ok (t, s') => if t.kind = .finish then none else faultWithin n s'

/-- **The first fault from here on.** A token takes a code point or is a change
of the margin, and there are at most as many of these as lines and margins. -/
def fault? (s : Scanner) : Option Fault :=
  faultWithin (2 * s.rest.length + s.margins.length + s.pending.natAbs + 2) s

end Scanner

end SynthDesk.Literal
