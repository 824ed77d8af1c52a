/-
Reading a JSON document.

The reader takes a text apart from its start. A value is read with the number
of levels that arrays and objects may still open, and the recursion follows
that number; the members of one array or object are read one after another,
each from where the last one ended. Beyond the grammar of JSON the reader
accepts the three words for the doubles that are no finite numbers, and half a
surrogate pair as an escape; of two fields with one name the last one counts.

A reading fails for one of three causes, and where a document has several the
first in reading order is the one reported: it is not of the grammar, and then the
text is kept from the place on where that shows; it opens too many levels; or a
whole number in it has too many digits.
-/
import SynthDesk.Value.Basic

set_option autoImplicit false

namespace SynthDesk.Json

/-! ## Causes of failure -/

/-- What opens a level. -/
inductive Nesting
  | array
  | object
deriving DecidableEq, Repr

/-- What is missing, or in the way, where a document is not of the grammar. -/
inductive Complaint
  | noValue
  | extraData
  | unterminated
  | control
  | escape
  | unicodeEscape
  | noName
  | noColon
  | noComma
deriving DecidableEq, Repr

/-- The words for it. -/
def Complaint.words : Complaint → Text
  | noValue => "Expecting value"
  | extraData => "Extra data"
  | unterminated => "Unterminated string starting at"
  | control => "Invalid control character at"
  | escape => "Invalid \\escape"
  | unicodeEscape => "Invalid \\uXXXX escape"
  | noName => "Expecting property name enclosed in double quotes"
  | noColon => "Expecting ':' delimiter"
  | noComma => "Expecting ',' delimiter"

/-- Why a document was not read. -/
inductive ReadError
  /-- Not of the grammar, with the text from the place on where that shows. -/
  | malformed (what : Complaint) (left : Text)
  /-- More levels open than allowed. -/
  | tooDeep (opening : Nesting)
  /-- A whole number with more digits than allowed. -/
  | tooManyDigits (digits : Nat)
deriving DecidableEq, Repr

/-- A part of the reader: from a text to a result and the text after it. -/
abbrev Scanner (α : Type) := Text → Except ReadError (α × Text)

/-! ## Blanks and words -/

/-- The blanks between tokens. -/
def isBlank (c : CodePoint) : Bool := c = ' ' || c = '\t' || c = '\n' || c = '\r'

/-- The text without the blanks before it. -/
def skipBlanks (s : Text) : Text := s.dropWhile isBlank

/-- The words and what they stand for. -/
def words : List (Text × Value) := [
  ("null", .null), ("true", .bool true), ("false", .bool false),
  ("NaN", .float .nan), ("Infinity", .float (.infinite false)),
  ("-Infinity", .float (.infinite true))]

/-- A word at the start of the text. -/
def word? (s : Text) : Option (Value × Text) :=
  words.findSome? fun (w, v) => (Text.after? w s).map (v, ·)

/-! ## Numbers -/

/-- The digits at the start of a text, and the rest. -/
def digits (s : Text) : Text × Text :=
  (s.takeWhile CodePoint.isDigit, s.dropWhile CodePoint.isDigit)

/-- Point and decimals, if a digit follows the point. -/
def fraction (s : Text) : Text × Text :=
  match s with
  | [] => ([], [])
  | c :: r => if c = '.' && !(digits r).1.isEmpty then digits r else ([], s)

/-- Sign and digits of an exponent, if there is a digit. -/
def exponent (s : Text) : Option Int × Text :=
  match s with
  | [] => (none, [])
  | c :: r =>
    if c = 'e' || c = 'E' then
      let (negative, r') := match r with
        | [] => (false, r)
        | x :: r' => if x = '-' then (true, r') else if x = '+' then (false, r') else (false, r)
      let (ds, rest) := digits r'
      if ds.isEmpty then (none, s)
      else
        let n : Int := Text.natOfDigits ds
        (some (if negative then -n else n), rest)
    else (none, s)

/-- The whole part: one zero, or digits that start with another one. -/
def whole (s : Text) : Text × Text :=
  match s with
  | [] => ([], [])
  | c :: r => if c = '0' then ([c], r) else digits s

/-- A number: a whole number, or a double if it has a fraction or an exponent. -/
def number (s : Text) : Except ReadError (Value × Text) :=
  let (negative, unsigned) := match s with
    | [] => (false, s)
    | c :: r => if c = '-' then (true, r) else (false, s)
  let (ds, r) := whole unsigned
  if ds.isEmpty then .error (.malformed .noValue s) else
  let (decimals, r) := fraction r
  let (power, r) := exponent r
  if decimals.isEmpty && power.isNone then
    if Value.digitLimit < ds.length then .error (.tooManyDigits ds.length)
    else
      let n : Int := Text.natOfDigits ds
      .ok (.int (if negative then -n else n), r)
  else
    .ok (.float (Binary64.ofDecimal negative (Text.natOfDigits (ds ++ decimals))
      (power.getD 0 - decimals.length)), r)

/-! ## Strings -/

/-- What a letter after a backslash stands for. -/
def escaped? (c : CodePoint) : Option CodePoint :=
  if c = '"' || c = '\\' || c = '/' then some c
  else if c = 'b' then some (CodePoint.ofNat 8)
  else if c = 'f' then some (CodePoint.ofNat 12)
  else if c = 'n' then some (CodePoint.ofNat 10)
  else if c = 'r' then some (CodePoint.ofNat 13)
  else if c = 't' then some (CodePoint.ofNat 9)
  else none

/-- The number that four hexadecimal digits write. -/
def unit? (a b c d : CodePoint) : Option CodePoint := do
  let a ← Text.hexValue? a
  let b ← Text.hexValue? b
  let c ← Text.hexValue? c
  let d ← Text.hexValue? d
  return CodePoint.ofNat (((a * 16 + b) * 16 + c) * 16 + d)

/-- The code points of a string up to its closing quote, each escape by itself. A string without
an end is reported where it starts. -/
def units (start : Text) : Text → Except ReadError (Text × Text)
  | [] => .error (.malformed .unterminated start)
  | c :: r =>
    if c = '"' then .ok ([], r)
    else if c.val < 0x20 then .error (.malformed .control (c :: r))
    else if c = '\\' then
      match r with
      | [] => .error (.malformed .unterminated start)
      | e :: r' =>
        if e = 'u' then
          match r' with
          -- The digits have to be followed by something, at least the closing quote.
          | w :: x :: y :: z :: next :: r'' =>
            match unit? w x y z with
            | none => .error (.malformed .unicodeEscape (e :: r'))
            | some u => do
              let (us, rest) ← units start (next :: r'')
              return (u :: us, rest)
          | _ => .error (.malformed .unicodeEscape (e :: r'))
        else match escaped? e with
          | none => .error (.malformed .escape (c :: r))
          | some u => do
            let (us, rest) ← units start r'
            return (u :: us, rest)
    else do
      let (us, rest) ← units start r
      return (c :: us, rest)

/-- The code point that two halves make. -/
def joined (high low : CodePoint) : CodePoint :=
  CodePoint.ofNat (0x10000 + (high.val - 0xD800) * 0x400 + (low.val - 0xDC00))

/-- **Joining.** A high half with a low half right after it becomes one code
point; other halves stay. -/
def joinHalves : Text → Text
  | [] => []
  | [c] => [c]
  | c :: d :: r =>
    if c.isHighSurrogate && d.isLowSurrogate then joined c d :: joinHalves r
    else c :: joinHalves (d :: r)

/-- A string after its opening quote. -/
def string (s : Text) : Except ReadError (Text × Text) :=
  match units (CodePoint.ofChar '"' :: s) s with
  | .error e => .error e
  | .ok (us, rest) => .ok (joinHalves us, rest)

/-! ## Values -/

/-- The members of an array or object after its opening bracket: one at least,
separated by commas, up to the closing bracket. The count bounds the members
and is never short, since each takes one code point at least. -/
def members {α : Type} (item : Scanner α) (close : CodePoint) :
    Nat → Text → Except ReadError (List α × Text)
  | 0, s => .error (.malformed .noComma s)
  | n + 1, s => do
    let (v, r) ← item s
    match skipBlanks r with
    | [] => .error (.malformed .noComma [])
    | c :: r' =>
      if c = close then return ([v], r')
      else if c = ',' then
        let (vs, rest) ← members item close n (skipBlanks r')
        return (v :: vs, rest)
      else .error (.malformed .noComma (c :: r'))

/-- The members between two brackets, perhaps none. Where the text ends at once it is a member
that is missing. -/
def bracketed {α : Type} (item : Scanner α) (missing : Complaint) (close : CodePoint) (s : Text) :
    Except ReadError (List α × Text) :=
  match skipBlanks s with
  | [] => .error (.malformed missing [])
  | c :: r => if c = close then .ok ([], r) else members item close (s.length + 1) (c :: r)

/-- A field: a name, a colon, a value. -/
def field (value : Scanner Value) (s : Text) : Except ReadError ((Text × Value) × Text) :=
  match s with
  | [] => .error (.malformed .noName [])
  | q :: r =>
    if q = '"' then do
      let (name, r) ← string r
      match skipBlanks r with
      | [] => .error (.malformed .noColon [])
      | c :: r' =>
        if c = ':' then
          let (v, rest) ← value (skipBlanks r')
          return ((name, v), rest)
        else .error (.malformed .noColon (c :: r'))
    else .error (.malformed .noName (q :: r))

/-- What opens a level, if the text starts with it. -/
def opening? (c : CodePoint) : Option Nesting :=
  if c = '[' then some .array else if c = '\x7b' then some .object else none

/-- A value that opens no level. -/
def scalar (s : Text) : Except ReadError (Value × Text) :=
  match s with
  | [] => .error (.malformed .noValue [])
  | c :: r =>
    if c = '"' then do
      let (t, rest) ← string r
      return (.text t, rest)
    else match word? s with
      | some found => .ok found
      | none => number s

/-- **A value**, with the levels that may still be opened. -/
def value : Nat → Text → Except ReadError (Value × Text)
  | _, [] => .error (.malformed .noValue [])
  | 0, c :: r =>
    match opening? c with
    | some n => .error (.tooDeep n)
    | none => scalar (c :: r)
  | depth + 1, c :: r =>
    match opening? c with
    | some .array => do
      let (items, rest) ← bracketed (value depth) .noValue ']' r
      return (.list items, rest)
    | some .object => do
      let (pairs, rest) ← bracketed (field (value depth)) .noName '\x7d' r
      return (.object (Keyed.ofPairs pairs), rest)
    | none => scalar (c :: r)

/-- **A document**: one value with nothing but blanks around it, as `json.loads` reads it where
its recursion may go down so many levels. -/
def document (levels : Nat) (s : Text) : Except ReadError Value := do
  let (v, rest) ← value levels (skipBlanks s)
  if (skipBlanks rest).isEmpty then return v else .error (.malformed .extraData (skipBlanks rest))

/-! ## Messages -/

/-- The text with every line end written as one newline, as a file that is opened for text gives
it. -/
def oneLineEnds : Text → Text
  | [] => []
  | [c] => [if c = '\r' then Text.newline else c]
  | c :: d :: r =>
    if c = '\r' then
      if d = '\n' then Text.newline :: oneLineEnds r else Text.newline :: oneLineEnds (d :: r)
    else c :: oneLineEnds (d :: r)

/-- The mark that is refused at the beginning of a document. -/
def byteOrderMark : CodePoint := CodePoint.ofNat 0xFEFF

/-- How it reads that a document is not of the grammar: the text of `JSONDecodeError`, with the
line, the column and the number of the code point, the first two from one on. -/
def complaintMessage (doc : Text) (what : Complaint) (left : Text) : Text :=
  let before := oneLineEnds (doc.take (doc.length - left.length))
  let words := if doc.head? = some byteOrderMark
    then Text.ofString "Unexpected UTF-8 BOM (decode using utf-8-sig)" else what.words
  words ++ Text.ofString ": line " ++ Text.ofNat (before.count Text.newline + 1) ++
    Text.ofString " column " ++
    Text.ofNat ((before.reverse.takeWhile (· != Text.newline)).length + 1) ++
    Text.ofString " (char " ++ Text.ofNat before.length ++ [CodePoint.ofChar ')']

/-- How it reads that a whole number has too many digits. -/
def digitsMessage (digits : Nat) : Text :=
  Text.ofString "Exceeds the limit (4300 digits) for integer string conversion: value has " ++
    Text.ofNat digits ++
    Text.ofString " digits; use sys.set_int_max_str_digits() to increase the limit"

/-- The value is missing on the second line. -/
example : (match document 9 "[1,\r\n ]" with
    | .error (.malformed what left) => complaintMessage "[1,\r\n ]" what left
    | _ => []) = Text.ofString "Expecting value: line 2 column 2 (char 5)" := by decide +kernel

end SynthDesk.Json
