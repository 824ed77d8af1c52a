/-
Strings, and strings with expressions in them.

A string is read for what is wrong with it. In one with expressions, single
braces hold an expression, perhaps followed by a conversion and a format, and a
format can hold expressions again, but those no further format. Where an
expression ends is found by its brackets and quotes alone; it is then read for
itself, in parentheses.
-/
import SynthDesk.Literal.Escape
import SynthDesk.Literal.Expression
import SynthDesk.Literal.Scanner

set_option autoImplicit false

namespace SynthDesk.Literal

/-! ## Strings taken apart -/

/-- A string as it is written: what its letters say, and what its quotes hold. -/
structure StringForm where
  octets : Bool
  raw : Bool
  template : Bool
  body : Text

/-- A written string taken apart. -/
def StringForm.of (written : Text) : StringForm :=
  let letters := written.takeWhile fun c => !Scanner.isQuote c
  let inQuotes := written.drop letters.length
  let has (small large : Char) : Bool := letters.any fun c => startsWith small large [c]
  let quote := inQuotes.head?
  let triple := 6 ≤ inQuotes.length && inQuotes[1]? = quote && inQuotes[2]? = quote
  let size := if triple then 3 else 1
  { octets := has 'b' 'B'
    raw := has 'r' 'R'
    template := has 'f' 'F'
    body := (inQuotes.drop size).take (inQuotes.length - 2 * size) }

namespace Template

/-! ## The text between expressions -/

/-- What stands before the next expression, or before doubled braces. -/
structure Stretch where
  text : Text
  /-- It ends with doubled braces, of which it has one. -/
  doubled : Bool
  rest : Text

/-- The stretch at the start of a text, after what has been read of it. In a
format braces are not doubled. The number bounds the steps. -/
def stretchWithin (raw inFormat : Bool) : Nat → Text → Text → Except String Stretch
  | 0, done, t => .ok ⟨done.reverse, false, t⟩
  | _, done, [] => .ok ⟨done.reverse, false, []⟩
  | n + 1, done, c :: r =>
    let brace (done : Text) (c : CodePoint) (r : Text) : Except String Stretch :=
      if !inFormat && r.head? = some c then .ok ⟨(c :: done).reverse, true, r.tail⟩
      else if !inFormat && c = '\x7d' then .error "f-string: single '\x7d' is not allowed"
      else .ok ⟨done.reverse, false, c :: r⟩
    let isBrace (c : CodePoint) : Bool := c = '\x7b' || c = '\x7d'
    if !raw && c = '\\' && !r.isEmpty then
      let d := r.headD c
      let after := r.tail
      if d = 'N' then
        let name :=
          if after.head? = some (CodePoint.ofChar '\x7b') then
            let inside := after.tail.takeWhile fun x => x ≠ CodePoint.ofChar '\x7d'
            after.take (inside.length + 2)
          else after.take 1
        stretchWithin raw inFormat n (name.reverse ++ d :: c :: done) (after.drop name.length)
      else if isBrace d then brace (c :: done) d after
      else stretchWithin raw inFormat n (d :: c :: done) after
    else if isBrace c then brace done c r
    else stretchWithin raw inFormat n (c :: done) r

/-- The stretch at the start of a text. -/
def stretch (raw inFormat : Bool) (t : Text) : Except String Stretch :=
  stretchWithin raw inFormat t.length [] t

/-! ## Where an expression ends -/

/-- What surrounds a place in an expression: the quotes that are open, and how
many of them close, and the open brackets. -/
structure Surrounding where
  quote : Option (CodePoint × Bool)
  brackets : List CodePoint

/-- What is said of a bracket in an expression. -/
def unmatched (c : CodePoint) : Text := Text.ofString "f-string: unmatched '" ++ [c] ++ "'"

/-- What is said when the brace that ends an expression is missing. -/
def expectingBrace : Text := "f-string: expecting '\x7d'"

/-- The expression at the start of a text and what follows it, after what has
been read of it. The number bounds the steps. -/
def expressionWithin (place : Surrounding) : Nat → Text → Text → Except Text (Text × Text)
  | 0, done, t => .ok (done.reverse, t)
  | _, done, [] =>
    if place.quote.isSome then .error "f-string: unterminated string"
    else
      match place.brackets with
      | b :: _ => .error (unmatched b)
      | [] => .ok (done.reverse, [])
  | n + 1, done, c :: r =>
    let isTriple : Bool := r.head? = some c && r.tail.head? = some c
    let on (place : Surrounding) : Except Text (Text × Text) :=
      expressionWithin place n (c :: done) r
    let pastTriple (place : Surrounding) : Except Text (Text × Text) :=
      expressionWithin place n (c :: c :: c :: done) (r.drop 2)
    if c = '\\' then .error "f-string expression part cannot include a backslash"
    else
      match place.quote with
      | some (q, triple) =>
        if c ≠ q then on place
        else if !triple then on { place with quote := none }
        else if isTriple then pastTriple { place with quote := none }
        else on place
      | none =>
        if Scanner.isQuote c then
          if isTriple then pastTriple { place with quote := some (c, true) }
          else on { place with quote := some (c, false) }
        else if Scanner.isOpening c then
          if Scanner.mostBrackets ≤ place.brackets.length then
            .error "f-string: too many nested parenthesis"
          else on { place with brackets := c :: place.brackets }
        else if c = '#' then .error "f-string expression part cannot include '#'"
        else if place.brackets.isEmpty && (Text.ofString "!:\x7d=<>").contains c then
          if (Text.ofString "!=<>").contains c && r.head? = some (CodePoint.ofChar '=') then
            expressionWithin place n (CodePoint.ofChar '=' :: c :: done) r.tail
          else if c = '<' || c = '>' then on place
          else .ok (done.reverse, c :: r)
        else if Scanner.isClosing c then
          match place.brackets with
          | [] => .error (unmatched c)
          | opened :: outer =>
            if Scanner.closingOf opened = c then on { place with brackets := outer }
            else
              .error (Text.ofString "f-string: closing parenthesis '" ++ [c] ++
                "' does not match opening parenthesis '" ++ [opened] ++ "'")
        else on place

/-- The expression at the start of a text and what follows it. -/
def expressionAt (t : Text) : Except Text (Text × Text) :=
  expressionWithin ⟨none, []⟩ (t.length + 1) [] t

/-- A code point that does not make an expression. -/
def isSpace (c : CodePoint) : Bool := c = ' ' || c = '\t' || c = '\n' || c.val = 12

/-- What is said of an expression that is not there, by what follows it. -/
def missing (rest : Text) : Text :=
  match rest.head? with
  | some c =>
    if c = '!' || c = ':' || c = '=' then
      Text.ofString "f-string: expression required before '" ++ [c] ++ "'"
    else "f-string: empty expression not allowed"
  | none => "f-string: empty expression not allowed"

/-! ## Expressions with their conversions and formats -/

/-- What is done with what a template holds: complaints begin with `lead`, and
an expression is read by `inner` from a line on. -/
structure Context where
  lead : Text
  raw : Bool
  inner : Nat → Text → Except Text Unit
  line : Nat
  body : Text

/-- The line of a place in a template, by what follows it. -/
def Context.lineAt (x : Context) (rest : Text) : Nat :=
  x.line + (x.body.count Text.newline - rest.count Text.newline)

/-- The rest after a conversion, if there is one. -/
def afterConversion (t : Text) : Except Text Text :=
  if t.head? = some (CodePoint.ofChar '!') then
    match t.tail with
    | [] => .error expectingBrace
    | c :: r =>
      if c = 's' || c = 'r' || c = 'a' then .ok r
      else .error "f-string: invalid conversion character: expected 's', 'r', or 'a'"
  else .ok t

/-- The rest after an expression, which has been read for itself. -/
def afterExpression (x : Context) (t : Text) : Except Text Text := do
  let lead : Except Text Text → Except Text Text := Except.mapError (x.lead ++ ·)
  match expressionAt t with
  | .error words => lead (.error words)
  | .ok (_, []) => lead (.error expectingBrace)
  | .ok (e, rest) =>
    if e.all isSpace then lead (.error (missing rest))
    else do
      x.inner (x.lineAt t) (CodePoint.ofChar '(' :: e ++ Text.ofString ")\n")
      lead (afterConversion (if rest.head? = some (CodePoint.ofChar '=') then rest.tail else rest))

/-- The number of formats that can lie in each other with expressions. -/
def mostFormats : Nat := 2

/-- Reads stretches and expressions up to the end, or to the brace that ends a
format, and gives what is left. `depth` formats lie around; the first number
bounds the steps. -/
def partsWithin (x : Context) : Nat → Nat → Text → Except Text Text
  | 0, _, t => .ok t
  | n + 1, depth, t => do
    let s ← (stretch x.raw (0 < depth) t).mapError fun words => x.lead ++ Text.ofString words
    if !x.raw then
      if let some words := Escape.flaw? s.text then throw (x.lead ++ words)
    if s.doubled then partsWithin x n depth s.rest
    else if s.rest.head? ≠ some (CodePoint.ofChar '\x7b') then pure s.rest
    else if mostFormats ≤ depth then throw (x.lead ++ "f-string: expressions nested too deeply")
    else
      let rest ← afterExpression x s.rest.tail
      let rest ←
        if rest.head? = some (CodePoint.ofChar ':') then
          if rest.tail.isEmpty then throw (x.lead ++ expectingBrace)
          else partsWithin x n (depth + 1) rest.tail
        else pure rest
      if rest.head? = some (CodePoint.ofChar '\x7d') then partsWithin x n depth rest.tail
      else throw (x.lead ++ expectingBrace)

/-- **What is wrong with a template**, if anything. -/
def check (x : Context) : Except Text Unit := do
  let _ ← partsWithin x (x.body.length + 1) 0 x.body

end Template

/-! ## Strings in a row -/

/-- What is wrong with a string that has no expressions. -/
def StringForm.flaw? (s : StringForm) : Option Text :=
  if s.octets && s.body.any fun c => 128 ≤ c.val then
    some "bytes can only contain ASCII literal characters"
  else if s.raw || !s.body.contains (CodePoint.ofChar '\\') then none
  else if s.octets then Escape.octetFlaw? s.body else Escape.flaw? s.body

/-- **What strings in a row make**: all hold octets, or none does. -/
def joinStrings (lead : Text) (inner : Nat → Text → Except Text Unit)
    (strings : List (Text × Nat)) : Except Text Expression := do
  let first := StringForm.of (strings.headD ([], 0)).1
  for (written, line) in strings do
    let s := StringForm.of written
    if !s.template then
      if let some words := s.flaw? then throw (lead ++ words)
    if s.octets != first.octets then
      throw (lead ++ "cannot mix bytes and nonbytes literals")
    if s.template then Template.check ⟨lead, s.raw, inner, line, s.body⟩
  if strings.any fun s => (StringForm.of s.1).template then pure .template
  else pure (.constant (if first.octets then .octets else .string))

end SynthDesk.Literal
