/-
Reading by rules, with ways back.

A reading goes along the tokens and cuts a new one off only when it looks at
it. An alternative that does not fit is left for the next one at the same
place. The expressions that a rule found at a place are kept with the token
there, so that going back costs nothing.

A text that does not fit is read a second time, warily: then the rules for
common mistakes are tried as well, and such a rule ends the reading with its
complaint. A fault of the scanner further on is told instead of a complaint.
-/
import SynthDesk.Literal.Expression
import SynthDesk.Literal.Scanner

set_option autoImplicit false

namespace SynthDesk.Literal

/-- The rules whose findings are kept. -/
inductive Rule
  | expression
  | starExpression
  | disjunction
  | conjunction
  | inversion
  | either
  | exclusive
  | both
  | shift
  | sum
  | term
  | factor
  | awaited
  | primary
  | strings
  | arguments
  | target
  | innerTarget
  | targetStem
  /-- The mistakes made with names that are given on the way. -/
  | badNaming
deriving DecidableEq, Repr

/-- What a rule found at a place: an expression and where it ends. -/
structure Finding where
  rule : Rule
  expression : Option Expression
  finish : Nat

/-- A token with what the rules found at it. -/
structure Cell where
  token : Token
  findings : List Finding

/-- The state of a reading. -/
structure Reading where
  scanner : Scanner
  cells : Array Cell
  place : Nat
  /-- The rules for mistakes are tried. -/
  wary : Bool
  /-- What complaints begin with. -/
  lead : Text

/-- **A part of a reading**: it succeeds, or does not fit, or ends the reading
with words. -/
abbrev Parser := OptionT (StateT Reading (Except Text))

/-- The start of a reading. -/
def Reading.start (lead : Text) (line : Nat) (t : Text) : Reading :=
  ⟨.start line t, #[], 0, false, lead⟩

/-- The same text from its start, warily. The tokens are kept, what the rules
found is not. -/
def Reading.again (s : Reading) : Reading :=
  { s with cells := s.cells.map fun c => { c with findings := [] }, place := 0, wary := true }

/-- The line of the last token that was cut off. -/
def Reading.lastLine (s : Reading) : Nat := (s.cells.back?.map fun c => c.token.line).getD 0

/-- **What is told when there is something wrong**: a fault further on, if it is
an urgent one; a bracket that stays open, if it was opened on an earlier line;
or the words. -/
def Reading.settle (s : Reading) (words : Text) : Text :=
  match s.scanner.fault? with
  | none => words
  | some f =>
    if f.urgent then f.words
    else
      match f.bracket with
      | none => words
      | some (b, line) => if line < s.lastLine then s.lead ++ neverClosed b else words

/-- The end of the text was seen when the last token was cut off. -/
def Reading.sawEnd (s : Reading) : Bool :=
  s.scanner.rest.isEmpty && !(s.cells.back?.any fun c => c.token.kind.endsBySelf)

/-- **What is told when there is a complaint**: nothing else once the end of the
text was seen. -/
def Reading.complaint (s : Reading) (words : Text) : Text :=
  if s.sawEnd then words else s.settle words

namespace Parser

variable {α β : Type}

/-! ## Places -/

/-- Ends the reading with a complaint. -/
def complain (words : Text) : Parser α := do
  let s ← get
  throwThe Text (s.complaint (s.lead ++ words))

/-- The place reached. -/
def place : Parser Nat := do pure (← get).place

/-- Goes to a place. -/
def goTo (n : Nat) : Parser Unit := modify fun s => { s with place := n }

/-- The token at the place, cut off if it has not been. -/
def peek : Parser Token := do
  let s ← get
  match s.cells[s.place]? with
  | some c => pure c.token
  | none =>
    match s.scanner.next with
    | .ok (t, scanner) =>
      set { s with scanner := scanner, cells := s.cells.push ⟨t, []⟩ }
      pure t
    | .error f => throwThe Text (if f.urgent then f.words else s.lead ++ f.words)

/-- Passes the token at the place. -/
def advance : Parser Unit := modify fun s => { s with place := s.place + 1 }

/-- The number of brackets that are open after what has been passed. -/
def depthBefore : Parser Nat := do
  let s ← get
  pure ((s.cells[s.place - 1]?.map fun c => c.token.depth).getD 0)

/-! ## Alternatives -/

/-- Tries a part; the place is as before if it does not fit. -/
def attempt (p : Parser α) : Parser (Option α) := do
  let start ← place
  match ← OptionT.lift p.run with
  | some a => pure (some a)
  | none =>
    goTo start
    pure none

/-- The first alternative that fits. -/
def choose : List (Parser α) → Parser α
  | [] => failure
  | p :: ps => do
    match ← attempt p with
    | some a => pure a
    | none => choose ps

/-- Fits where the part does, and passes nothing. -/
def ahead (p : Parser α) : Parser Unit := do
  let start ← place
  let _ ← p
  goTo start

/-- Fits where the part does not, and passes nothing. -/
def absent (p : Parser α) : Parser Unit := do
  let start ← place
  match ← attempt p with
  | some _ =>
    goTo start
    failure
  | none => pure ()

/-- Tries a rule for a mistake, in a wary reading. Such a rule ends the reading
or finds nothing. -/
def suspect (p : Parser Unit) : Parser α := do
  if (← get).wary then p
  failure

/-- Reads a part without suspicion. -/
def trusting (p : Parser α) : Parser α := do
  let wary := (← get).wary
  modify fun s => { s with wary := false }
  let found ← attempt p
  modify fun s => { s with wary := wary }
  match found with
  | some a => pure a
  | none => failure

/-! ## Repetition -/

/-- A bound on the tokens that are left. -/
def bound : Parser Nat := do
  let s ← get
  pure (s.cells.size + 2 * s.scanner.rest.length + 2)

/-- As many times as the part fits; the number bounds them. -/
def manyWithin (p : Parser α) : Nat → Parser (List α)
  | 0 => pure []
  | n + 1 => do
    match ← attempt p with
    | some a => pure (a :: (← manyWithin p n))
    | none => pure []

/-- As many times as the part fits. -/
def many (p : Parser α) : Parser (List α) := do manyWithin p (← bound)

/-- As many times as the part fits, and once at least. -/
def many1 (p : Parser α) : Parser (List α) := do pure ((← p) :: (← many p))

/-- Once at least, with something between. -/
def separated (p : Parser α) (between : Parser β) : Parser (List α) := do
  let first ← p
  pure (first :: (← many do
    let _ ← between
    p))

/-- Goes on with what was found as long as that fits; the number bounds the
steps. -/
def extendWithin (step : Expression → Parser Expression) : Nat → Expression → Parser Expression
  | 0, e => pure e
  | n + 1, e => do
    match ← attempt (step e) with
    | some e' => extendWithin step n e'
    | none => pure e

/-- A chain that leans to the left: a first part, and what is added to it. -/
def chain (first : Parser Expression) (step : Expression → Parser Expression) :
    Parser Expression := do
  let e ← first
  extendWithin step (← bound) e

/-! ## Tokens -/

/-- A mark. -/
def mark (points : String) : Parser Unit := do
  if (← peek).kind = .mark (Text.ofString points) then advance else failure

/-- A reserved word. -/
def keyword (word : String) : Parser Unit := do
  if (← peek).kind = .keyword (Text.ofString word) then advance else failure

/-- A name. -/
def name : Parser Text := do
  match (← peek).kind with
  | .name word =>
    advance
    pure word
  | _ => failure

/-- A name that is, or begins, one that is reserved in some places. -/
def softKeyword : Parser Unit := do
  let word ← name
  if softKeywords.any fun k => (Text.after? word (Text.ofString k)).isSome then pure ()
  else failure

/-- A number. -/
def number : Parser Text := do
  match (← peek).kind with
  | .number numeral =>
    advance
    pure numeral
  | _ => failure

/-- A string, with its line. -/
def string : Parser (Text × Nat) := do
  let t ← peek
  match t.kind with
  | .string written =>
    advance
    pure (written, t.line)
  | _ => failure

/-- A token of a kind that stands for nothing else. -/
def plain (kind : TokenKind) : Parser Unit := do
  if (← peek).kind = kind then advance else failure

/-- A part, if it fits. -/
def perhaps (p : Parser α) : Parser Unit := do
  let _ ← attempt p

/-! ## What rules found -/

/-- Reads by a rule, or takes what it found at the place before. -/
def remembered (rule : Rule) (p : Parser Expression) : Parser Expression := do
  let _ ← peek
  let s ← get
  let known := (s.cells[s.place]?.map Cell.findings).getD []
  match known.find? fun f => f.rule = rule with
  | some f =>
    goTo f.finish
    match f.expression with
    | some e => pure e
    | none => failure
  | none =>
    let found ← attempt p
    modify fun s' => { s' with
      cells := s'.cells.modify s.place fun c =>
        { c with findings := ⟨rule, found, s'.place⟩ :: c.findings } }
    match found with
    | some e => pure e
    | none => failure

end Parser

end SynthDesk.Literal
