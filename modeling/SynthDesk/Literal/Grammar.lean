/-
The grammar of expressions.

Every rule is given a way to read by the others, `call`, and alternatives are
tried in the order in which they stand. A rule for a mistake comes before the
alternatives that it would be mistaken for, or after those that it spoils; the
order decides which complaint is made, since the first one counts.

There are no square brackets: no text that is read here can hold any.
-/
import SynthDesk.Literal.Reading
import SynthDesk.Literal.Template

set_option autoImplicit false

namespace SynthDesk.Literal.Grammar

open SynthDesk.Literal.Parser

variable (call : Rule → Parser Expression)

/-- A complaint that mentions an expression by its description. -/
def complainOf {α : Type} (before : String) (e : Expression) (after : String) : Parser α :=
  complain (Text.ofString (before ++ e.description ++ after))

/-- A comma. -/
def comma : Parser Unit := mark ","

/-! ## Names given on the way -/

/-- A name that is given to an expression on the way. -/
def assignment : Parser Expression := do
  let _ ← name
  mark ":="
  let _ ← call .expression
  pure .named

/-- A starred expression. Nothing else can be meant by the star. -/
def starred : Parser Expression := choose [
  do
    mark "*"
    pure (.starred (← call .expression)),
  do
    mark "*"
    complain "Invalid star expression"]

/-- An expression that may be given a name. -/
def namedExpression : Parser Expression := choose [
  assignment call,
  suspect (do let _ ← call .badNaming),
  do
    let e ← call .expression
    absent (mark ":=")
    pure e]

/-- The same without the rules for mistakes with names. -/
def argumentExpression : Parser Expression := choose [
  assignment call,
  do
    let e ← call .expression
    absent (mark ":=")
    pure e]

/-- An expression that may be given a name, or is starred. -/
def starNamed : Parser Expression := choose [
  do
    mark "*"
    pure (.starred (← call .either)),
  namedExpression call]

/-- Such expressions with commas between and perhaps one after them. -/
def starNamedList : Parser (List Expression) := do
  let es ← separated (starNamed call) comma
  perhaps comma
  pure es

/-- Expressions with commas, which make a tuple of them. -/
def commaExpressions (part : Parser Expression) : Parser Expression := choose [
  do
    let e ← part
    let es ← many1 do
      comma
      part
    perhaps comma
    pure (.tuple (e :: es)),
  do
    let e ← part
    comma
    pure (.tuple [e]),
  part]

/-- What gives a value on the way out. -/
def yieldExpression : Parser Expression := choose [
  do
    keyword "yield"
    keyword "from"
    let _ ← call .expression
    pure .yieldFrom,
  do
    keyword "yield"
    perhaps (commaExpressions (call .starExpression))
    pure .yield]

/-! ## Loops in brackets -/

/-- Loop targets. -/
def targets : Parser Unit := choose [
  do
    let _ ← call .target
    absent comma,
  do
    let _ ← call .target
    let _ ← many do
      comma
      call .target
    perhaps comma]

/-- A target that is none. -/
def badTarget : Parser Unit := do
  perhaps (keyword "async")
  keyword "for"
  let e ← commaExpressions (call .starExpression)
  match e.badTarget? with
  | some b => complainOf "cannot assign to " b ""
  | none => pure ()

/-- A loop after its first word, which it cannot be mistaken for anything else
once `in` has been read: tells whether it fits. -/
def loopBody : Parser Bool := do
  targets call
  keyword "in"
  let found ← attempt do
    let _ ← call .disjunction
    let _ ← many do
      keyword "if"
      call .disjunction
  pure found.isSome

/-- A loop with its conditions. -/
def loop : Parser Unit := do
  let fits ← choose [
    do
      keyword "async"
      keyword "for"
      loopBody call,
    do
      keyword "for"
      loopBody call,
    suspect (badTarget call)]
  if fits then pure () else failure

/-- Loops in each other. -/
def loops : Parser Unit := do
  let _ ← many1 (loop call)

/-- Loops after what cannot be collected. -/
def badComprehension : Parser Unit := choose [
  do
    choose [mark "(", mark "\x7b"]
    let _ ← starred call
    loops call
    complain "iterable unpacking cannot be used in comprehension",
  do
    mark "\x7b"
    let _ ← starNamed call
    comma
    let _ ← starNamedList call
    loops call
    complain "did you forget parentheses around the comprehension target?",
  do
    mark "\x7b"
    let _ ← starNamed call
    comma
    loops call
    complain "did you forget parentheses around the comprehension target?"]

/-- A generator in parentheses. -/
def generator : Parser Expression := choose [
  do
    mark "("
    let _ ← argumentExpression call
    loops call
    mark ")"
    pure .generator,
  suspect (badComprehension call)]

/-! ## Brackets -/

/-- A tuple in parentheses. -/
def tuple : Parser Expression := do
  mark "("
  let items ← attempt do
    let e ← starNamed call
    comma
    let es ← attempt (starNamedList call)
    pure (e :: es.getD [])
  mark ")"
  pure (.tuple (items.getD []))

/-- Stars in parentheses without a comma. -/
def badGroup : Parser Unit := choose [
  do
    mark "("
    let _ ← starred call
    mark ")"
    complain "cannot use starred expression here",
  do
    mark "("
    mark "**"
    let _ ← call .expression
    mark ")"
    complain "cannot use double starred expression here"]

/-- An expression in parentheses. -/
def group : Parser Expression := choose [
  do
    mark "("
    let e ← choose [yieldExpression call, namedExpression call]
    mark ")"
    pure e,
  suspect (badGroup call)]

/-- A key with its value. -/
def pair : Parser (Option Expression × Expression) := do
  let k ← call .expression
  mark ":"
  let v ← call .expression
  pure (some k, v)

/-- An entry of a mapping. -/
def entry : Parser (Option Expression × Expression) := choose [
  do
    mark "**"
    pure (none, ← call .either),
  pair call]

/-- A value with a star, or one that is missing. -/
def badValue : Parser Unit := choose [
  do
    let _ ← call .expression
    mark ":"
    mark "*"
    let _ ← call .either
    complain "cannot use a starred expression in a dictionary value",
  do
    let _ ← call .expression
    mark ":"
    ahead (choose [mark "\x7d", comma])
    complain "expression expected after dictionary key and ':'"]

/-- An entry that is none after others. -/
def badPair : Parser Unit := choose [
  do
    let _ ← call .expression
    absent (mark ":")
    complain "':' expected after dictionary key",
  badValue call]

/-- Entries with a bad one among them. -/
def badEntries : Parser Unit := choose [
  do
    let _ ← separated (entry call) comma
    comma
    badPair call
    failure,
  badValue call]

/-- A mapping. Bad entries are looked for in every reading. -/
def dict : Parser Expression := choose [
  do
    mark "\x7b"
    let entries ← attempt do
      let es ← separated (entry call) comma
      perhaps comma
      pure es
    mark "\x7d"
    pure (.dict (entries.getD [])),
  do
    mark "\x7b"
    badEntries call
    failure]

/-- A set. -/
def set : Parser Expression := do
  mark "\x7b"
  let es ← starNamedList call
  mark "\x7d"
  pure (.set es)

/-- A mapping put together by loops. -/
def dictComprehension : Parser Expression := choose [
  do
    mark "\x7b"
    let _ ← pair call
    loops call
    mark "\x7d"
    pure .dictComprehension,
  suspect do
    mark "\x7b"
    mark "**"
    let _ ← call .either
    loops call
    mark "\x7d"
    complain "dict unpacking cannot be used in dict comprehension"]

/-- A set put together by loops. -/
def setComprehension : Parser Expression := choose [
  do
    mark "\x7b"
    let _ ← namedExpression call
    loops call
    mark "\x7d"
    pure .setComprehension,
  suspect (badComprehension call)]

/-! ## Atoms and what follows them -/

/-- A number. -/
def numberConstant : Parser Expression := do
  match Number.ofNumeral (← number) with
  | .ok n => pure (.constant (.number n))
  | .error words => complain words

/-- An expression that nothing has to follow. -/
def atom : Parser Expression := choose [
  do pure (.name (← name)),
  do
    keyword "True"
    pure (.constant .truth),
  do
    keyword "False"
    pure (.constant .falsity),
  do
    keyword "None"
    pure (.constant .nothing),
  do
    ahead string
    call .strings,
  numberConstant,
  do
    ahead (mark "(")
    choose [tuple call, group call, generator call],
  do
    ahead (mark "\x7b")
    choose [dict call, set call, dictComprehension call, setComprehension call],
  do
    mark "..."
    pure (.constant .ellipsis)]

/-- A call by the arguments in parentheses. -/
def callOf (f : Expression) : Parser Expression := do
  mark "("
  let found ← attempt (call .arguments)
  mark ")"
  match found with
  | some (.call _ positional named) => pure (.call (some f) positional named)
  | _ => pure (.call (some f) [] [])

/-- What follows an atom. -/
def trailer (e : Expression) : Parser Expression := choose [
  do
    mark "."
    let _ ← name
    pure .member,
  do pure (.call (some e) [← generator call] []),
  callOf call e]

/-- An atom with what follows it. -/
def primary : Parser Expression := chain (atom call) (trailer call)

/-! ## Operators -/

/-- An operator between two parts. -/
def infixed (points : String) (right : Rule) (left : Expression) : Parser Expression := do
  mark points
  pure (.binary (Text.ofString points) left (← call right))

/-- A chain of operators of one rank. -/
def ranked (marks : List String) (part : Rule) : Parser Expression :=
  chain (call part) fun e => choose (marks.map fun m => infixed call m part e)

/-- What is awaited. -/
def awaited : Parser Expression := choose [
  do
    keyword "await"
    let _ ← call .primary
    pure .await,
  call .primary]

/-- A sign in front, or a power. -/
def factor : Parser Expression :=
  let signed (points : String) : Parser Expression := do
    mark points
    pure (.prefixed (Text.ofString points) (← call .factor))
  choose [
    signed "+",
    signed "-",
    signed "~",
    do
      let e ← call .awaited
      mark "**"
      pure (.binary (Text.ofString "**") e (← call .factor)),
    call .awaited]

/-- One comparison after an expression: its operator. -/
def compared : Parser String :=
  let byMark (points : String) : Parser String := do
    mark points
    let _ ← call .either
    pure points
  let byWords (words : List String) : Parser String := do
    for w in words do keyword w
    let _ ← call .either
    pure (" ".intercalate words)
  choose [
    byMark "==", byMark "!=", byMark "<=", byMark "<", byMark ">=", byMark ">",
    byWords ["not", "in"], byWords ["in"], byWords ["is", "not"], byWords ["is"]]

/-- Comparisons in a row. -/
def comparison : Parser Expression := choose [
  do
    let e ← call .either
    let operators ← many1 (compared call)
    pure (.comparison (Text.ofString (operators.headD "")) e),
  call .either]

/-- A negation. -/
def inversion : Parser Expression := choose [
  do
    keyword "not"
    let e ← call .inversion
    pure (.prefixed (Text.ofString "not") e),
  comparison call]

/-- Parts with a word between them. -/
def joined (word : String) (part : Rule) : Parser Expression := choose [
  do
    let _ ← call part
    let _ ← many1 do
      keyword word
      call part
    pure .boolean,
  call part]

/-! ## Functions without a name -/

/-- A default value, which has to be there. -/
def default : Parser Unit := choose [
  do
    mark "="
    let _ ← call .expression,
  suspect do
    mark "="
    ahead (choose [mark ")", comma])
    complain "expected default value expression"]

/-- What follows a parameter: a comma, or the colon after them all. -/
def parameterEnd : Parser Unit := choose [comma, ahead (mark ":")]

/-- The name of a parameter. -/
def parameterName : Parser Unit := do
  let _ ← name

/-- A parameter without a default. -/
def bare : Parser Unit := do
  parameterName
  parameterEnd

/-- A parameter with a default. -/
def defaulted : Parser Unit := do
  parameterName
  default call
  parameterEnd

/-- A parameter of either kind. -/
def parameter : Parser Unit := do
  parameterName
  perhaps (default call)
  parameterEnd

/-- Parameters before a slash, none of which has a default. -/
def bareSlash : Parser Unit := do
  let _ ← many1 bare
  mark "/"
  parameterEnd

/-- Parameters before a slash, some of which have a default. -/
def defaultedSlash : Parser Unit := do
  let _ ← many bare
  let _ ← many1 (defaulted call)
  mark "/"
  parameterEnd

/-- Parameters before a slash. -/
def slash : Parser Unit := choose [bareSlash, defaultedSlash call]

/-- Mistakes after the parameter that collects the names. -/
def badNames : Parser Unit := choose [
  do
    mark "**"
    parameterName
    mark "="
    complain "var-keyword argument cannot have default value",
  do
    mark "**"
    parameterName
    comma
    parameterName
    complain "arguments cannot follow var-keyword argument",
  do
    mark "**"
    parameterName
    comma
    choose [mark "*", mark "**", mark "/"]
    complain "arguments cannot follow var-keyword argument"]

/-- The parameter that collects the names. -/
def names : Parser Unit := choose [
  suspect badNames,
  do
    mark "**"
    bare]

/-- Mistakes with a star among the parameters. -/
def badStar : Parser Unit := choose [
  do
    mark "*"
    choose [
      mark ":",
      do
        comma
        choose [mark ":", mark "**"]]
    complain "named arguments must follow bare *",
  do
    mark "*"
    parameterName
    mark "="
    complain "var-positional argument cannot have default value",
  do
    mark "*"
    choose [bare, comma]
    let _ ← many (parameter call)
    mark "*"
    choose [bare, comma]
    complain "* argument may appear only once"]

/-- A star among the parameters and what follows it. -/
def star : Parser Unit := choose [
  suspect (badStar call),
  do
    mark "*"
    bare
    let _ ← many (parameter call)
    perhaps names,
  do
    mark "*"
    comma
    let _ ← many1 (parameter call)
    perhaps names,
  names]

/-- Mistakes with the order of parameters. -/
def badParameters : Parser Unit := choose [
  do
    let _ ← many bare
    choose [
      defaultedSlash call,
      do
        let _ ← many1 (defaulted call)]
    bare
    complain "non-default argument follows default argument",
  do
    let _ ← many bare
    mark "("
    let _ ← separated parameterName comma
    perhaps comma
    mark ")"
    complain "Lambda expression parameters cannot be parenthesized",
  do
    mark "/"
    comma
    complain "at least one argument must precede /",
  do
    slash call
    let _ ← many (parameter call)
    mark "/"
    complain "/ may appear only once",
  do
    perhaps (slash call)
    let _ ← many (parameter call)
    mark "*"
    choose [comma, bare]
    let _ ← many (parameter call)
    mark "/"
    complain "/ must be ahead of *",
  do
    let _ ← many1 (parameter call)
    mark "/"
    mark "*"
    complain "expected comma between / and *"]

/-- The parameters of a function. -/
def parameters : Parser Unit := choose [
  suspect (badParameters call),
  do
    bareSlash
    let _ ← many bare
    let _ ← many (defaulted call)
    perhaps (star call),
  do
    defaultedSlash call
    let _ ← many (defaulted call)
    perhaps (star call),
  do
    let _ ← many1 bare
    let _ ← many (defaulted call)
    perhaps (star call),
  do
    let _ ← many1 (defaulted call)
    perhaps (star call),
  star call]

/-- A function without a name. -/
def lambda : Parser Expression := do
  keyword "lambda"
  perhaps (parameters call)
  mark ":"
  let _ ← call .expression
  pure .lambda

/-! ## Expressions -/

/-- A choice by a condition. -/
def conditional : Parser Expression := do
  let _ ← call .disjunction
  keyword "if"
  let _ ← call .disjunction
  keyword "else"
  let _ ← call .expression
  pure .conditional

/-- An expression that is read without suspicion. -/
def trusted : Parser Expression :=
  trusting (choose [conditional call, call .disjunction, lambda call])

/-- Two expressions in a row, or a condition without an alternative. Outside of
brackets the first is not complained about. -/
def badExpression : Parser Unit := choose [
  do
    absent (choose [
      do
        let _ ← name
        let _ ← string,
      softKeyword])
    let e ← call .disjunction
    let _ ← trusted call
    if e.isLegacy || (← depthBefore) = 0 then pure ()
    else complain "invalid syntax. Perhaps you forgot a comma?",
  do
    let _ ← call .disjunction
    keyword "if"
    let _ ← call .disjunction
    absent (choose [keyword "else", mark ":"])
    complain "expected 'else' after 'if' expression"]

/-- An old statement, which had no parentheses. -/
def badStatement : Parser Unit := do
  let word ← name
  absent (mark "(")
  let _ ← commaExpressions (call .starExpression)
  if (Expression.name word).isLegacy then
    complain (Text.ofString "Missing parentheses in call to '" ++ word ++
      Text.ofString "'. Did you mean " ++ word ++ Text.ofString "(...)?")

/-- An expression. -/
def expression : Parser Expression := choose [
  suspect (badExpression call),
  suspect (badStatement call),
  conditional call,
  call .disjunction,
  lambda call]

/-- An expression, or a starred one. -/
def starExpression : Parser Expression := choose [
  do
    mark "*"
    pure (.starred (← call .either)),
  call .expression]

/-- Mistakes with names that are given on the way. -/
def badNaming : Parser Unit :=
  let noFurther : Parser Unit := absent (choose [mark "=", mark ":="])
  choose [
    do
      let e ← call .expression
      mark ":="
      let _ ← call .expression
      complainOf "cannot use assignment expressions with " e "",
    do
      let _ ← name
      mark "="
      let _ ← call .either
      noFurther
      complain "invalid syntax. Maybe you meant '==' or ':=' instead of '='?",
    do
      absent (choose [
        do let _ ← tuple call,
        do let _ ← generator call,
        keyword "True",
        keyword "None",
        keyword "False"])
      let e ← call .either
      mark "="
      let _ ← call .either
      noFurther
      complainOf "cannot assign to " e " here. Maybe you meant '==' instead of '='?"]

/-! ## Arguments -/

/-- An argument that is no expression with a name: the constants, and what is
not a name. -/
def badNamed : Parser Unit := choose [
  do
    let word ← choose (["True", "False", "None"].map fun w => do
      keyword w
      pure w)
    mark "="
    complain (Text.ofString ("cannot assign to " ++ word)),
  do
    let _ ← name
    mark "="
    let _ ← call .expression
    loops call
    complain "invalid syntax. Maybe you meant '==' or ':=' instead of '='?",
  do
    absent do
      let _ ← name
      mark "="
    let _ ← call .expression
    mark "="
    complain "expression cannot contain assignment, perhaps you meant \"==\"?"]

/-- An argument with its name. -/
def namedArgument : Parser Bool := do
  let _ ← name
  mark "="
  let _ ← call .expression
  pure true

/-- An argument with its name, or a starred one: the starred ones are given,
and of the others that they have a name. -/
def namedOrStarred : Parser (Expression ⊕ Bool) := choose [
  suspect (badNamed call),
  do pure (.inr (← namedArgument call)),
  do pure (.inl (← starred call))]

/-- An argument with its name, or a mapping of such. -/
def namedOrMapping : Parser (Expression ⊕ Bool) := choose [
  suspect (badNamed call),
  do pure (.inr (← namedArgument call)),
  do
    mark "**"
    let _ ← call .expression
    pure (.inr false)]

/-- The arguments from the first with a name on. -/
def namedArguments : Parser (List (Expression ⊕ Bool)) := choose [
  do
    let starred ← separated (namedOrStarred call) comma
    comma
    let others ← separated (namedOrMapping call) comma
    pure (starred ++ others),
  separated (namedOrStarred call) comma,
  separated (namedOrMapping call) comma]

/-- Arguments put together. -/
def argumentsOf (first : List Expression) (others : List (Expression ⊕ Bool)) : Expression :=
  .call none
    (first ++ others.filterMap fun a => match a with | .inl e => some e | .inr _ => none)
    (others.filterMap fun a => match a with | .inl _ => none | .inr n => some n)

/-- Arguments by position. -/
def positionalArguments : Parser (List Expression) :=
  separated
    (do
      let e ← choose [starred call, argumentExpression call]
      absent (mark "=")
      pure e)
    comma

/-- The arguments of a call. -/
def argumentList : Parser Expression := choose [
  do
    let first ← positionalArguments call
    let others ← attempt do
      comma
      namedArguments call
    pure (argumentsOf first (others.getD [])),
  do pure (argumentsOf [] (← namedArguments call))]

/-- Mistakes with arguments. -/
def badArguments : Parser Unit :=
  let parenthesize : Text := "Generator expression must be parenthesized"
  choose [
    do
      choose [
        do
          let _ ← positionalArguments call
          comma
          let _ ← namedArguments call,
        do let _ ← namedArguments call]
      comma
      let _ ← separated
        (do
          let _ ← starred call
          absent (mark "="))
        comma
      complain "iterable argument unpacking follows keyword argument unpacking",
    do
      let _ ← call .expression
      loops call
      comma
      perhaps (choose [
        do let _ ← argumentList call,
        do
          let _ ← call .expression
          loops call])
      complain parenthesize,
    do
      let _ ← name
      mark "="
      let _ ← call .expression
      loops call
      complain "invalid syntax. Maybe you meant '==' or ':=' instead of '='?",
    do
      let e ← argumentList call
      loops call
      match e with
      | .call _ (_ :: _ :: _) _ => complain parenthesize
      | _ => pure (),
    do
      let _ ← argumentList call
      comma
      let _ ← call .expression
      loops call
      complain parenthesize,
    do
      let e ← argumentList call
      comma
      let _ ← argumentList call
      match e with
      | .call _ _ named =>
        if named.contains false then
          complain "positional argument follows keyword argument unpacking"
        else complain "positional argument follows keyword argument"
      | _ => pure ()]

/-- The arguments of a call up to its parenthesis. -/
def arguments : Parser Expression := choose [
  do
    let e ← argumentList call
    perhaps comma
    ahead (mark ")")
    pure e,
  suspect (badArguments call)]

/-! ## Targets -/

/-- What follows the stem of a target. -/
def stemGoesOn : Parser Unit := ahead (choose [mark "(", mark "."])

/-- The stem of a target: what its last part belongs to. -/
def targetStem : Parser Expression :=
  let goingOn (p : Parser Expression) : Parser Expression := do
    let e ← p
    stemGoesOn
    pure e
  chain (goingOn (atom call)) fun e => choose [
    goingOn do
      mark "."
      let _ ← name
      pure .member,
    goingOn do pure (.call (some e) [← generator call] []),
    goingOn (callOf call e)]

/-- A target without a star in front. -/
def innerTarget : Parser Expression := choose [
  do
    let _ ← call .targetStem
    mark "."
    let _ ← name
    absent stemGoesOn
    pure .member,
  do pure (.name (← name)),
  do
    mark "("
    let e ← call .innerTarget
    mark ")"
    pure e,
  do
    mark "("
    perhaps (choose [
      do
        let _ ← call .target
        let _ ← many1 do
          comma
          call .target
        perhaps comma,
      do
        let _ ← call .target
        comma])
    mark ")"
    pure (.tuple [])]

/-- A target. -/
def target : Parser Expression := choose [
  do
    mark "*"
    absent (mark "*")
    pure (.starred (← call .target)),
  call .innerTarget]

/-! ## All rules -/

/-- **What a rule reads**, by the others and by a way to read the expressions in
strings. -/
def body (inner : Nat → Text → Except Text Unit) : Rule → Parser Expression
  | .expression => expression call
  | .starExpression => starExpression call
  | .disjunction => joined call "or" .conjunction
  | .conjunction => joined call "and" .inversion
  | .inversion => inversion call
  | .either => ranked call ["|"] .exclusive
  | .exclusive => ranked call ["^"] .both
  | .both => ranked call ["&"] .shift
  | .shift => ranked call ["<<", ">>"] .sum
  | .sum => ranked call ["+", "-"] .term
  | .term => ranked call ["*", "/", "//", "%", "@"] .factor
  | .factor => factor call
  | .awaited => awaited call
  | .primary => primary call
  | .strings => do
    let written ← many1 string
    let s ← get
    match joinStrings s.lead inner written with
    | .ok e => pure e
    | .error words => throwThe Text (s.complaint words)
  | .arguments => arguments call
  | .target => target call
  | .innerTarget => innerTarget call
  | .targetStem => targetStem call
  | .badNaming => suspect (badNaming call)

/-- Reads by a rule, with so many rules in each other at most. -/
def read (inner : Nat → Text → Except Text Unit) : Nat → Rule → Parser Expression
  | 0, _ => failure
  | n + 1, rule => remembered rule (body (read inner n) inner rule)

/-- A whole text: expressions, and line ends after them. -/
def whole (call : Rule → Parser Expression) : Parser Expression := do
  let e ← commaExpressions (call .expression)
  let _ ← many (plain .lineEnd)
  plain .finish
  pure e

/-- The expressions in a string. -/
def held (call : Rule → Parser Expression) : Parser Expression :=
  commaExpressions (call .starExpression)

end SynthDesk.Literal.Grammar
