/-
Expressions of a literal.

More can be written than stands for a value, and what can be written is told
apart as far as complaints about it name it or a value may come of it.
-/
import SynthDesk.Literal.Numeral

set_option autoImplicit false

namespace SynthDesk.Literal

/-- A value that is written as one token. -/
inductive Constant
  | nothing
  | truth
  | falsity
  | ellipsis
  | number (n : Number)
  | string
  | octets
deriving DecidableEq, Repr

/-- An expression. -/
inductive Expression
  | name (word : Text)
  | constant (c : Constant)
  /-- A string with expressions in it. -/
  | template
  | tuple (items : List Expression)
  | set (items : List Expression)
  /-- Entries with their keys; one without a key is a whole mapping. -/
  | dict (entries : List (Option Expression × Expression))
  /-- A call, or the arguments of one alone: those by position, and for each of
  the others whether it has a name. -/
  | call (function : Option Expression) (positional : List Expression) (named : List Bool)
  /-- A part of something by its name. -/
  | member
  | prefixed (mark : Text) (operand : Expression)
  | binary (mark : Text) (left right : Expression)
  | boolean
  /-- A comparison by its first operator. -/
  | comparison (mark : Text) (left : Expression)
  | conditional
  | lambda
  | await
  | yield
  | yieldFrom
  | generator
  | setComprehension
  | dictComprehension
  | starred (operand : Expression)
  /-- An expression that is given a name. -/
  | named

namespace Constant

/-- How a constant is called in a complaint. -/
def description : Constant → String
  | nothing => "None"
  | truth => "True"
  | falsity => "False"
  | ellipsis => "ellipsis"
  | _ => "literal"

end Constant

namespace Expression

/-- How an expression is called in a complaint. -/
def description : Expression → String
  | name _ => "name"
  | constant c => c.description
  | template => "f-string expression"
  | tuple _ => "tuple"
  | set _ => "set display"
  | dict _ => "dict literal"
  | call .. => "function call"
  | member => "attribute"
  | prefixed .. | binary .. | boolean => "expression"
  | comparison .. => "comparison"
  | conditional => "conditional expression"
  | lambda => "lambda"
  | await => "await expression"
  | yield | yieldFrom => "yield expression"
  | generator => "generator expression"
  | setComprehension => "set comprehension"
  | dictComprehension => "dict comprehension"
  | starred _ => "starred"
  | named => "named expression"

/-- The kind of an expression that stands for no value. -/
def kind : Expression → String
  | name _ => "Name"
  | constant _ => "Constant"
  | template => "JoinedStr"
  | tuple _ => "Tuple"
  | set _ => "Set"
  | dict _ => "Dict"
  | call .. => "Call"
  | member => "Attribute"
  | prefixed .. => "UnaryOp"
  | binary .. => "BinOp"
  | boolean => "BoolOp"
  | comparison .. => "Compare"
  | conditional => "IfExp"
  | lambda => "Lambda"
  | await => "Await"
  | yield => "Yield"
  | yieldFrom => "YieldFrom"
  | generator => "GeneratorExp"
  | setComprehension => "SetComp"
  | dictComprehension => "DictComp"
  | starred _ => "Starred"
  | named => "NamedExpr"

/-- A name that used to begin a statement of its own. -/
def isLegacy : Expression → Bool
  | name word => word = Text.ofString "print" || word = Text.ofString "exec"
  | _ => false

mutual

/-- **The part of a loop's target that cannot be one**, if there is any. What
stands before `in` is read as the left side of a comparison. -/
def badTarget? : Expression → Option Expression
  | name _ => none
  | member => none
  | tuple items => badTargetIn? items
  | starred e => badTarget? e
  | comparison mark left => if mark = Text.ofString "in" then badTarget? left else none
  | e => some e

/-- The first such part in a list. -/
def badTargetIn? : List Expression → Option Expression
  | [] => none
  | e :: es =>
    match badTarget? e with
    | some b => some b
    | none => badTargetIn? es

end

end Expression

end SynthDesk.Literal
