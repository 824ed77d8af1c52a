/-
From options to the engine's arguments.

An order of flags says which parameters are passed on, and in which order:
each requested one becomes a dash with the flag's name, and the text as it is.
Commands from the command line pass all seven, an interview the four that it
asks for. An order can also be given by names, and is refused when a name is
no flag's; whoever goes through such names one by one looks each of them up,
and a look-up can fail.
-/
import SynthDesk.Options.Basic
import SynthDesk.Text.Quoted
import SynthDesk.Text.Split

set_option autoImplicit false

namespace SynthDesk

/-! ## Orders of flags -/

/-- The flags that are passed on, in order. -/
abbrev KeyOrder := List Flag

namespace KeyOrder

/-- For options from the command line: `DIRECT_KEY_ORDER`. -/
def direct : KeyOrder :=
  [.model, .tables, .diagram, .schemaOutput, .dataOutput, .syntheticGenerate, .mockApiKey]

/-- For answers of an interview, which never asks for the other three: `INTERACTIVE_KEY_ORDER`. -/
def interactive : KeyOrder := [.model, .tables, .dataOutput, .syntheticGenerate]

/-- A name put into an ascending list that holds every name once. -/
def insertName (t : Text) : List Text → List Text
  | [] => [t]
  | u :: r => if t = u then u :: r else if t.precedes u then t :: u :: r else u :: insertName t r

/-- The names that no flag has: each once, in ascending order. -/
def unknownNames (names : List Text) : List Text :=
  (names.filter fun t => (Flag.ofName? t).isNone).foldr insertName []

/-- Names that are no flags', ascending. -/
structure UnknownFlags where
  names : List Text
deriving DecidableEq, Repr

/-- How the refusal reads. -/
def UnknownFlags.message (e : UnknownFlags) : Text :=
  Text.ofString "Unknown engine flags: " ++ Text.join ", " e.names

/-- **The order that names give**, if all of them are flags': an `ArgumentBuilder`. -/
def ofNames (names : List Text) : Except UnknownFlags KeyOrder :=
  match unknownNames names with
  | [] => .ok (names.filterMap Flag.ofName?)
  | unknown => .error ⟨unknown⟩

end KeyOrder

/-! ## Arguments -/

namespace Options

/-- One parameter as two arguments. -/
def pair (f : Flag) (v : Text) : List Text := [CodePoint.ofChar '-' :: f.name, v]

/-- **The arguments** for the requested parameters of an order: `ArgumentBuilder.build`. -/
def arguments (o : Options) (order : KeyOrder) : List Text :=
  order.flatMap fun f => match o.requested f with
    | some v => pair f v
    | none => []

/-! ### By name -/

/-- A name under which there is nothing to look up. -/
structure NoSuchFlag where
  name : Text
deriving DecidableEq, Repr

/-- How the refusal reads: the name, in quotes. -/
def NoSuchFlag.message (e : NoSuchFlag) : Text := e.name.quoted

/-- The text under the name that the engine knows a parameter by: `InvocationOptions.get`. -/
def lookUp (o : Options) (name : Text) : Except NoSuchFlag (Option Text) :=
  match Flag.ofName? name with
  | some f => .ok (o.get f)
  | none => .error ⟨name⟩

/-- A name and the text found under it as two arguments, none where the text is
open or empty. -/
def namedPair (name : Text) : Option Text → List Text
  | some (c :: v) => [CodePoint.ofChar '-' :: name, c :: v]
  | _ => []

/-- The arguments for names, each looked up when its turn comes, as the loop of
`ArgumentBuilder.build` does it. -/
def namedArguments (o : Options) : List Text → Except NoSuchFlag (List Text)
  | [] => .ok []
  | name :: r => do
    let found ← o.lookUp name
    return namedPair name found ++ (← o.namedArguments r)

/-! ### In the two orders -/

/-- The arguments of a command: `build_direct_args`. -/
def directArguments (o : Options) : List Text := o.arguments KeyOrder.direct

/-- The arguments after an interview: `build_interactive_args`. -/
def interactiveArguments (o : Options) : List Text := o.arguments KeyOrder.interactive

end Options

end SynthDesk
