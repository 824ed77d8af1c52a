/-
One spelling for every style.

A style is written as words: attributes, perhaps with "not" before them, a
colour, a background after "on", an address after "link". Two spellings of the
same style have the same normal form, which lists the attributes in a fixed
order, then colour, background and address. What is no style is its own
normal form, trimmed and in lower case.
-/
import SynthDesk.Console.Colour
import SynthDesk.Text.Blank
import SynthDesk.Keyed

set_option autoImplicit false

namespace SynthDesk.StyleName

/-! ## Attributes -/

/-- The attributes in the order of the normal form. -/
def attributes : List Text := [
  "bold", "dim", "italic", "underline", "blink", "blink2", "reverse", "conceal", "strike",
  "underline2", "frame", "encircle", "overline"]

/-- The short names of attributes. -/
def shortNames : Keyed Text := [
  ("b", "bold"), ("d", "dim"), ("i", "italic"), ("u", "underline"), ("r", "reverse"),
  ("c", "conceal"), ("s", "strike"), ("uu", "underline2"), ("o", "overline")]

/-- The attribute that a word names. -/
def attribute? (w : Text) : Option Text :=
  if attributes.contains w then some w else shortNames.get? w

/-! ## Styles -/

/-- What the words of a style say. -/
structure Style where
  switches : Keyed Bool
  colour : Option Text
  background : Option Text
  link : Option Text
deriving DecidableEq, Repr

/-- The style that says nothing. -/
def plain : Style := ⟨[], none, none, none⟩

/-- The words of a text: what stands between blanks. -/
def words (t : Text) : List Text :=
  let rec go : Text → Text → List Text
    | [], [] => []
    | current, [] => [current.reverse]
    | [], c :: r => if c.isBlank then go [] r else go [c] r
    | d :: current, c :: r =>
      if c.isBlank then (d :: current).reverse :: go [] r else go (c :: d :: current) r
  go [] t

/-- The style that words add to a style, if they are words of a style. -/
def read : Style → List Text → Except Colour.ComponentError (Option Style)
  | s, [] => .ok (some s)
  | s, w :: r =>
    let l := w.lower
    if l = Text.ofString "on" then
      match r with
      | [] => .ok none
      | c :: r' => match Colour.isName c with
        | .error e => .error e
        | .ok true => read { s with background := some c.lower } r'
        | .ok false => .ok none
    else if l = Text.ofString "not" then
      match r with
      | [] => .ok none
      | a :: r' => match attribute? a with
        | some a => read { s with switches := s.switches.put a false } r'
        | none => .ok none
    else if l = Text.ofString "link" then
      match r with
      | [] => .ok none
      | u :: r' => read { s with link := some u } r'
    else match attribute? l with
      | some a => read { s with switches := s.switches.put a true } r
      | none => match Colour.isName l with
        | .error e => .error e
        | .ok true => read { s with colour := some l } r
        | .ok false => .ok none

/-- The words of the normal form. -/
def Style.normalWords (s : Style) : List Text :=
  (attributes.filterMap fun a => match s.switches.get? a with
    | some true => some a
    | some false => some (Text.ofString "not " ++ a)
    | none => none) ++
  s.colour.toList ++
  (match s.background with
    | some c => [Text.ofString "on", c]
    | none => []) ++
  (match s.link with
    | some u => [Text.ofString "link", u]
    | none => [])

/-- The text says no style at all. -/
def isPlain (t : Text) : Bool := t.isBlank || t.strip = Text.ofString "none"

/-- The fault in looking up a style, if there is one. -/
def fault? (t : Text) : Option Colour.ComponentError :=
  if isPlain t then none
  else match read plain (words t) with
    | .error e => some e
    | .ok _ => none

/-- **The normal form**, unless looking up the style is a fault. -/
def normalize (t : Text) : Except Colour.ComponentError Text :=
  if isPlain t then .ok "none"
  else match read plain (words t) with
    | .error e => .error e
    | .ok (some s) => .ok (Text.join [' '] s.normalWords)
    | .ok none => .ok t.strip.lower

example : (normalize "i b").toOption = some (Text.ofString "bold italic") := by decide +kernel

end SynthDesk.StyleName
