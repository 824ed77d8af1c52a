/-
Escapes in strings.

A string is read for its faults only, since nothing but its kind matters
afterwards. The place of a fault is counted in the text as the decoder sees it:
there a code point outside of ASCII has become an escape of ten code points,
and a backslash before it one of six.
-/
import SynthDesk.Literal.Numeral

set_option autoImplicit false

namespace SynthDesk.Literal.Escape

/-- The text as the decoder of escapes sees it. -/
def prepared : Text → Text
  | [] => []
  | c :: r =>
    if c = '\\' then
      match r with
      | [] => Text.ofString "\\u005c"
      | d :: r =>
        if 128 ≤ d.val then
          Text.ofString "\\u005c\\U" ++ Text.hex 8 d.val ++ prepared r
        else c :: d :: prepared r
    else if 128 ≤ c.val then Text.ofString "\\U" ++ Text.hex 8 c.val ++ prepared r
    else c :: prepared r

/-- What is wrong with an escape: how many code points of it were read, and the
reason. -/
structure Flaw where
  read : Nat
  reason : String

/-- Hexadecimal digits at the start of a text, at most so many. -/
def hexDigitsAt (most : Nat) (t : Text) : Text :=
  (t.take most).takeWhile fun c => (Text.hexValue? c).isSome

/-- The greatest code point. -/
def lastPoint : Nat := 0x10FFFF

/-- An escape of a fixed number of hexadecimal digits. -/
def hexEscape (count : Nat) (letter : String) (t : Text) : Except Flaw Nat :=
  let digits := hexDigitsAt count t
  if digits.length < count then
    .error ⟨2 + digits.length, "truncated \\" ++ letter ++ " escape"⟩
  else if lastPoint < Number.valueIn 16 digits then
    .error ⟨2 + count, "illegal Unicode character"⟩
  else .ok count

/-- A capital letter of the ASCII range. -/
def isCapital (c : CodePoint) : Bool := 65 ≤ c.val && c.val ≤ 90

/-- A code point that can stand in the name of another one. -/
def isNameOfPoint (c : CodePoint) : Bool := c.isDigit || c = ' ' || c = '-' || isCapital c

/-- An escape by name. There is no table of names: one in capital letters is
taken for granted. -/
def nameEscape (t : Text) : Except Flaw Nat :=
  match t with
  | [] => .error ⟨2, "malformed \\N character escape"⟩
  | c :: r =>
    if c = '\x7b' then
      let name := r.takeWhile fun d => d ≠ CodePoint.ofChar '\x7d'
      if name.length = r.length then .error ⟨3 + name.length, "malformed \\N character escape"⟩
      else if name.isEmpty then .error ⟨3, "malformed \\N character escape"⟩
      else if name.all isNameOfPoint && name.any isCapital then .ok (name.length + 2)
      else .error ⟨4 + name.length, "unknown Unicode character name"⟩
    else .error ⟨2, "malformed \\N character escape"⟩

/-- An escape after its backslash: how many code points after its letter belong
to it. -/
def escape (letter : CodePoint) (t : Text) : Except Flaw Nat :=
  if letter = 'x' then hexEscape 2 "xXX" t
  else if letter = 'u' then hexEscape 4 "uXXXX" t
  else if letter = 'U' then hexEscape 8 "UXXXXXXXX" t
  else if letter = 'N' then nameEscape t
  else .ok 0

/-- How a flaw at a place reads. -/
def Flaw.words (f : Flaw) (place : Nat) : Text :=
  Text.ofString "(unicode error) 'unicodeescape' codec can't decode bytes in position " ++
    Text.ofNat place ++ Text.ofString "-" ++ Text.ofNat (place + f.read - 1) ++
    Text.ofString ": " ++ Text.ofString f.reason

/-- The first flaw of a prepared text from a place on; `skip` code points belong
to an escape that has been read. -/
def flawFrom (place skip : Nat) : Text → Option Text
  | [] => none
  | c :: r =>
    match skip with
    | s + 1 => flawFrom (place + 1) s r
    | 0 =>
      if c = '\\' then
        match r with
        | [] => none
        | letter :: after =>
          match escape letter after with
          | .error f => some (f.words place)
          | .ok n => flawFrom (place + 1) (n + 1) r
      else flawFrom (place + 1) 0 r

/-- **What is wrong with the inside of a string.** -/
def flaw? (t : Text) : Option Text := flawFrom 0 0 (prepared t)

/-- The first flaw in octets from a place on. -/
def octetFlawFrom (place skip : Nat) : Text → Option Text
  | [] => none
  | c :: r =>
    match skip with
    | s + 1 => octetFlawFrom (place + 1) s r
    | 0 =>
      if c = '\\' then
        match r with
        | [] => none
        | letter :: after =>
          if letter = 'x' && (hexDigitsAt 2 after).length < 2 then
            some (Text.ofString "(value error) invalid \\x escape at position " ++ Text.ofNat place)
          else octetFlawFrom (place + 1) 1 r
      else octetFlawFrom (place + 1) 0 r

/-- **What is wrong with the inside of a string of octets.** -/
def octetFlaw? (t : Text) : Option Text := octetFlawFrom 0 0 t

/-- A text without escapes has no flaw, whatever else it holds. -/
example : flaw? (Text.ofString "a\\n") = none := by decide +kernel

example : (flaw? (Text.ofString "\\x4")).isSome := by decide +kernel

end SynthDesk.Literal.Escape
