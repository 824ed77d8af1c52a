/-
How a colour can be named.

By one of the names of the terminal palette, by six hexadecimal digits, by a
palette number, or by three components. Letters count in either case, and the
components may be written in the digits of any script. A component that is no
number at all is a fault of its own: it is reported, and not taken for a name
that means nothing.
-/
import SynthDesk.Text.Case
import SynthDesk.Text.Digit
import SynthDesk.Text.Numeral
import SynthDesk.Text.Split

set_option autoImplicit false

namespace SynthDesk.Colour

/-- The names of the palette. -/
def paletteNames : List String := [
  "black", "red", "green", "yellow", "blue", "magenta", "cyan", "white", "bright_black",
  "bright_red", "bright_green", "bright_yellow", "bright_blue", "bright_magenta",
  "bright_cyan", "bright_white", "grey0", "gray0", "navy_blue", "dark_blue", "blue3", "blue1",
  "dark_green", "deep_sky_blue4", "dodger_blue3", "dodger_blue2", "green4", "spring_green4",
  "turquoise4", "deep_sky_blue3", "dodger_blue1", "green3", "spring_green3", "dark_cyan",
  "light_sea_green", "deep_sky_blue2", "deep_sky_blue1", "spring_green2", "cyan3",
  "dark_turquoise", "turquoise2", "green1", "spring_green1", "medium_spring_green", "cyan2",
  "cyan1", "dark_red", "deep_pink4", "purple4", "purple3", "blue_violet", "orange4", "grey37",
  "gray37", "medium_purple4", "slate_blue3", "royal_blue1", "chartreuse4", "dark_sea_green4",
  "pale_turquoise4", "steel_blue", "steel_blue3", "cornflower_blue", "chartreuse3",
  "cadet_blue", "sky_blue3", "steel_blue1", "pale_green3", "sea_green3", "aquamarine3",
  "medium_turquoise", "chartreuse2", "sea_green2", "sea_green1", "aquamarine1",
  "dark_slate_gray2", "dark_magenta", "dark_violet", "purple", "light_pink4", "plum4",
  "medium_purple3", "slate_blue1", "yellow4", "wheat4", "grey53", "gray53", "light_slate_grey",
  "light_slate_gray", "medium_purple", "light_slate_blue", "dark_olive_green3",
  "dark_sea_green", "light_sky_blue3", "sky_blue2", "dark_sea_green3", "dark_slate_gray3",
  "sky_blue1", "chartreuse1", "light_green", "pale_green1", "dark_slate_gray1", "red3",
  "medium_violet_red", "magenta3", "dark_orange3", "indian_red", "hot_pink3", "medium_orchid3",
  "medium_orchid", "medium_purple2", "dark_goldenrod", "light_salmon3", "rosy_brown", "grey63",
  "gray63", "medium_purple1", "gold3", "dark_khaki", "navajo_white3", "grey69", "gray69",
  "light_steel_blue3", "light_steel_blue", "yellow3", "dark_sea_green2", "light_cyan3",
  "light_sky_blue1", "green_yellow", "dark_olive_green2", "dark_sea_green1", "pale_turquoise1",
  "deep_pink3", "magenta2", "hot_pink2", "orchid", "medium_orchid1", "orange3", "light_pink3",
  "pink3", "plum3", "violet", "light_goldenrod3", "tan", "misty_rose3", "thistle3", "plum2",
  "khaki3", "light_goldenrod2", "light_yellow3", "grey84", "gray84", "light_steel_blue1",
  "yellow2", "dark_olive_green1", "honeydew2", "light_cyan1", "red1", "deep_pink2",
  "deep_pink1", "magenta1", "orange_red1", "indian_red1", "hot_pink", "dark_orange", "salmon1",
  "light_coral", "pale_violet_red1", "orchid2", "orchid1", "orange1", "sandy_brown",
  "light_salmon1", "light_pink1", "pink1", "plum1", "gold1", "navajo_white1", "misty_rose1",
  "thistle1", "yellow1", "light_goldenrod1", "khaki1", "wheat1", "cornsilk1", "grey100",
  "gray100", "grey3", "gray3", "grey7", "gray7", "grey11", "gray11", "grey15", "gray15",
  "grey19", "gray19", "grey23", "gray23", "grey27", "gray27", "grey30", "gray30", "grey35",
  "gray35", "grey39", "gray39", "grey42", "gray42", "grey46", "gray46", "grey50", "gray50",
  "grey54", "gray54", "grey58", "gray58", "grey62", "gray62", "grey66", "gray66", "grey70",
  "gray70", "grey74", "gray74", "grey78", "gray78", "grey82", "gray82", "grey85", "gray85",
  "grey89", "gray89", "grey93", "gray93"]

/-! ## Components -/

/-- Why a component is no number. -/
inductive ComponentError
  /-- There is nothing between two commas. -/
  | empty
  /-- The component has more digits than a number may have in print. -/
  | tooManyDigits (digits : Nat)
deriving DecidableEq, Repr

/-- How the refusal reads. -/
def ComponentError.message : ComponentError → Text
  | empty => "invalid literal for int() with base 10: ''"
  | tooManyDigits n =>
    Text.ofString "Exceeds the limit (4300 digits) for integer string conversion: value has " ++
      Text.ofNat n ++
      Text.ofString " digits; use sys.set_int_max_str_digits() to increase the limit"

/-- The most digits that a component may have. -/
def digitLimit : Nat := 4300

/-- The number that a component writes, in digits of any script. -/
def component (t : Text) : Except ComponentError Nat :=
  if t.isEmpty then .error .empty
  else if digitLimit < t.length then .error (.tooManyDigits t.length)
  else .ok t.natOfDecimals

/-- Three components are a colour if none of them exceeds 255. They are read in
order, and the first one that is no number is reported. -/
def componentsName (parts : List Text) : Except ComponentError Bool :=
  match parts with
  | [r, g, b] => do
    let red ← component r
    let green ← component g
    let blue ← component b
    return red ≤ 255 && green ≤ 255 && blue ≤ 255
  | _ => .ok false

example : (componentsName ["0", "0", "256"]).toOption = some false := by decide +kernel
example : (componentsName ["0", "", "0"]).toOption = none := by decide +kernel

/-! ## Names -/

/-- What stands between an opening text and a closing parenthesis. -/
def argument? (opening t : Text) : Option Text :=
  match Text.after? opening t with
  | none => none
  | some r => match r.reverse with
    | [] => none
    | c :: inner => if c = ')' then some inner.reverse else none

/-- A digit or small letter of a hexadecimal numeral. -/
def isHexDigit (c : CodePoint) : Bool := c.isDigit || (97 ≤ c.val && c.val ≤ 102)

/-- A palette number: up to three digits that write no more than 255. -/
def isPaletteNumber (t : Text) : Bool :=
  !t.isEmpty && t.length ≤ 3 && t.all CodePoint.isDigit && Text.natOfDigits t ≤ 255

/-- The components between the parentheses, cut at commas. -/
def components? (t : Text) : Option (List Text) :=
  match argument? "rgb(" t with
  | none => none
  | some r =>
    if !r.isEmpty && r.all (fun c => c.isDecimal || c = ',') then
      some (Text.splitOn (CodePoint.ofChar ',') r)
    else none

/-- **The text names a colour**, unless a component makes it impossible to
tell. -/
def isName (t : Text) : Except ComponentError Bool :=
  let t := t.lower
  if t = Text.ofString "default" || paletteNames.any (fun n => Text.ofString n = t) then .ok true
  else match Text.after? "#" t with
    | some r => .ok (r.length = 6 && r.all isHexDigit)
    | none => match argument? "color(" t with
      | some n => .ok (isPaletteNumber n)
      | none => match components? t with
        | some parts => componentsName parts
        | none => .ok false

example : (isName "rgb(0,0,255)").toOption = some true := by decide +kernel

end SynthDesk.Colour
