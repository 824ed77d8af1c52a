/-
Status lines, and how text reaches the screen.

A status line says how something went: a glyph for its kind, a blank, and the
message; line ends before the message come before the glyph. On the way to the
screen five control characters are left out, and each tab is filled up with
blanks to the next tab stop.
-/
import SynthDesk.Text.Tabs

set_option autoImplicit false

namespace SynthDesk.Console

/-! ## On the way to the screen -/

/-- The controls that are never shown: bell, backspace, vertical tab, form
feed, carriage return. -/
def isHiddenControl (c : CodePoint) : Bool :=
  c.val = 7 || c.val = 8 || c.val = 11 || c.val = 12 || c.val = 13

/-- The text without those controls. -/
def visible (t : Text) : Text := t.filter fun c => !isHiddenControl c

/-- A text as the screen shows it. -/
def onScreen (t : Text) : Text := (visible t).expandTabs

/-! ## Status lines -/

/-- What a status line says. -/
inductive StatusKind
  | success
  | warning
  | error
  | info
deriving DecidableEq, Repr

/-- The mark of a kind. -/
def StatusKind.glyph : StatusKind → CodePoint
  | success => CodePoint.ofChar '✔'
  | warning => CodePoint.ofChar '⚠'
  | error => CodePoint.ofChar '✖'
  | info => CodePoint.ofChar 'ℹ'

/-- The style that a kind is shown in. -/
def StatusKind.style : StatusKind → Text
  | success => "bold green"
  | warning => "bold yellow"
  | error => "bold red"
  | info => "italic cyan"

/-- A kind and a message. -/
structure StatusLine where
  kind : StatusKind
  message : Text
deriving DecidableEq, Repr

/-- The line ends that a text begins with. -/
def leadingBreaks (t : Text) : Text := t.takeWhile (· = Text.newline)

/-- The text after the line ends that it begins with. -/
def afterBreaks (t : Text) : Text := t.dropWhile (· = Text.newline)

/-- The text of a status line, tabs kept: `ConsoleStyles.status_text`. -/
def StatusLine.plain (s : StatusLine) : Text :=
  visible (leadingBreaks s.message ++ s.kind.glyph :: CodePoint.ofChar ' ' :: afterBreaks s.message)

/-- **A status line on the screen**, with the line end after it: `print_success`, `print_warning`,
`print_error` and `print_info`. -/
def StatusLine.render (s : StatusLine) : Text := s.plain.expandTabs ++ [Text.newline]

end SynthDesk.Console
