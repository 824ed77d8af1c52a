/-
What the program does that can be seen from outside.

It shows something on the screen, or it notes something in the log. An
activity yields its effects in order; what is shown and what is noted are two
projections of that one list.
-/
import SynthDesk.Console.Status
import SynthDesk.Log.Record

set_option autoImplicit false

namespace SynthDesk

/-- One thing on the screen. -/
inductive Shown
  /-- A status line. -/
  | status (line : Console.StatusLine)
  /-- Text as it stands. -/
  | verbatim (t : Text)
deriving DecidableEq, Repr

/-- The text that appears. -/
def Shown.render : Shown → Text
  | status line => line.render
  | verbatim t => t

/-- One visible act. -/
inductive Effect
  | shows (s : Shown)
  | notes (r : Log.Record)
deriving DecidableEq, Repr

namespace Effect

/-- A status line shown. -/
def line (kind : Console.StatusKind) (message : Text) : Effect :=
  .shows (.status ⟨kind, message⟩)

/-- A record noted. -/
def note (level : Log.Level) (source message : Text) : Effect :=
  .notes ⟨level, source, message, none⟩

/-- A record noted with the trace of a fault. -/
def noteFault (level : Log.Level) (source message trace : Text) : Effect :=
  .notes ⟨level, source, message, some trace⟩

/-- What is shown, in order. -/
def shown (es : List Effect) : List Shown :=
  es.filterMap fun
    | .shows s => some s
    | .notes _ => none

/-- What is noted, in order. -/
def noted (es : List Effect) : List Log.Record :=
  es.filterMap fun
    | .shows _ => none
    | .notes r => some r

/-- The status lines among what is shown. -/
def statusLines (es : List Effect) : List Console.StatusLine :=
  (shown es).filterMap fun
    | .status l => some l
    | .verbatim _ => none

/-- All text that appears. -/
def printed (es : List Effect) : Text := (shown es).flatMap Shown.render

theorem shown_append (a b : List Effect) : shown (a ++ b) = shown a ++ shown b := by
  simp [shown]

theorem noted_append (a b : List Effect) : noted (a ++ b) = noted a ++ noted b := by
  simp [noted]

theorem statusLines_append (a b : List Effect) :
    statusLines (a ++ b) = statusLines a ++ statusLines b := by
  simp [statusLines, shown_append]

end Effect

end SynthDesk
