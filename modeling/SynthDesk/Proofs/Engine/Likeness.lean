/-
Two runs side by side.

What becomes of a run is decided without a look at two things: the text of the
indicator, and whether there are consoles. A likeness says what two indicators
have in common, and two executors in their own consoles, and how the effects of
the one run correspond to those of the other; it has to be kept by each of the
few things that a supervisor does to an indicator, and by each line of its own.
Then every act keeps it, one after another, and with them whole runs: they take
the same decisions, instant by instant, and their effects correspond.

Nothing is asked about the start of an indicator. A start looks at the text if
there is a console, and this is where two runs can part.
-/
import SynthDesk.Proofs.Engine.Run
import Mathlib.Data.List.Forall2

set_option autoImplicit false

namespace SynthDesk.Engine

open Supervisor Executor

/-! ## Likenesses -/

/-- **A likeness** of consoles, of indicators, of what they show, and of effects. -/
structure Likeness where
  consoles : Bool → Bool → Prop
  indicators : Indicator → Indicator → Prop
  texts : Text → Text → Prop
  effects : List Effect → List Effect → Prop
  active : ∀ {i i'}, indicators i i' → i'.active = i.active
  text : ∀ {i i'}, indicators i i' → texts i.text i'.text
  update : ∀ {i i'}, indicators i i' → ∀ t, indicators (i.update t) (i'.update t)
  stop : ∀ {i i'}, indicators i i' → indicators i.stop i'.stop
  nothing : effects [] []
  append : ∀ {a a' b b'}, effects a a' → effects b b' → effects (a ++ b) (a' ++ b')
  note : ∀ r, effects [.notes r] [.notes r]
  line : ∀ {i i'}, indicators i i' → ∀ kind message,
    effects (if i.console then [.line kind message] else [])
      (if i'.console then [.line kind message] else [])
  ownLine : ∀ {c c'}, consoles c c' → ∀ kind message,
    effects (if c then [.line kind message] else []) (if c' then [.line kind message] else [])

variable {L : Likeness}

/-- Two supervisors that differ in their consoles and indicators only, and these are alike. -/
structure Supervisor.Alike (L : Likeness) (s s' : Supervisor) : Prop where
  phase : s'.phase = s.phase
  outcome : s'.outcome = s.outcome
  outOpen : s'.outOpen = s.outOpen
  errOpen : s'.errOpen = s.errOpen
  waited : s'.waited = s.waited
  console : L.consoles s.console s'.console
  indicator : L.indicators s.indicator s'.indicator

/-- Two acts that leave such supervisors, with corresponding effects. -/
structure Supervisor.Act.Alike (L : Likeness) (a a' : Act) : Prop where
  supervisor : a.1.Alike L a'.1
  effects : L.effects a.2 a'.2

/-- Two moments that differ in what is shown only. -/
structure Moment.Alike (L : Likeness) (m m' : Moment) : Prop where
  phase : m'.phase = m.phase
  text : L.texts m.text m'.text
  active : m'.active = m.active
  outcome : m'.outcome = m.outcome
  effects : L.effects m.effects m'.effects

/-- Two reports of runs that took the same decisions. -/
structure Report.Alike (L : Likeness) (r r' : Report) : Prop where
  command : r'.command = r.command
  result : r'.result = r.result
  closed : r'.closed = r.closed
  phase : r'.phase = r.phase
  moments : List.Forall₂ (Moment.Alike L) r.moments r'.moments

/-! ## Acts -/

namespace Supervisor

variable {s s' : Supervisor}

theorem Act.Alike.andThen {a a' : Act} (h : a.Alike L a') {next : Supervisor → Act}
    (hnext : ∀ {t t' : Supervisor}, t.Alike L t' → (next t).Alike L (next t')) :
    (a.andThen next).Alike L (a'.andThen next) where
  supervisor := (hnext h.supervisor).supervisor
  effects := L.append h.effects (hnext h.supervisor).effects

namespace Alike

theorem quiet (h : s.Alike L s') : s.quiet.Alike L s'.quiet := ⟨h, L.nothing⟩

/-- Supervisors that are alike can do the same to their indicators. -/
theorem withIndicator (h : s.Alike L s') {i i' : Indicator} (hi : L.indicators i i') :
    Alike L { s with indicator := i } { s' with indicator := i' } :=
  ⟨h.phase, h.outcome, h.outOpen, h.errOpen, h.waited, h.console, hi⟩

theorem isOpen (h : s.Alike L s') (stream : Stream) : s'.isOpen stream = s.isOpen stream := by
  cases stream with
  | out => exact h.outOpen
  | err => exact h.errOpen

theorem isSettled (h : s.Alike L s') : s'.outcome.isSome = s.outcome.isSome :=
  congrArg Option.isSome h.outcome

theorem isComplete (h : s.Alike L s') : s'.isComplete = s.isComplete := by
  rw [Supervisor.isComplete, Supervisor.isComplete, h.outOpen, h.errOpen, h.waited]

theorem remaining (h : s.Alike L s') : s'.remaining = s.remaining := by
  rw [Supervisor.remaining, Supervisor.remaining, h.outOpen, h.errOpen, h.waited]

theorem close (h : s.Alike L s') (stream : Stream) :
    (s.close stream).Alike L (s'.close stream) := by
  cases stream with
  | out => exact ⟨h.phase, h.outcome, rfl, h.errOpen, h.waited, h.console, h.indicator⟩
  | err => exact ⟨h.phase, h.outcome, h.outOpen, rfl, h.waited, h.console, h.indicator⟩

theorem account (h : s.Alike L s') (i : Instant) : (s.account i).Alike L (s'.account i) :=
  ⟨h.phase, h.outcome, h.outOpen, h.errOpen, congrArg (·.or (endIn i)) h.waited, h.console,
    h.indicator⟩

/-- A note is made whatever the indicator is like. -/
theorem noting (h : s.Alike L s') (r : Log.Record) :
    Act.Alike L (s, [.notes r]) (s', [.notes r]) :=
  ⟨h, L.note _⟩

theorem say (h : s.Alike L s') (kind : Console.StatusKind) (message : Text) :
    L.effects (s.say kind message) (s'.say kind message) :=
  L.ownLine h.console kind message

theorem resolve (h : s.Alike L s') (o : Outcome) :
    (Supervisor.resolve o s).Alike L (Supervisor.resolve o s') := by
  cases ho : s.outcome with
  | some o' =>
    rw [Supervisor.resolve, Supervisor.resolve, h.outcome, ho]
    exact h.noting _
  | none =>
    rw [Supervisor.resolve, Supervisor.resolve, h.outcome, ho]
    exact ⟨⟨rfl, rfl, h.outOpen, h.errOpen, h.waited, h.console, h.indicator⟩, L.nothing⟩

theorem finish (h : s.Alike L s') (kind : Console.StatusKind) (message : Text) :
    (Supervisor.finish kind message s).Alike L (Supervisor.finish kind message s') := by
  refine ⟨h.withIndicator (L.stop h.indicator), ?_⟩
  simp only [Supervisor.finish, Indicator.finish, L.active h.indicator]
  cases s.indicator.active with
  | true => simpa only [Bool.true_and] using L.line h.indicator kind message
  | false => simpa only [Bool.false_and, Bool.false_eq_true, if_false] using L.nothing

/-! ### Reading -/

theorem readOut (h : s.Alike L s') (piece : List Octet) :
    (s.readOut piece).Alike L (s'.readOut piece) := by
  rw [Supervisor.readOut, Supervisor.readOut, h.isSettled]
  split
  · exact h.noting _
  · exact (h.withIndicator (L.update h.indicator _)).noting _

theorem readErr (h : s.Alike L s') (piece : List Octet) :
    (s.readErr piece).Alike L (s'.readErr piece) := by
  rw [Supervisor.readErr, Supervisor.readErr, h.isSettled]
  split
  · exact h.noting _
  · refine Act.Alike.andThen ?_ fun ht => ht.resolve _
    exact ⟨h.withIndicator (L.stop h.indicator), L.append (h.say _ _) (L.note _)⟩

theorem readPieces (stream : Stream) (pieces : List (List Octet)) (h : s.Alike L s') :
    (Supervisor.readPieces stream pieces s).Alike L (Supervisor.readPieces stream pieces s') := by
  induction pieces generalizing s s' with
  | nil => exact h.quiet
  | cons p r ih =>
    have hpiece : (s.readPiece stream p).Alike L (s'.readPiece stream p) := by
      cases stream with
      | out => exact h.readOut p
      | err => exact h.readErr p
    exact hpiece.andThen ih

theorem receive (h : s.Alike L s') (stream : Stream) (a : Arrival) :
    (Supervisor.receive stream a s).Alike L (Supervisor.receive stream a s') := by
  rw [Supervisor.receive, Supervisor.receive, h.isOpen]
  split
  · refine (h.readPieces stream a.pieces).andThen fun ht => ?_
    split
    · exact (ht.close stream).quiet
    · exact ht.quiet
  · exact h.quiet

/-! ### Judging -/

theorem judge (h : s.Alike L s') (w : Waited) :
    (Supervisor.judge w s).Alike L (Supervisor.judge w s') := by
  cases w with
  | status n =>
    rw [Supervisor.judge, Supervisor.judge]
    refine (h.noting _).andThen fun {t t'} ht => ?_
    rw [ht.isSettled]
    split
    · exact ht.quiet
    · split
      · refine ((ht.finish _ _).andThen fun hu => ?_).andThen fun hu => hu.resolve _
        exact ⟨hu, hu.say _ _⟩
      · exact (ht.finish _ _).andThen fun hu => hu.resolve _
  | lost m =>
    exact ((h.noting _).andThen fun ht => ht.finish _ _).andThen fun hu => hu.resolve _

theorem conclude (before : Bool) (h : s.Alike L s') :
    (Supervisor.conclude before s).Alike L (Supervisor.conclude before s') := by
  rw [Supervisor.conclude, Supervisor.conclude, h.waited, h.isComplete]
  split
  · split
    · exact h.judge _
    · exact h.quiet
  · exact h.quiet

/-! ## Instants and histories -/

/-- **An instant keeps a likeness.** -/
theorem step (h : s.Alike L s') (i : Instant) : (s.step i).Alike L (s'.step i) := by
  rw [Supervisor.step, Supervisor.step, h.isComplete]
  exact (((h.receive _ _).andThen fun ht => ht.receive _ _).andThen
    fun ht => (ht.account i).quiet).andThen fun ht => ht.conclude _

theorem moment {a a' : Act} (h : a.Alike L a') : (a.1.moment a.2).Alike L (a'.1.moment a'.2) where
  phase := h.supervisor.phase
  text := L.text h.supervisor.indicator
  active := L.active h.supervisor.indicator
  outcome := h.supervisor.outcome
  effects := h.effects

/-- **A history keeps a likeness**, and its moments are alike one by one. -/
theorem follow (h : s.Alike L s') (t : List Instant) :
    (s.follow t).1.Alike L (s'.follow t).1 ∧
      List.Forall₂ (Moment.Alike L) (s.follow t).2 (s'.follow t).2 := by
  induction t generalizing s s' with
  | nil => exact ⟨h, .nil⟩
  | cons i r ih =>
    have hstep := h.step i
    obtain ⟨hend, hmoments⟩ := ih hstep.supervisor
    exact ⟨hend, .cons (moment hstep) hmoments⟩

theorem complete (h : s.Alike L s') (history : List Instant) :
    (s.complete history).1.Alike L (s'.complete history).1 ∧
      List.Forall₂ (Moment.Alike L) (s.complete history).2 (s'.complete history).2 := by
  obtain ⟨hbefore, hmoments⟩ := h.follow history
  obtain ⟨hafter, hmore⟩ := hbefore.follow (s.follow history).1.remaining
  rw [Supervisor.complete, Supervisor.complete, hbefore.remaining]
  exact ⟨hafter, List.rel_append hmoments hmore⟩

end Alike

end Supervisor

/-! ## Runs -/

namespace Executor

variable {x x' : Executor}

/-- **Runs keep a likeness** of consoles, and of indicators that have started: the
two reports are alike, and so are the indicators that are left. -/
theorem alike_run (hlocation : x'.location = x.location)
    (hconsole : L.consoles x.console x'.console) (hs : x.indicator.start.2 = none)
    (hs' : x'.indicator.start.2 = none) (hbegun : L.indicators x.begun x'.begun)
    (args : List Text) (attempt : Attempt) :
    (x.run args attempt).2.Alike L (x'.run args attempt).2 ∧
      L.indicators (x.run args attempt).1.indicator (x'.run args attempt).1.indicator := by
  have hstarted : (Supervisor.started x.console x.begun).Alike L
      (Supervisor.started x'.console x'.begun) := ⟨rfl, rfl, rfl, rfl, rfl, hconsole, hbegun⟩
  cases attempt with
  | starts history =>
    obtain ⟨hend, hmoments⟩ := hstarted.complete history
    have hnoted : Act.Alike L
        (Supervisor.started x.console x.begun, [startNote (x.location.command args)])
        (Supervisor.started x'.console x'.begun, [startNote (x.location.command args)]) :=
      ⟨hstarted, L.note _⟩
    have hverdict : verdict x'.console x'.begun history = verdict x.console x.begun history := by
      have hout := hend.outcome
      rw [outcome_complete, outcome_complete] at hout
      exact Option.some.inj hout
    rw [run, run, hs, hs', hlocation]
    refine ⟨⟨rfl, ?_, ?_, hend.phase, .cons ?_ hmoments⟩, hend.indicator⟩
    · exact congrArg Except.ok hverdict
    · exact congrArg closedBy hend.waited
    · exact Supervisor.Alike.moment hnoted
  | refused f =>
    rw [run, run, hs, hs', hlocation]
    cases hf : f.isRefusal with
    | true =>
      -- A refusal ends the indicator as the judge would.
      have hfail := hstarted.finish .error (refusedMessage f)
      refine ⟨⟨rfl, rfl, rfl, rfl, .cons ⟨rfl, ?_, ?_, rfl, ?_⟩ .nil⟩, ?_⟩
      · exact L.text hfail.supervisor.indicator
      · exact L.active hfail.supervisor.indicator
      · exact L.append (L.note _) (L.append (L.note _) hfail.effects)
      · exact hfail.supervisor.indicator
    | false =>
      exact ⟨⟨rfl, rfl, rfl, rfl, .cons ⟨rfl, L.text hbegun, L.active hbegun, rfl, L.note _⟩ .nil⟩,
        hbegun⟩

end Executor

end SynthDesk.Engine
