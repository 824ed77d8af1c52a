/-
What comes of a keyboard.

A keyboard is lines, and then it gives out: with a fault in place of a line, or
with the end of the input. A question takes the lines that it refuses and the
one that it accepts, and leaves the rest to the next; if there is no such line,
it ends with the fault. Questions in turn do the same together. So whether an
interview is answered, and by which lines, can be said without asking it, and
what it comes to follows from there.
-/
import SynthDesk.Interview.Basic
import Mathlib.Logic.Basic

set_option autoImplicit false

namespace SynthDesk.Interview

variable {α β : Type}

/-! ## Lines, and what comes after them -/

/-- Lines from a keyboard. -/
def typed (lines : List Text) : Keyboard := lines.map .line

theorem typed_append (a b : List Text) : typed (a ++ b) = typed a ++ typed b := by
  simp only [typed, List.map_append]

/-- **The keyboard gives out**: in place of a line there is this fault, and this is
what is left to read after it. -/
inductive GivesOut : Keyboard → Fault → Keyboard → Prop
  | ended : GivesOut [] exhausted []
  | fault (f : Fault) (rest : Keyboard) : GivesOut (.fault f :: rest) f rest

/-- Every keyboard is lines, and then it gives out. -/
theorem exists_typed (keys : Keyboard) :
    ∃ lines tail f rest, keys = typed lines ++ tail ∧ GivesOut tail f rest := by
  induction keys with
  | nil => exact ⟨[], [], exhausted, [], rfl, .ended⟩
  | cons key r ih =>
    cases key with
    | fault f => exact ⟨[], .fault f :: r, f, r, rfl, .fault f r⟩
    | line t =>
      obtain ⟨lines, tail, f, rest, rfl, hout⟩ := ih
      exact ⟨t :: lines, tail, f, rest, rfl, hout⟩

/-! ## Reading in turn -/

/-- What a reply comes to, and what it leaves to read. -/
def Reply.Yields (reply : Reply α) (result : Except Fault α) (rest : Keyboard) : Prop :=
  reply.result = result ∧ reply.rest = rest

theorem Reply.Yields.andThen {reply : Reply α} {a : α} {keys : Keyboard}
    (h : reply.Yields (.ok a) keys) {next : α → Keyboard → Reply β} {result : Except Fault β}
    {rest : Keyboard} (hnext : (next a keys).Yields result rest) :
    (reply.andThen next).Yields result rest := by
  obtain ⟨hresult, rfl⟩ := h
  rw [Reply.andThen, hresult]
  exact hnext

theorem Reply.Yields.andThen_of_error {reply : Reply α} {f : Fault} {rest : Keyboard}
    (h : reply.Yields (.error f) rest) (next : α → Keyboard → Reply β) :
    (reply.andThen next).Yields (.error f) rest := by
  obtain ⟨hresult, rfl⟩ := h
  rw [Reply.andThen, hresult]
  exact ⟨rfl, rfl⟩

/-- No initial part of the lines answers. -/
def Unanswered (answers : List Text → α → Prop) (lines : List Text) : Prop :=
  ∀ part more a, lines = part ++ more → ¬ answers part a

/-- **The reading goes by lines.** Lines that answer are taken, whatever comes after
them, and no more than these; and where no part of the lines answers, the
reading ends with the fault that comes after them. -/
structure GoesBy (read : Keyboard → Reply α) (answers : List Text → α → Prop) : Prop where
  answered : ∀ {lines a}, answers lines a → ∀ rest,
    (read (typed lines ++ rest)).Yields (.ok a) rest
  unanswered : ∀ {lines tail f rest}, Unanswered answers lines → GivesOut tail f rest →
    (read (typed lines ++ tail)).Yields (.error f) rest

/-- Lines that answer in turn: a first part, and then a second by what the first
has answered. -/
def InTurn (first : List Text → α → Prop) (second : α → List Text → β → Prop)
    (lines : List Text) (b : β) : Prop :=
  ∃ part more a, lines = part ++ more ∧ first part a ∧ second a more b

theorem GoesBy.andThen {read : Keyboard → Reply α} {first : List Text → α → Prop}
    (hread : GoesBy read first) {next : α → Keyboard → Reply β}
    {second : α → List Text → β → Prop} (hnext : ∀ a, GoesBy (next a) (second a)) :
    GoesBy (fun keys => (read keys).andThen next) (InTurn first second) where
  answered := by
    rintro lines b ⟨part, more, a, rfl, hpart, hmore⟩ rest
    rw [typed_append, List.append_assoc]
    exact (hread.answered hpart _).andThen ((hnext a).answered hmore rest)
  unanswered := by
    intro lines tail f rest hlines hout
    by_cases hfirst : Unanswered first lines
    · exact (hread.unanswered hfirst hout).andThen_of_error next
    · -- The first part is answered, so it is the second that no lines are left for.
      simp only [Unanswered, not_forall, not_not] at hfirst
      obtain ⟨part, more, a, rfl, hpart⟩ := hfirst
      have hsecond : Unanswered (second a) more := by
        rintro part' more' b rfl hb
        exact hlines (part ++ part') more' b (List.append_assoc ..).symm
          ⟨part, part', a, rfl, hpart, hb⟩
      rw [typed_append, List.append_assoc]
      exact (hread.answered hpart _).andThen ((hnext a).unanswered hsecond hout)

/-- A value without any reading is answered by no line. -/
theorem GoesBy.pure (a : α) : GoesBy (Reply.pure a) (fun lines b => lines = [] ∧ b = a) where
  answered := by
    rintro lines b ⟨rfl, rfl⟩ rest
    exact ⟨rfl, rfl⟩
  unanswered := by
    intro lines tail f rest hlines hout
    exact absurd ⟨rfl, rfl⟩ (hlines [] lines a rfl)

theorem GoesBy.map {read : Keyboard → Reply α} {answers : List Text → α → Prop}
    (h : GoesBy read answers) (g : α → β) :
    GoesBy (fun keys => (read keys).map g) (fun lines b => ∃ a, answers lines a ∧ b = g a) where
  answered := by
    rintro lines b ⟨a, ha, rfl⟩ rest
    obtain ⟨hresult, hrest⟩ := h.answered ha rest
    exact ⟨congrArg (Except.map g) hresult, hrest⟩
  unanswered := by
    intro lines tail f rest hlines hout
    have hread : Unanswered answers lines :=
      fun part more a hsplit ha => hlines part more (g a) hsplit ⟨a, ha, rfl⟩
    obtain ⟨hresult, hrest⟩ := h.unanswered hread hout
    exact ⟨congrArg (Except.map g) hresult, hrest⟩

theorem GoesBy.congr {read : Keyboard → Reply α} {answers answers' : List Text → α → Prop}
    (h : GoesBy read answers) (hiff : ∀ lines a, answers lines a ↔ answers' lines a) :
    GoesBy read answers' := by
  have heq : answers = answers' := by
    funext lines a
    exact propext (hiff lines a)
  rwa [← heq]

/-! ## One question -/

/-- **The lines answer the question**: some that it refuses, and then one that it
accepts. -/
inductive Question.AnsweredBy (q : Question α) : List Text → α → Prop
  | accepted {t : Text} {a : α} : q.answer? t = some a → AnsweredBy q [t] a
  | refused {t : Text} {lines : List Text} {a : α} :
    q.answer? t = none → AnsweredBy q lines a → AnsweredBy q (t :: lines) a

/-- A question goes by the lines that answer it. -/
theorem Question.goesBy_ask (q : Question α) : GoesBy q.ask q.AnsweredBy where
  answered := by
    intro lines a h rest
    induction h with
    | accepted ht =>
      rw [typed, List.map_singleton, List.singleton_append, ask, ht]
      exact ⟨rfl, rfl⟩
    | refused ht _ ih =>
      rw [typed, List.map_cons, List.cons_append, ask, ht]
      exact ih
  unanswered := by
    intro lines tail f rest hlines hout
    induction lines with
    | nil =>
      cases hout with
      | ended => exact ⟨rfl, rfl⟩
      | fault f rest => exact ⟨rfl, rfl⟩
    | cons t r ih =>
      -- A line that is accepted would be an answer, so this one is refused.
      have ht : q.answer? t = none := by
        cases ht : q.answer? t with
        | none => rfl
        | some a => exact absurd (.accepted ht) (hlines [t] r a rfl)
      have hr : Unanswered q.AnsweredBy r := by
        rintro part more a rfl ha
        exact hlines (t :: part) more a rfl (.refused ht ha)
      rw [typed, List.map_cons, List.cons_append, ask, ht]
      exact ih hr

/-! ## The questions of an interview -/

/-- **The lines answer the four questions**, a stretch of them for each. -/
inductive FourAnsweredBy (s : Settings) : List Text → Answers Text → Prop
  | intro {model tables dataOutput rows : List Text} {a : Answers Text} :
    (Memory.texts.modelQuestion s.model).AnsweredBy model a.model →
    (tablesQuestion (Text.join [','] s.tables)).AnsweredBy tables a.tables →
    (Memory.texts.dataOutputQuestion s.dataOutput).AnsweredBy dataOutput a.dataOutput →
    (Memory.texts.syntheticGenerateQuestion s.syntheticGenerate).AnsweredBy rows
      a.syntheticGenerate →
    FourAnsweredBy s (model ++ (tables ++ (dataOutput ++ rows))) a

/-- **The lines answer all five questions**: with these options, and whether to
remember them. -/
inductive AnsweredBy (s : Settings) : List Text → Options × Bool → Prop
  | intro {four fifth : List Text} {a : Answers Text} {wanted : Bool} :
    FourAnsweredBy s four a → rememberQuestion.AnsweredBy fifth wanted →
    AnsweredBy s (four ++ fifth) (a.options, wanted)

theorem Question.AnsweredBy.length_pos {q : Question α} {lines : List Text} {a : α}
    (h : q.AnsweredBy lines a) : 0 < lines.length := by
  cases h with
  | accepted => exact Nat.one_pos
  | refused => exact Nat.succ_pos _

/-- No fewer than five lines answer five questions. -/
theorem AnsweredBy.le_length {s : Settings} {lines : List Text} {answer : Options × Bool}
    (h : AnsweredBy s lines answer) : 5 ≤ lines.length := by
  obtain ⟨hfour, hfifth⟩ := h
  obtain ⟨hmodel, htables, hdataOutput, hrows⟩ := hfour
  have h₁ := hmodel.length_pos
  have h₂ := htables.length_pos
  have h₃ := hdataOutput.length_pos
  have h₄ := hrows.length_pos
  have h₅ := hfifth.length_pos
  simp only [List.length_append]
  omega

theorem goesBy_questions (s : Settings) :
    GoesBy (Memory.texts.questions (.ofSettings s)) (FourAnsweredBy s) := by
  have hfour := (Memory.texts.modelQuestion s.model).goesBy_ask.andThen fun model =>
    (tablesQuestion (Text.join [','] s.tables)).goesBy_ask.andThen fun tables =>
    (Memory.texts.dataOutputQuestion s.dataOutput).goesBy_ask.andThen fun dataOutput =>
    (Memory.texts.syntheticGenerateQuestion s.syntheticGenerate).goesBy_ask.andThen fun rows =>
    GoesBy.pure (⟨model, tables, dataOutput, rows⟩ : Answers Text)
  refine hfour.congr fun lines a => ⟨?_, ?_⟩
  · rintro ⟨l₁, _, model, rfl, h₁, l₂, _, tables, rfl, h₂, l₃, _, dataOutput, rfl, h₃, l₄, _,
      rows, rfl, h₄, rfl, rfl⟩
    rw [List.append_nil]
    exact .intro h₁ h₂ h₃ h₄
  · rintro ⟨h₁, h₂, h₃, h₄⟩
    exact ⟨_, _, _, rfl, h₁, _, _, _, rfl, h₂, _, _, _, rfl, h₃, _, _, _,
      (List.append_nil _).symm, h₄, rfl, rfl⟩

/-- The options are collected by the lines that answer the four questions. -/
theorem goesBy_collect (s : Settings) :
    GoesBy (collect s) (fun lines o => ∃ a, FourAnsweredBy s lines a ∧ o = a.options) := by
  have hquestions := (goesBy_questions s).map Answers.options
  -- The welcome is shown in addition, and nothing else is different.
  exact ⟨hquestions.answered, hquestions.unanswered⟩

/-- **An interview goes by the lines that answer all five questions.** -/
theorem goesBy_interview (s : Settings) : GoesBy (interview s) (AnsweredBy s) := by
  have hfive := (goesBy_collect s).andThen fun o =>
    rememberQuestion.goesBy_ask.andThen fun wanted => GoesBy.pure ((o, wanted) : Options × Bool)
  refine hfive.congr fun lines answer => ⟨?_, ?_⟩
  · rintro ⟨four, _, o, rfl, ⟨a, hfour, rfl⟩, fifth, _, wanted, rfl, hfifth, rfl, rfl⟩
    rw [List.append_nil]
    exact .intro hfour hfifth
  · rintro ⟨hfour, hfifth⟩
    exact ⟨_, _, _, rfl, ⟨_, hfour, rfl⟩, _, _, _, (List.append_nil _).symm, hfifth, rfl, rfl⟩

/-! ## Answered, or broken off -/

/-- The keyboard answers all five questions, before it gives out. -/
def Completes (s : Settings) (keys : Keyboard) (o : Options) (wanted : Bool) : Prop :=
  ∃ lines rest, keys = typed lines ++ rest ∧ AnsweredBy s lines (o, wanted)

/-- The keyboard gives out, with this fault, before all five questions are answered. -/
def BreaksOff (s : Settings) (keys : Keyboard) (f : Fault) : Prop :=
  ∃ lines tail rest, keys = typed lines ++ tail ∧ GivesOut tail f rest ∧
    Unanswered (AnsweredBy s) lines

/-- Every keyboard does the one or the other. -/
theorem completes_or_breaksOff (s : Settings) (keys : Keyboard) :
    (∃ o wanted, Completes s keys o wanted) ∨ ∃ f, BreaksOff s keys f := by
  obtain ⟨lines, tail, f, rest, rfl, hout⟩ := exists_typed keys
  by_cases hlines : Unanswered (AnsweredBy s) lines
  · exact Or.inr ⟨f, lines, tail, rest, rfl, hout, hlines⟩
  · simp only [Unanswered, not_forall, not_not] at hlines
    obtain ⟨part, more, ⟨o, wanted⟩, rfl, hpart⟩ := hlines
    refine Or.inl ⟨o, wanted, part, typed more ++ tail, ?_, hpart⟩
    rw [typed_append, List.append_assoc]

/-- A keyboard that gives out within four lines breaks the interview off. -/
theorem breaksOff_of_length_lt (s : Settings) (lines : List Text) (hlength : lines.length < 5)
    {tail rest : Keyboard} {f : Fault} (hout : GivesOut tail f rest) :
    BreaksOff s (typed lines ++ tail) f := by
  refine ⟨lines, tail, rest, rfl, hout, ?_⟩
  rintro part more answer rfl hanswered
  have hfive := hanswered.le_length
  rw [List.length_append] at hlength
  omega

theorem interview_of_completes {s : Settings} {keys : Keyboard} {o : Options} {wanted : Bool}
    (h : Completes s keys o wanted) : (interview s keys).result = .ok (o, wanted) := by
  obtain ⟨lines, rest, rfl, hlines⟩ := h
  exact ((goesBy_interview s).answered hlines rest).1

theorem interview_of_breaksOff {s : Settings} {keys : Keyboard} {f : Fault}
    (h : BreaksOff s keys f) : (interview s keys).result = .error f := by
  obtain ⟨lines, tail, rest, rfl, hout, hlines⟩ := h
  exact ((goesBy_interview s).unanswered hlines hout).1

/-! ## What an interview shows

Prompts and remarks, and never a status line. -/

/-- No status line is shown. -/
def Unmarked (shown : List Shown) : Prop := Effect.statusLines (shown.map .shows) = []

theorem Unmarked.append {a b : List Shown} (ha : Unmarked a) (hb : Unmarked b) :
    Unmarked (a ++ b) := by
  rw [Unmarked, List.map_append, Effect.statusLines_append, ha, hb]
  rfl

theorem Question.unmarked_ask (q : Question α) (keys : Keyboard) :
    Unmarked (q.ask keys).shown := by
  induction keys with
  | nil => rfl
  | cons key r ih =>
    cases key with
    | fault f => rfl
    | line t =>
      rw [ask]
      cases q.answer? t with
      | some a => rfl
      | none => exact ih

theorem Reply.unmarked_andThen {reply : Reply α} (h : Unmarked reply.shown)
    {next : α → Keyboard → Reply β} (hnext : ∀ a keys, Unmarked (next a keys).shown) :
    Unmarked (reply.andThen next).shown := by
  rw [Reply.andThen]
  cases reply.result with
  | error f => exact h
  | ok a => exact h.append (hnext a _)

theorem unmarked_interview (s : Settings) (keys : Keyboard) :
    Unmarked (interview s keys).shown := by
  have hpure : ∀ {γ : Type} (c : γ) (keys : Keyboard), Unmarked (Reply.pure c keys).shown :=
    fun _ _ => rfl
  have hquestions : Unmarked (Memory.texts.questions (.ofSettings s) keys).shown := by
    refine Reply.unmarked_andThen (Question.unmarked_ask _ keys) fun model keys => ?_
    refine Reply.unmarked_andThen (Question.unmarked_ask _ keys) fun tables keys => ?_
    refine Reply.unmarked_andThen (Question.unmarked_ask _ keys) fun dataOutput keys => ?_
    exact Reply.unmarked_andThen (Question.unmarked_ask _ keys) fun rows keys => hpure _ keys
  have hcollect : Unmarked (collect s keys).shown := hquestions
  refine Reply.unmarked_andThen hcollect fun o keys => ?_
  exact Reply.unmarked_andThen (Question.unmarked_ask _ keys) fun wanted keys => hpure _ keys

end SynthDesk.Interview
