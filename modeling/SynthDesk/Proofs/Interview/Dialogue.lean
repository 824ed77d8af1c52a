/-
The lines that answer an interview, and what is shown meanwhile.

Two of the five questions are put again until a line is accepted, for as many
lines as it takes, and three take whatever comes. So the lines that answer have
one form: refused ones and a model, three lines, refused ones and a yes or a
no. A script is such a list of lines, and an interview is answered exactly by
the lines that begin with a script. All other lines end too early, while the
one or the other question is put. Either way there is one attempt to read for
each line that is taken, each with its prompt, and one more at the end of the
input.
-/
import SynthDesk.Proofs.Interview.Scripts
import SynthDesk.Proofs.Text.Case
import Mathlib.Data.List.TakeWhile

set_option autoImplicit false

namespace SynthDesk.Interview

variable {α β : Type}

/-! ## What a line means -/

/-- The line answers the question for the model: it is empty, or a choice between blanks. -/
def NamesModel (line : Text) : Prop := line = [] ∨ line.strip ∈ models

instance (line : Text) : Decidable (NamesModel line) :=
  inferInstanceAs (Decidable (_ ∨ _))

/-- The line consents: a y between blanks, small or capital. -/
def Consents (line : Text) : Prop := line.strip = "y" ∨ line.strip = "Y"

instance (line : Text) : Decidable (Consents line) :=
  inferInstanceAs (Decidable (_ ∨ _))

/-- The line answers the question whether to remember the answers: it is empty, or a y
or an n between blanks, small or capital. -/
def Decides (line : Text) : Prop :=
  line = [] ∨ Consents line ∨ line.strip = "n" ∨ line.strip = "N"

instance (line : Text) : Decidable (Decides line) :=
  inferInstanceAs (Decidable (_ ∨ _))

/-- What a line leaves of the remembered answer: all of it if the line is empty, else
nothing but the line without the blanks around it. -/
def kept (remembered line : Text) : Text := if line = [] then remembered else line.strip

/-- A line of blanks is an empty answer, whatever is remembered. -/
theorem kept_of_isBlank {line : Text} (hne : line ≠ []) (hblank : line.isBlank = true)
    (remembered : Text) : kept remembered line = [] := by
  have hstart : line.stripStart = [] :=
    List.dropWhile_eq_nil_iff.mpr (List.all_eq_true.mp hblank)
  rw [kept, if_neg hne, Text.strip, hstart]
  rfl

theorem orDefault_eq (remembered line : Text) :
    Memory.texts.orDefault remembered line = kept remembered line := by
  simp only [Memory.orDefault, kept, List.isEmpty_iff, Memory.texts, id]

theorem modelOf_eq (remembered line : Text) :
    Memory.texts.modelOf remembered line =
      if NamesModel line then some (kept remembered line) else none := by
  by_cases hempty : line = []
  · simp only [Memory.modelOf, NamesModel, kept, hempty, List.isEmpty_nil, true_or, if_true]
  · simp only [Memory.modelOf, NamesModel, kept, hempty, List.isEmpty_iff, false_or, if_false,
      List.contains_iff_mem, Memory.texts, id]

theorem lower_strip_eq_y_iff (line : Text) :
    line.strip.lower = Text.ofString "y" ↔ Consents line :=
  Text.lower_eq_singleton_iff (by decide) line.strip

theorem lower_strip_eq_n_iff (line : Text) :
    line.strip.lower = Text.ofString "n" ↔ line.strip = "n" ∨ line.strip = "N" :=
  Text.lower_eq_singleton_iff (by decide) line.strip

theorem yesNoOf_eq (line : Text) :
    yesNoOf line = if Decides line then some (decide (Consents line)) else none := by
  by_cases hempty : line = []
  · subst hempty
    decide
  · by_cases hyes : Consents line
    · simp only [yesNoOf, Decides, hempty, List.isEmpty_iff, lower_strip_eq_y_iff, hyes, true_or,
        or_true, if_true, if_false, decide_true]
    · simp only [yesNoOf, Decides, hempty, List.isEmpty_iff, lower_strip_eq_y_iff,
        lower_strip_eq_n_iff, hyes, false_or, if_false, decide_false]

/-! ## Attempts to read a line -/

/-- An attempt to read a line: its prompt, and the remark if the line is refused. -/
structure Attempt where
  prompt : Text
  remark : Option Text

/-- What is shown at an attempt. -/
def Attempt.shown (a : Attempt) : List Shown :=
  .verbatim a.prompt :: match a.remark with
    | none => []
    | some r => [.verbatim (r ++ [Text.newline])]

/-- What is shown at attempts in turn. -/
def display (attempts : List Attempt) : List Shown := attempts.flatMap Attempt.shown

/-- The attempts that a question refuses, with one remark each. -/
def Question.refusals (q : Question α) (refused : List Text) : List Attempt :=
  refused.map fun _ => ⟨q.prompt, some q.remark⟩

/-- The attempts at a question: one for each line that is refused, and the last one. -/
def Question.attempts (q : Question α) (refused : List Text) : List Attempt :=
  q.refusals refused ++ [⟨q.prompt, none⟩]

theorem Question.length_attempts (q : Question α) (refused : List Text) :
    (q.attempts refused).length = refused.length + 1 := by
  rw [attempts, refusals, List.length_append, List.length_map, List.length_singleton]

theorem Question.display_attempts (q : Question α) (refused : List Text) :
    display (q.attempts refused) = display (q.refusals refused) ++ [.verbatim q.prompt] := by
  rw [display, display, attempts, List.flatMap_append]
  rfl

/-- Lines that a question refuses delay it, and change nothing else. -/
theorem Question.ask_append (q : Question α) {refused : List Text}
    (hrefused : ∀ t ∈ refused, q.answer? t = none) (keys : Keyboard) :
    q.ask (typed refused ++ keys) =
      { q.ask keys with shown := display (q.refusals refused) ++ (q.ask keys).shown } := by
  induction refused with
  | nil => rfl
  | cons t r ih =>
    have hr := ih fun t' ht' => hrefused t' (List.mem_cons_of_mem t ht')
    rw [typed, List.map_cons, List.cons_append, ask, hrefused t List.mem_cons_self, ← typed, hr]
    rfl

/-- **A question takes the lines that it refuses and the one that it accepts.** -/
theorem Question.ask_accepted (q : Question α) {refused : List Text}
    (hrefused : ∀ t ∈ refused, q.answer? t = none) {t : Text} {a : α} (ht : q.answer? t = some a)
    (more : List Text) :
    q.ask (typed (refused ++ t :: more)) = ⟨display (q.attempts refused), .ok a, typed more⟩ := by
  have hlast : q.ask (typed (t :: more)) = ⟨[.verbatim q.prompt], .ok a, typed more⟩ := by
    rw [typed, List.map_cons, ask, ht, typed]
  rw [typed_append, q.ask_append hrefused, hlast, display_attempts]

/-- **A question that refuses all lines** finds the end of the input. -/
theorem Question.ask_refused (q : Question α) {refused : List Text}
    (hrefused : ∀ t ∈ refused, q.answer? t = none) :
    q.ask (typed refused) = ⟨display (q.attempts refused), .error exhausted, []⟩ := by
  rw [← List.append_nil (typed refused), q.ask_append hrefused, display_attempts]
  rfl

theorem Reply.andThen_display {reply : Reply α} {first later : List Attempt} {a : α}
    {keys rest : Keyboard} {result : Except Fault β} {next : α → Keyboard → Reply β}
    (h : reply = ⟨display first, .ok a, keys⟩)
    (hnext : next a keys = ⟨display later, result, rest⟩) :
    reply.andThen next = ⟨display (first ++ later), result, rest⟩ := by
  subst h
  simp only [andThen, hnext, display, List.flatMap_append]

theorem Reply.andThen_pure_display {reply : Reply α} {attempts : List Attempt} {a : α}
    {keys : Keyboard} (h : reply = ⟨display attempts, .ok a, keys⟩) (g : α → β) :
    (reply.andThen fun a keys => .pure (g a) keys) = ⟨display attempts, .ok (g a), keys⟩ := by
  subst h
  simp only [andThen, pure, List.append_nil]

theorem Reply.andThen_display_of_error {reply : Reply α} {attempts : List Attempt} {f : Fault}
    {rest : Keyboard} (h : reply = ⟨display attempts, .error f, rest⟩)
    (next : α → Keyboard → Reply β) :
    reply.andThen next = ⟨display attempts, .error f, rest⟩ := by
  subst h
  rfl

/-! ## Scripts -/

/-- **A script**: refused lines and a model, three lines, refused lines and a yes or a no. -/
structure Script where
  refused : List Text
  model : Text
  tables : Text
  dataOutput : Text
  rows : Text
  hesitations : List Text
  decision : Text
  refused_spec : ∀ t ∈ refused, ¬ NamesModel t
  model_spec : NamesModel model
  hesitations_spec : ∀ t ∈ hesitations, ¬ Decides t
  decision_spec : Decides decision

namespace Script

/-- The lines of a script. -/
def lines (k : Script) : List Text :=
  k.refused ++ k.model :: k.tables :: k.dataOutput :: k.rows :: (k.hesitations ++ [k.decision])

/-- The options that a script answers with: each remembered answer as its line leaves it. -/
def options (k : Script) (s : Settings) : Options where
  get
    | .model => some (kept s.model k.model)
    | .tables => some (kept (Text.join [','] s.tables) k.tables)
    | .dataOutput => some (kept s.dataOutput k.dataOutput)
    | .syntheticGenerate => some (kept s.syntheticGenerate k.rows)
    | .diagram | .schemaOutput | .mockApiKey => none

/-- Whether the script wants the answers remembered. -/
def wanted (k : Script) : Bool := decide (Consents k.decision)

end Script

/-- The attempts at the three questions that take any line. -/
def freeAttempts (s : Settings) : List Attempt :=
  (tablesQuestion (Text.join [','] s.tables)).attempts [] ++
    ((Memory.texts.dataOutputQuestion s.dataOutput).attempts [] ++
      (Memory.texts.syntheticGenerateQuestion s.syntheticGenerate).attempts [])

/-- The attempts at the question for the model. -/
def modelAttempts (s : Settings) (refused : List Text) : List Attempt :=
  (Memory.texts.modelQuestion s.model).attempts refused

/-- The attempts of a script, one for each of its lines. -/
def Script.attempts (k : Script) (s : Settings) : List Attempt :=
  modelAttempts s k.refused ++ freeAttempts s ++ rememberQuestion.attempts k.hesitations

theorem Script.length_attempts (k : Script) (s : Settings) :
    (k.attempts s).length = k.lines.length := by
  simp only [attempts, lines, modelAttempts, freeAttempts, Question.length_attempts,
    List.length_append, List.length_cons, List.length_nil]
  omega

/-- **The lines end too early**, at one of the questions, after these attempts. -/
inductive CutOff (s : Settings) : List Text → List Attempt → Prop
  /-- No line is accepted as a model. -/
  | model {refused : List Text} : (∀ t ∈ refused, ¬ NamesModel t) →
    CutOff s refused (modelAttempts s refused)
  /-- Fewer than three lines come after the model. -/
  | free {refused answers : List Text} {model : Text} : (∀ t ∈ refused, ¬ NamesModel t) →
    NamesModel model → answers.length < 3 →
    CutOff s (refused ++ model :: answers)
      (modelAttempts s refused ++ (freeAttempts s).take (answers.length + 1))
  /-- No line after them is accepted as a yes or a no. -/
  | decision {refused hesitations : List Text} {model tables dataOutput rows : Text} :
    (∀ t ∈ refused, ¬ NamesModel t) → NamesModel model → (∀ t ∈ hesitations, ¬ Decides t) →
    CutOff s (refused ++ model :: tables :: dataOutput :: rows :: hesitations)
      (modelAttempts s refused ++ freeAttempts s ++ rememberQuestion.attempts hesitations)

theorem CutOff.length_attempts {s : Settings} {lines : List Text} {attempts : List Attempt}
    (h : CutOff s lines attempts) : attempts.length = lines.length + 1 := by
  have hfree : (freeAttempts s).length = 3 := rfl
  cases h with
  | model => exact Question.length_attempts _ _
  | free _ _ hanswers =>
    simp only [modelAttempts, Question.length_attempts, List.length_append, List.length_take,
      List.length_cons, hfree]
    omega
  | decision =>
    simp only [modelAttempts, Question.length_attempts, List.length_append, List.length_cons,
      hfree]
    omega

/-- Lines are refused one and all, or there is a first one that is not. -/
theorem refused_or_accepted (p : Text → Prop) [DecidablePred p] (lines : List Text) :
    (∀ t ∈ lines, ¬ p t) ∨ ∃ refused t more, lines = refused ++ t :: more ∧
      (∀ r ∈ refused, ¬ p r) ∧ p t := by
  cases h : lines.find? fun t => decide (p t) with
  | none =>
    have hnone := List.find?_eq_none.mp h
    exact Or.inl fun t ht hp => hnone t ht (decide_eq_true hp)
  | some t =>
    obtain ⟨ht, refused, more, rfl, hrefused⟩ := List.find?_eq_some_iff_append.mp h
    refine Or.inr ⟨refused, t, more, rfl, fun r hr => ?_, of_decide_eq_true ht⟩
    simpa only [Bool.not_eq_true', decide_eq_false_iff_not] using hrefused r hr

/-- Lines that do not begin with a script end too early. -/
theorem script_or_cutOff (s : Settings) (lines : List Text) :
    (∃ k : Script, k.lines <+: lines) ∨ ∃ attempts, CutOff s lines attempts := by
  obtain hrefused | ⟨refused, model, more, rfl, hrefused, hmodel⟩ :=
    refused_or_accepted NamesModel lines
  · exact Or.inr ⟨_, .model hrefused⟩
  by_cases hshort : more.length < 3
  · exact Or.inr ⟨_, .free hrefused hmodel hshort⟩
  · obtain ⟨tables, dataOutput, rows, last, rfl⟩ :
        ∃ tables dataOutput rows last, more = tables :: dataOutput :: rows :: last := by
      match more, hshort with
      | tables :: dataOutput :: rows :: last, _ => exact ⟨tables, dataOutput, rows, last, rfl⟩
      | [], h | [_], h | [_, _], h => exact absurd (by simp) h
    obtain hhesitations | ⟨hesitations, decision, rest, rfl, hhesitations, hdecision⟩ :=
      refused_or_accepted Decides last
    · exact Or.inr ⟨_, .decision hrefused hmodel hhesitations⟩
    · refine Or.inl ⟨⟨refused, model, tables, dataOutput, rows, hesitations, decision, hrefused,
        hmodel, hhesitations, hdecision⟩, rest, ?_⟩
      simp only [Script.lines, List.append_assoc, List.cons_append, List.nil_append]

/-! ## The questions in turn -/

section Asking

variable (s : Settings) {refused hesitations : List Text} {model : Text}

theorem modelQuestion_refuses (hrefused : ∀ t ∈ refused, ¬ NamesModel t) :
    ∀ t ∈ refused, (Memory.texts.modelQuestion s.model).answer? t = none := by
  intro t ht
  exact (modelOf_eq s.model t).trans (if_neg (hrefused t ht))

theorem rememberQuestion_refuses (hhesitations : ∀ t ∈ hesitations, ¬ Decides t) :
    ∀ t ∈ hesitations, rememberQuestion.answer? t = none := by
  intro t ht
  exact (yesNoOf_eq t).trans (if_neg (hhesitations t ht))

theorem ask_model_accepted (hrefused : ∀ t ∈ refused, ¬ NamesModel t) (hmodel : NamesModel model)
    (more : List Text) :
    (Memory.texts.modelQuestion s.model).ask (typed (refused ++ model :: more)) =
      ⟨display (modelAttempts s refused), .ok (kept s.model model), typed more⟩ := by
  apply Question.ask_accepted _ (modelQuestion_refuses s hrefused)
  exact (modelOf_eq s.model model).trans (if_pos hmodel)

theorem ask_free (question remembered line : Text) (more : List Text) :
    (Memory.texts.freeQuestion question remembered).ask (typed (line :: more)) =
      ⟨display ((Memory.texts.freeQuestion question remembered).attempts []),
        .ok (kept remembered line), typed more⟩ :=
  Question.ask_accepted _ (List.forall_mem_nil _)
    (congrArg some (orDefault_eq remembered line)) more

theorem ask_ended (question remembered : Text) :
    (Memory.texts.freeQuestion question remembered).ask (typed []) =
      ⟨display ((Memory.texts.freeQuestion question remembered).attempts []),
        .error exhausted, []⟩ := rfl

/-- The four questions, answered by a model and three lines. -/
theorem questions_answered (hrefused : ∀ t ∈ refused, ¬ NamesModel t) (hmodel : NamesModel model)
    (tables dataOutput rows : Text) (more : List Text) :
    Memory.texts.questions (.ofSettings s)
        (typed (refused ++ model :: tables :: dataOutput :: rows :: more)) =
      ⟨display (modelAttempts s refused ++ freeAttempts s),
        .ok ⟨kept s.model model, kept (Text.join [','] s.tables) tables,
          kept s.dataOutput dataOutput, kept s.syntheticGenerate rows⟩, typed more⟩ := by
  apply Reply.andThen_display (ask_model_accepted s hrefused hmodel _)
  apply Reply.andThen_display (ask_free _ _ tables _)
  apply Reply.andThen_display (ask_free _ _ dataOutput _)
  exact Reply.andThen_pure_display (ask_free _ _ rows more) _

/-- Lines that are no model leave the four questions at the first. -/
theorem questions_of_refused (hrefused : ∀ t ∈ refused, ¬ NamesModel t) :
    Memory.texts.questions (.ofSettings s) (typed refused) =
      ⟨display (modelAttempts s refused), .error exhausted, []⟩ := by
  apply Reply.andThen_display_of_error
  exact Question.ask_refused _ (modelQuestion_refuses s hrefused)

/-- Fewer than three lines after the model leave the four questions at one of the others. -/
theorem questions_of_short (hrefused : ∀ t ∈ refused, ¬ NamesModel t) (hmodel : NamesModel model)
    {answers : List Text} (hshort : answers.length < 3) :
    Memory.texts.questions (.ofSettings s) (typed (refused ++ model :: answers)) =
      ⟨display (modelAttempts s refused ++ (freeAttempts s).take (answers.length + 1)),
        .error exhausted, []⟩ := by
  apply Reply.andThen_display (ask_model_accepted s hrefused hmodel _)
  match answers, hshort with
  | [], _ => exact Reply.andThen_display_of_error (ask_ended _ _) _
  | [tables], _ =>
    apply Reply.andThen_display (ask_free _ _ tables _)
    exact Reply.andThen_display_of_error (ask_ended _ _) _
  | [tables, dataOutput], _ =>
    apply Reply.andThen_display (ask_free _ _ tables _)
    apply Reply.andThen_display (ask_free _ _ dataOutput _)
    exact Reply.andThen_display_of_error (ask_ended _ _) _

/-- With its four questions broken off, the interview is broken off. -/
theorem interview_of_questions_error {keys rest : Keyboard} {attempts : List Attempt} {f : Fault}
    (h : Memory.texts.questions (.ofSettings s) keys = ⟨display attempts, .error f, rest⟩) :
    interview s keys = ⟨welcome :: display attempts, .error f, rest⟩ := by
  simp only [interview, collect, Memory.collect, h, Reply.map, Reply.andThen, Except.map]

/-- With its four questions answered, the interview goes on with the fifth. -/
theorem interview_of_questions_ok {keys keys' rest : Keyboard} {attempts later : List Attempt}
    {a : Answers Text} {result : Except Fault Bool}
    (h : Memory.texts.questions (.ofSettings s) keys = ⟨display attempts, .ok a, keys'⟩)
    (hfifth : rememberQuestion.ask keys' = ⟨display later, result, rest⟩) :
    interview s keys =
      ⟨welcome :: display (attempts ++ later), result.map (a.options, ·), rest⟩ := by
  have hcollect : collect s keys = ⟨welcome :: display attempts, .ok a.options, keys'⟩ := by
    simp only [collect, Memory.collect, h, Reply.map, Except.map]
  have hconfirm : confirm keys' = ⟨display later, result, rest⟩ := hfifth
  rw [interview, hcollect]
  cases result with
  | error f =>
    simp only [Reply.andThen, hconfirm, display, List.flatMap_append, List.cons_append,
      Except.map]
  | ok wanted =>
    simp only [Reply.andThen, hconfirm, Reply.pure, display, List.flatMap_append,
      List.cons_append, List.append_nil, Except.map]

end Asking

/-! ## The interview -/

theorem Script.options_eq (k : Script) (s : Settings) :
    k.options s = Answers.options ⟨kept s.model k.model, kept (Text.join [','] s.tables) k.tables,
      kept s.dataOutput k.dataOutput, kept s.syntheticGenerate k.rows⟩ := by
  apply Options.ext_get
  intro f
  cases f <;> rfl

/-- The model is the remembered one or a choice. -/
theorem Script.exists_model (k : Script) (s : Settings) :
    ∃ model ∈ s.model :: models, (k.options s).get .model = some model := by
  refine ⟨kept s.model k.model, ?_, rfl⟩
  obtain hempty | hchoice := k.model_spec
  · rw [kept, if_pos hempty]
    exact List.mem_cons_self
  · rw [kept]
    split
    · exact List.mem_cons_self
    · exact List.mem_cons_of_mem _ hchoice

theorem interview_of_script (s : Settings) (k : Script) (more : List Text) :
    interview s (typed (k.lines ++ more)) =
      ⟨welcome :: display (k.attempts s), .ok (k.options s, k.wanted), typed more⟩ := by
  have hlines : k.lines ++ more = k.refused ++ k.model :: k.tables :: k.dataOutput :: k.rows ::
      (k.hesitations ++ k.decision :: more) := by
    simp only [Script.lines, List.append_assoc, List.cons_append, List.nil_append]
  have hquestions := questions_answered s k.refused_spec k.model_spec k.tables k.dataOutput k.rows
    (k.hesitations ++ k.decision :: more)
  have hdecision : rememberQuestion.answer? k.decision = some k.wanted :=
    (yesNoOf_eq k.decision).trans (if_pos k.decision_spec)
  have hfifth := rememberQuestion.ask_accepted (rememberQuestion_refuses k.hesitations_spec)
    hdecision more
  rw [hlines, k.options_eq]
  exact interview_of_questions_ok s hquestions hfifth

theorem interview_of_cutOff {s : Settings} {lines : List Text} {attempts : List Attempt}
    (h : CutOff s lines attempts) :
    interview s (typed lines) = ⟨welcome :: display attempts, .error exhausted, []⟩ := by
  cases h with
  | model hrefused => exact interview_of_questions_error s (questions_of_refused s hrefused)
  | free hrefused hmodel hshort =>
    exact interview_of_questions_error s (questions_of_short s hrefused hmodel hshort)
  | decision hrefused hmodel hhesitations =>
    have hfifth := rememberQuestion.ask_refused (rememberQuestion_refuses hhesitations)
    have hquestions := questions_answered s hrefused hmodel
    exact interview_of_questions_ok s (hquestions _ _ _ _) hfifth

/-- **What answers an interview.** It is answered exactly by the lines that begin with a script,
and takes these and no more. Each answer is what its line leaves of the remembered one, a
line of blanks leaves nothing, and the model is always a choice or the remembered model.
All other lines are taken up to the end of the input, which is the fault. Each line that is
taken is an attempt to read, with one prompt and, if it is refused, one remark, and the
end of the input is another attempt. -/
theorem interview_answered_iff_script (s : Settings) (lines : List Text) :
    ((∃ answer, (interview s (typed lines)).result = .ok answer) ↔
      ∃ k : Script, k.lines <+: lines) ∧
    (∀ (k : Script) (more : List Text), lines = k.lines ++ more →
      interview s (typed lines) =
        ⟨welcome :: display (k.attempts s), .ok (k.options s, k.wanted), typed more⟩ ∧
      (k.attempts s).length = k.lines.length ∧
      ∃ model ∈ s.model :: models, (k.options s).get .model = some model) ∧
    ((¬ ∃ k : Script, k.lines <+: lines) → ∃ attempts, CutOff s lines attempts ∧
      attempts.length = lines.length + 1 ∧
      interview s (typed lines) = ⟨welcome :: display attempts, .error exhausted, []⟩) ∧
    (∀ remembered line : Text, line ≠ [] → line.isBlank = true → kept remembered line = []) := by
  refine ⟨⟨?_, ?_⟩, ?_, ?_, ?_⟩
  · rintro ⟨answer, hanswer⟩
    obtain hscript | ⟨attempts, hcut⟩ := script_or_cutOff s lines
    · exact hscript
    · rw [interview_of_cutOff hcut] at hanswer
      cases hanswer
  · rintro ⟨k, more, rfl⟩
    exact ⟨_, congrArg Reply.result (interview_of_script s k more)⟩
  · rintro k more rfl
    exact ⟨interview_of_script s k more, k.length_attempts s, k.exists_model s⟩
  · intro hnone
    obtain ⟨attempts, hcut⟩ := (script_or_cutOff s lines).resolve_left hnone
    exact ⟨attempts, hcut, hcut.length_attempts, interview_of_cutOff hcut⟩
  · intro remembered line hne hblank
    exact kept_of_isBlank hne hblank remembered

/-- Settings with a model that is no choice. -/
def outdated : Settings where
  model := "Legacy"
  tables := ["a", "b"]
  dataOutput := "out.sql"
  syntheticGenerate := "a(1)"

/-- A script with two lines that are no model and one that is neither yes nor no. -/
def reluctant : Script where
  refused := ["MySQL", " "]
  model := ""
  tables := " x "
  dataOutput := "  "
  rows := ""
  hesitations := ["maybe"]
  decision := " Y "
  refused_spec := by decide +kernel
  model_spec := by decide +kernel
  hesitations_spec := by decide +kernel
  decision_spec := by decide +kernel

theorem interview_answered_iff_script_reluctant :
    interview outdated (typed ["MySQL", " ", "", " x ", "  ", "", "maybe", " Y ", "left"]) =
      ⟨welcome :: display (reluctant.attempts outdated), .ok (reluctant.options outdated, true),
        typed ["left"]⟩ ∧
    Flag.all.map (reluctant.options outdated).get =
      ([some "Legacy", some "x", none, none, some "", some "a(1)", none] : List (Option Text)) ∧
    (interview outdated (typed ["HR", "", ""])).result = .error exhausted := by
  have hwanted : reluctant.wanted = true := by decide +kernel
  have hlines : (["MySQL", " ", "", " x ", "  ", "", "maybe", " Y ", "left"] : List Text) =
      reluctant.lines ++ [Text.ofString "left"] := by
    decide +kernel
  obtain ⟨-, hscript, -, -⟩ := interview_answered_iff_script outdated
    ["MySQL", " ", "", " x ", "  ", "", "maybe", " Y ", "left"]
  obtain ⟨-, -, hcut, -⟩ := interview_answered_iff_script outdated ["HR", "", ""]
  have hnone : ¬ ∃ k : Script, k.lines <+: ["HR", "", ""] := by
    rintro ⟨k, hprefix⟩
    have hlength := hprefix.length_le
    simp only [Script.lines, List.length_append, List.length_cons, List.length_nil] at hlength
    omega
  obtain ⟨attempts, -, -, heq⟩ := hcut hnone
  refine ⟨?_, by decide +kernel, congrArg Reply.result heq⟩
  rw [← hwanted]
  exact (hscript reluctant ["left"] hlines).1

end SynthDesk.Interview
