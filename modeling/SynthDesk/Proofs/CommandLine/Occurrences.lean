/-
From a command line of options to the engine's command.

A command line that is nothing but options is a sequence of occurrences, each
in one of the forms that an option can be given in. Reading it takes one
occurrence after another, whatever the texts look like: a text that follows its
option in an argument of its own is never looked at as an option. What has been
read after some occurrences is what they say last about each parameter, and
from there the engine's command follows.

Only where a letter and its text are one argument the forms can be confused:
the argument, up to its first equals sign, must not be a long spelling.
-/
import SynthDesk.Proofs.Program.Opening

set_option autoImplicit false

namespace SynthDesk.CommandLine

/-! ## Occurrences -/

/-- The equals sign. -/
abbrev equals : CodePoint := CodePoint.ofChar '='

/-- The long spelling of a parameter with one dash, or with two. -/
def longSpelling (doubled : Bool) (f : Flag) : Text :=
  if doubled then dash :: dash :: f.name else dash :: f.name

/-- All long spellings, those of the switches among them. -/
def registered : List Text :=
  Flag.all.flatMap longSpellings ++ [Switch.verbose, .version, .help].map switchSpelling

/-- The forms in which a parameter is given. -/
inductive Form
  /-- A long spelling, and the text in the next argument. -/
  | long (doubled : Bool)
  /-- A long spelling, an equals sign and the text. -/
  | longWithEquals (doubled : Bool)
  /-- The letter, and the text in the next argument. -/
  | letter
  /-- The letter with the text right after it. -/
  | letterWithText
deriving DecidableEq, Repr

/-- The arguments of a parameter in a form. -/
def Form.arguments (form : Form) (f : Flag) (text : Text) : List Text :=
  match form with
  | long doubled => [longSpelling doubled f, text]
  | longWithEquals doubled => [longSpelling doubled f ++ equals :: text]
  | letter => [[dash, letterOf f], text]
  | letterWithText => [dash :: letterOf f :: text]

/-- A text can be given in a form. Right after a letter it must not be empty, and
the argument up to its first equals sign must not be a long spelling. -/
def Form.Fits (form : Form) (f : Flag) (text : Text) : Prop :=
  match form with
  | letterWithText =>
    text ≠ [] ∧ (dash :: letterOf f :: text).takeWhile (· != equals) ∉ registered
  | _ => True

instance (form : Form) (f : Flag) (text : Text) : Decidable (form.Fits f text) :=
  match form with
  | .letterWithText => inferInstanceAs (Decidable (text ≠ [] ∧
      (dash :: letterOf f :: text).takeWhile (· != equals) ∉ registered))
  | .long _ | .longWithEquals _ | .letter => inferInstanceAs (Decidable True)

/-- One option on a command line. -/
inductive Occurrence
  | verbose (long : Bool)
  | parameter (form : Form) (f : Flag) (text : Text) (fits : form.Fits f text)

/-- The arguments of an occurrence. -/
def Occurrence.arguments : Occurrence → List Text
  | verbose long => if long then [switchSpelling .verbose] else ["-v"]
  | parameter form f text _ => form.arguments f text

/-- **The command line** of occurrences. -/
def spelledOut (os : List Occurrence) : List Text := os.flatMap Occurrence.arguments

/-- It is the switch that makes the log verbose. -/
def Occurrence.isVerbose : Occurrence → Bool
  | verbose _ => true
  | parameter _ _ _ _ => false

/-- The text that an occurrence gives to a parameter. -/
def Occurrence.textFor (f : Flag) : Occurrence → Option Text
  | verbose _ => none
  | parameter _ g text _ => if g = f then some text else none

/-- **The last text** that a parameter is given. -/
def lastText (f : Flag) (os : List Occurrence) : Option Text :=
  (os.filterMap (Occurrence.textFor f)).getLast?

theorem lastText_concat (f : Flag) (os : List Occurrence) (o : Occurrence) :
    lastText f (os ++ [o]) = (o.textFor f).or (lastText f os) := by
  rw [lastText, List.filterMap_append, List.getLast?_append, lastText]
  cases ho : o.textFor f with
  | none => simp [ho]
  | some t => simp [ho]

/-! ## Spellings -/

theorem longMeaning?_longSpelling (doubled : Bool) (f : Flag) :
    longMeaning? (longSpelling doubled f) = some (.parameter f) := by
  cases doubled <;> cases f <;> decide

theorem longMeaning?_of_not_registered {t : Text} (ht : t ∉ registered) :
    longMeaning? t = none := by
  rw [registered, List.mem_append, not_or] at ht
  obtain ⟨hparameters, hswitches⟩ := ht
  have hflag : (Flag.all.find? fun f => (longSpellings f).contains t) = none := by
    rw [List.find?_eq_none]
    intro f hf hspelled
    exact hparameters (List.mem_flatMap.mpr ⟨f, hf, List.contains_iff_mem.mp hspelled⟩)
  have hswitch :
      ([Switch.verbose, .version, .help].find? fun s => switchSpelling s = t) = none := by
    rw [List.find?_eq_none]
    intro s hs hspelled
    exact hswitches (List.mem_map.mpr ⟨s, hs, of_decide_eq_true hspelled⟩)
  rw [longMeaning?, hflag]
  simp only [hswitch, Option.map_none]

theorem letterMeaning?_letterOf (f : Flag) : letterMeaning? (letterOf f) = some (.parameter f) := by
  cases f <;> decide

theorem letterOf_ne_dash (f : Flag) : letterOf f ≠ dash := by
  cases f <;> decide

theorem equals_not_mem_longSpelling (doubled : Bool) (f : Flag) :
    equals ∉ longSpelling doubled f := by
  cases doubled <;> cases f <;> decide

/-! ## Single arguments -/

theorem cutAtEquals_fst (a : Text) : (cutAtEquals a).1 = a.takeWhile (· != equals) := by
  have hcut : a.takeWhile (· != equals) ++ a.dropWhile (· != equals) = a :=
    List.takeWhile_append_dropWhile
  rw [cutAtEquals]
  split
  case h_1 hnone =>
    rw [hnone, List.append_nil] at hcut
    exact hcut.symm
  case h_2 => rfl

/-- What stands before the first equals sign is cut off there. -/
theorem cutAtEquals_append {a : Text} (ha : equals ∉ a) (text : Text) :
    cutAtEquals (a ++ equals :: text) = (a, some text) := by
  have hbefore : ∀ c ∈ a, (c != equals) = true := by
    intro c hc
    rw [bne_iff_ne]
    rintro rfl
    exact ha hc
  have hdrop : (a ++ equals :: text).dropWhile (· != equals) = equals :: text :=
    List.dropWhile_append_of_pos hbefore
  have htake : (a ++ equals :: text).takeWhile (· != equals) = a := by
    rw [List.takeWhile_append_of_pos hbefore]
    exact List.append_nil a
  rw [cutAtEquals, hdrop]
  simp only [htake]

/-- An argument that begins with a long spelling is tried as an option. -/
theorem Token.of_longSpelling (doubled : Bool) (f : Flag) (r : Text) :
    Token.of (longSpelling doubled f ++ r) = optionToken (longSpelling doubled f ++ r) := by
  cases doubled <;> cases f <;> rfl

/-- A long spelling alone waits for its text. -/
theorem Token.of_long (doubled : Bool) (f : Flag) :
    Token.of (longSpelling doubled f) =
      .options [] (.awaited f (longSpelling doubled f)) := by
  cases doubled <;> cases f <;> decide

/-- A long spelling with an equals sign has its text. -/
theorem Token.of_longWithEquals (doubled : Bool) (f : Flag) (text : Text) :
    Token.of (longSpelling doubled f ++ equals :: text) = .options [] (.given f text) := by
  rw [Token.of_longSpelling, optionToken.eq_def,
    cutAtEquals_append (equals_not_mem_longSpelling doubled f) text]
  simp only [longMeaning?_longSpelling]

/-- A letter alone waits for its text. -/
theorem Token.of_letter (f : Flag) :
    Token.of [dash, letterOf f] = .options [] (.awaited f [dash, letterOf f]) := by
  cases f <;> decide

/-- A letter with a text after it has it, if the argument is no long spelling. -/
theorem Token.of_letterWithText {f : Flag} {text : Text} (hfits : Form.letterWithText.Fits f text) :
    Token.of (dash :: letterOf f :: text) = .options [] (.given f text) := by
  obtain ⟨htext, hlong⟩ := hfits
  have hmeaning : longMeaning? (cutAtEquals (dash :: letterOf f :: text)).1 = none := by
    rw [cutAtEquals_fst]
    exact longMeaning?_of_not_registered hlong
  have hoption : Token.of (dash :: letterOf f :: text) =
      optionToken (dash :: letterOf f :: text) := by
    simp [Token.of, letterOf_ne_dash f]
  have hnonempty : text.isEmpty = false := List.isEmpty_eq_false_iff.mpr htext
  rw [hoption, optionToken]
  simp only [hmeaning, if_neg (letterOf_ne_dash f), cluster, letterMeaning?_letterOf, hnonempty,
    Bool.false_eq_true, if_false]

theorem Token.of_verbose (long : Bool) :
    Token.of (if long then switchSpelling .verbose else "-v") = .options [.verbose] .closed := by
  cases long <;> decide

/-! ## One occurrence after another -/

/-- What has been read after an occurrence. -/
def Reading.after (seen : Reading) : Occurrence → Reading
  | .verbose _ => seen.switch .verbose
  | .parameter _ f text _ => seen.assign f text

/-- **One occurrence is read as what it is**, whatever comes after it. -/
theorem scan_arguments (seen : Reading) (o : Occurrence) (rest : List Text) :
    scan seen (o.arguments ++ rest) = scan (seen.after o) rest := by
  cases o with
  | verbose long =>
    have harguments : (Occurrence.verbose long).arguments =
        [if long then switchSpelling .verbose else "-v"] := by
      cases long <;> rfl
    rw [harguments, List.singleton_append, scan, Token.of_verbose]
    rfl
  | parameter form f text hfits =>
    cases form with
    | long doubled =>
      -- The text is taken before anybody looks at what kind of argument it is.
      show scan seen (longSpelling doubled f :: text :: rest) = _
      rw [scan, Token.of_long]
      rfl
    | longWithEquals doubled =>
      show scan seen ((longSpelling doubled f ++ equals :: text) :: rest) = _
      rw [scan, Token.of_longWithEquals]
      rfl
    | letter =>
      show scan seen ([dash, letterOf f] :: text :: rest) = _
      rw [scan, Token.of_letter]
      rfl
    | letterWithText =>
      show scan seen ((dash :: letterOf f :: text) :: rest) = _
      rw [scan, Token.of_letterWithText hfits]
      rfl

/-- **What has been read** after some occurrences: the last text for each
parameter, the switch if it was there, and nothing else. -/
structure Reading.Collects (os : List Occurrence) (seen : Reading) : Prop where
  get : ∀ f, seen.options.get f = lastText f os
  verbose : seen.verbose = os.any Occurrence.isVerbose
  requests : seen.requests = []
  extra : seen.extra = []

namespace Reading.Collects

variable {os : List Occurrence} {seen : Reading}

theorem empty : Collects [] .empty := ⟨fun _ => rfl, rfl, rfl, rfl⟩

/-- One more occurrence is collected. -/
theorem after (h : Collects os seen) (o : Occurrence) : Collects (os ++ [o]) (seen.after o) := by
  cases o with
  | verbose long =>
    refine ⟨?_, ?_, h.requests, h.extra⟩
    · intro f
      rw [lastText_concat]
      exact h.get f
    · rw [List.any_append]
      simp [Reading.after, Reading.switch, Occurrence.isVerbose]
  | parameter form g text hfits =>
    refine ⟨?_, ?_, h.requests, h.extra⟩
    · intro f
      rw [lastText_concat]
      by_cases hf : f = g
      · subst hf
        simp [Reading.after, Reading.assign, Options.get_set_self, Occurrence.textFor]
      · have hget : (seen.options.set g (some text)).get f = seen.options.get f :=
          Options.get_set_of_ne _ hf _
        simp [Reading.after, Reading.assign, hget, Occurrence.textFor, Ne.symm hf, h.get f]
    · rw [List.any_append]
      simp [Reading.after, Reading.assign, Occurrence.isVerbose, h.verbose]

/-- **A whole command line is collected.** -/
theorem scan (h : Collects os seen) (later : List Occurrence) :
    ∃ seen', CommandLine.scan seen (spelledOut later) = .ok seen' ∧
      Collects (os ++ later) seen' := by
  -- Each occurrence moves from the front of what is to come to the end of what was read.
  induction later generalizing os seen with
  | nil => exact ⟨seen, rfl, by rwa [List.append_nil]⟩
  | cons o r ih =>
    obtain ⟨seen', hscan, hcollects⟩ := ih (h.after o)
    refine ⟨seen', ?_, ?_⟩
    · rw [spelledOut, List.flatMap_cons, scan_arguments]
      exact hscan
    · rwa [List.append_assoc, List.singleton_append] at hcollects

end Reading.Collects

/-! ## The engine's command -/

/-- The engine's arguments for the last texts: a dash with the flag, and the text,
for each parameter whose last text is not empty. -/
def lastArguments (os : List Occurrence) : List Text :=
  [Flag.model, .tables, .diagram, .schemaOutput, .dataOutput, .syntheticGenerate,
    .mockApiKey].flatMap fun f =>
      match lastText f os with
      | some (c :: r) => [dash :: f.name, c :: r]
      | _ => []

/-- Options that hold the last texts give the arguments for them. -/
theorem directArguments_eq {o : Options} {os : List Occurrence}
    (hget : ∀ f, o.get f = lastText f os) : o.directArguments = lastArguments os := by
  rw [Options.directArguments, Options.arguments]
  refine congrArg (fun g => List.flatMap g KeyOrder.direct) (funext fun f => ?_)
  -- Flag by flag: nothing for no text and for an empty one, and else the same two arguments.
  rw [Options.requested, hget f]
  cases lastText f os with
  | none => rfl
  | some t =>
    cases t with
    | nil => rfl
    | cons c r => rfl

theorem spelledOut_ne_nil {os : List Occurrence} (hos : os ≠ []) : spelledOut os ≠ [] := by
  cases os with
  | nil => exact absurd rfl hos
  | cons o r =>
    intro hnil
    rw [spelledOut, List.flatMap_cons, List.append_eq_nil_iff] at hnil
    cases o with
    | verbose long => cases long <;> cases hnil.1
    | parameter form f text hfits => cases form <;> cases hnil.1

/-- **From the command line to the engine's command.** Any sequence of options, in
any of their forms and with any texts, is accepted. Each parameter gets the text
that was given to it last, as it stands, and none if there was no text; the
engine's command has the runtime, the archive, and a dash with the flag and the
text for those that are not empty, in the engine's order. It is what the program
tries to start wherever the log is set up and the summary is shown. And the last texts are all
that counts: a command line with the same ones is read as the same options. -/
theorem parse_spelledOut (os : List Occurrence) :
    ∃ o : Options, parse (spelledOut os) = .ok (.generate o (os.any Occurrence.isVerbose)) ∧
      (∀ f, o.get f = lastText f os) ∧
      (∀ location : Engine.Location, location.command o.directArguments =
        location.runtime :: Text.ofString "-jar" :: location.jar :: lastArguments os) ∧
      (∀ (w : Program.Surroundings) panel, os ≠ [] →
        Program.setUpFault w (os.any Occurrence.isVerbose) = none →
        Session.SummaryShown w.screen o panel →
          (Program.run w (spelledOut os)).command =
            some (w.environment.location.command o.directArguments)) ∧
      (∀ os', (∀ f, lastText f os' = lastText f os) →
        parse (spelledOut os') = .ok (.generate o (os'.any Occurrence.isVerbose))) := by
  have hparse : ∀ os, ∃ o : Options,
      parse (spelledOut os) = .ok (.generate o (os.any Occurrence.isVerbose)) ∧
        ∀ f, o.get f = lastText f os := by
    intro os
    obtain ⟨seen, hscan, hcollects⟩ := Reading.Collects.empty.scan os
    rw [List.nil_append] at hcollects
    refine ⟨seen.options, ?_, hcollects.get⟩
    rw [parse, hscan]
    simp only [Reading.invocation, hcollects.requests, hcollects.extra, hcollects.verbose]
  obtain ⟨o, ho, hget⟩ := hparse os
  refine ⟨o, ho, hget, ?_, ?_, ?_⟩
  · intro location
    rw [directArguments_eq hget, Engine.Location.command]
  · intro w panel hos hready hpanel
    exact Program.Carries.command_eq ⟨spelledOut_ne_nil hos, ho, hready⟩ hpanel
  · intro os' hsame
    obtain ⟨o', ho', hget'⟩ := hparse os'
    have heq : o' = o := Options.ext_get fun f => by rw [hget', hsame, hget]
    rw [ho', heq]

/-- A text that looks like an option and one that is two dashes; a letter that
only just does not make up a long spelling; and a model that is given up again. -/
def tangled : List Occurrence :=
  [.parameter (.long false) .model "-tables" trivial,
    .parameter .letterWithText .diagram "iagra=m" (by decide),
    .verbose true,
    .parameter (.longWithEquals true) .dataOutput "a=b c" trivial,
    .parameter .letter .tables "--" trivial,
    .parameter .letterWithText .model "=HR" (by decide),
    .parameter (.longWithEquals false) .model [] trivial]

/-- Surroundings with nothing set and no file, and an engine that does nothing. -/
def quietSurroundings : Program.Surroundings :=
  ⟨⟨none, none, none⟩, Session.bareDesk.tree, [], .starts [], Session.plainScreen, 2⟩

/-- The tables are two dashes. -/
def dashesForTables : List Occurrence := [.parameter .letter .tables "--" trivial]

theorem parse_spelledOut_tangled :
    spelledOut tangled = [Text.ofString "-model", Text.ofString "-tables",
        Text.ofString "-diagra=m", Text.ofString "--verbose", Text.ofString "--dataOutput=a=b c",
        Text.ofString "-t", Text.ofString "--", Text.ofString "-m=HR", Text.ofString "-model="] ∧
      (∃ o : Options, parse (spelledOut tangled) = .ok (.generate o true) ∧
        o.get .model = some [] ∧
        Engine.Location.standard.command o.directArguments =
          [Text.ofString "java", Text.ofString "-jar",
            Text.ofString "../core/target/smg-core-1.0.0.jar",
            Text.ofString "-tables", Text.ofString "--",
            Text.ofString "-diagram", Text.ofString "iagra=m",
            Text.ofString "-dataOutput", Text.ofString "a=b c"]) ∧
      (Program.run quietSurroundings (spelledOut dashesForTables)).command =
        some [Text.ofString "java", Text.ofString "-jar",
          Text.ofString "../core/target/smg-core-1.0.0.jar",
          Text.ofString "-tables", Text.ofString "--"] := by
  refine ⟨by decide, ?_, ?_⟩
  · obtain ⟨o, hparse, hget, hcommand, -, -⟩ := parse_spelledOut tangled
    refine ⟨o, hparse, hget .model, ?_⟩
    rw [hcommand]
    decide
  · obtain ⟨o, -, hget, hcommand, hrun, -⟩ := parse_spelledOut dashesForTables
    obtain ⟨panel, hpanel⟩ := Session.exists_summaryShown Session.plainScreen
      (o := ⟨fun f => lastText f dashesForTables⟩) (by decide +kernel) rfl
    have ho : o = ⟨fun f => lastText f dashesForTables⟩ := Options.ext_get hget
    rw [← ho] at hpanel
    have hready : Program.setUpFault quietSurroundings
        (dashesForTables.any Occurrence.isVerbose) = none := by
      decide +kernel
    rw [hrun quietSurroundings panel (List.cons_ne_nil _ _) hready hpanel, hcommand]
    decide

end SynthDesk.CommandLine
