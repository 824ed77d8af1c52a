/-
Command lines one after the other.

A command line that is cut after a complete option can be read in two parts. What
comes before the cut has no say in how the rest is read: which arguments are options,
which are texts and what is refused, and with which words, is the same as if the rest
stood alone. All that is carried over the cut is a record of what was asked for, and of
that the rest keeps what it does not ask for itself.

There are two parts to the argument. Complete options, letters of the switch that makes
the log verbose put together behind one dash among them, are read as a record; and a
reading that begins with a record comes to what it comes to without one, put on top of
the record.
-/
import SynthDesk.Proofs.CommandLine.Occurrences

set_option autoImplicit false

namespace SynthDesk

/-- What is asked for now, and what was asked for before where nothing is. -/
def Options.over (before now : Options) : Options := ⟨fun f => (now.get f).or (before.get f)⟩

namespace CommandLine

/-! ## Letters behind one dash -/

/-- The letter of the switch that makes the log verbose. -/
def verboseLetter : CodePoint := CodePoint.ofChar 'v'

/-- How a cluster of that letter ends: with it, or with the letter of a parameter, whose
text is the next argument or what is left of this one. -/
inductive Ending
  | bare
  | awaited (f : Flag) (text : Text)
  | attached (f : Flag) (text : Text) (nonempty : text ≠ [])

/-- What stands after the letters of the switch. -/
def Ending.letters : Ending → Text
  | bare => []
  | awaited f _ => [letterOf f]
  | attached f text _ => letterOf f :: text

/-- The argument after the cluster, if it belongs to it. -/
def Ending.next : Ending → List Text
  | awaited _ text => [text]
  | bare | attached _ _ _ => []

/-- The parameter that a cluster ends with, as an option by itself. -/
def Ending.occurrences : Ending → List Occurrence
  | bare => []
  | awaited f text | attached f text _ => [.parameter .letter f text trivial]

/-- **Complete options**: one by itself, or a cluster of the letter of the switch, once and
then some more times, with its ending. -/
inductive Group
  | alone (o : Occurrence)
  | cluster (more : Nat) (ending : Ending)

/-- The arguments of complete options. -/
def Group.arguments : Group → List Text
  | alone o => o.arguments
  | cluster more ending =>
    (dash :: (List.replicate (more + 1) verboseLetter ++ ending.letters)) :: ending.next

/-- What complete options say, option by option. -/
def Group.occurrences : Group → List Occurrence
  | alone o => [o]
  | cluster more ending => List.replicate (more + 1) (.verbose false) ++ ending.occurrences

/-- **A command line of complete options.** -/
def grouped (gs : List Group) : List Text := gs.flatMap Group.arguments

/-- All that it says, option by option. -/
def asked (gs : List Group) : List Occurrence := gs.flatMap Group.occurrences

/-! ## Reading complete options -/

/-- No long spelling begins with a dash and the letter of the switch. -/
theorem not_registered_verboseLetter (r : Text) : dash :: verboseLetter :: r ∉ registered := by
  intro hmem
  have hsecond : ∀ t ∈ registered, t[1]? ≠ some verboseLetter := by decide
  exact hsecond _ hmem rfl

/-- So an argument that begins with them is a cluster, wherever its first equals sign is. -/
theorem Token.of_verboseLetter (r : Text) :
    Token.of (dash :: verboseLetter :: r) = cluster (verboseLetter :: r) := by
  have hdash : verboseLetter ≠ dash := by decide
  have htake : (dash :: verboseLetter :: r).takeWhile (· != equals) =
      dash :: verboseLetter :: r.takeWhile (· != equals) := rfl
  have hmeaning : longMeaning? (cutAtEquals (dash :: verboseLetter :: r)).1 = none := by
    rw [cutAtEquals_fst, htake]
    exact longMeaning?_of_not_registered (not_registered_verboseLetter _)
  have hoption : Token.of (dash :: verboseLetter :: r) =
      optionToken (dash :: verboseLetter :: r) := by
    simp [Token.of, hdash]
  rw [hoption, optionToken]
  simp only [hmeaning, if_neg hdash]

/-- Each letter of the switch goes before what the rest of a cluster is. -/
theorem cluster_replicate {r : Text} {switches : List Switch} {tail : Tail}
    (h : cluster r = .options switches tail) (n : Nat) :
    cluster (List.replicate n verboseLetter ++ r) =
      .options (List.replicate n .verbose ++ switches) tail := by
  induction n with
  | zero => exact h
  | succ n ih =>
    have hletter : letterMeaning? verboseLetter = some (.switch .verbose) := by decide
    rw [List.replicate_succ, List.cons_append, cluster, hletter]
    simp only [ih]
    rw [List.replicate_succ, List.cons_append]

/-- What an ending says about the text of its parameter. -/
def Ending.tail : Ending → Tail
  | bare => .closed
  | awaited f _ => .awaited f [dash, letterOf f]
  | attached f text _ => .given f text

theorem cluster_letters (e : Ending) : cluster e.letters = .options [] e.tail := by
  cases e with
  | bare => rfl
  | awaited f text =>
    rw [Ending.letters, cluster, letterMeaning?_letterOf]
    rfl
  | attached f text hne =>
    have hsome : text.isEmpty = false := List.isEmpty_eq_false_iff.mpr hne
    rw [Ending.letters, cluster, letterMeaning?_letterOf]
    simp only [hsome, Bool.false_eq_true, if_false, Ending.tail]

/-- What has been read after some occurrences. -/
def Reading.afterAll (seen : Reading) (os : List Occurrence) : Reading :=
  os.foldl Reading.after seen

theorem Reading.afterAll_append (seen : Reading) (os later : List Occurrence) :
    seen.afterAll (os ++ later) = (seen.afterAll os).afterAll later := by
  rw [afterAll, List.foldl_append]
  rfl

/-- The switches of a cluster are as many options. -/
theorem Reading.switches_replicate (seen : Reading) (n : Nat) :
    seen.switches (List.replicate n .verbose) =
      seen.afterAll (List.replicate n (.verbose false)) := by
  induction n generalizing seen with
  | zero => rfl
  | succ n ih =>
    rw [List.replicate_succ, List.replicate_succ]
    exact ih (seen.switch .verbose)

/-- **Complete options are read as what they say**, whatever comes after them. -/
theorem scan_group (seen : Reading) (g : Group) (rest : List Text) :
    scan seen (g.arguments ++ rest) = scan (seen.afterAll g.occurrences) rest := by
  cases g with
  | alone o => exact scan_arguments seen o rest
  | cluster more ending =>
    have htoken : Token.of (dash :: (List.replicate (more + 1) verboseLetter ++ ending.letters)) =
        .options (List.replicate (more + 1) .verbose) ending.tail := by
      have hcluster := cluster_replicate (cluster_letters ending) (more + 1)
      rw [List.append_nil] at hcluster
      exact (Token.of_verboseLetter _).trans hcluster
    rw [Group.arguments, List.cons_append, scan, htoken, Group.occurrences,
      Reading.afterAll_append, ← Reading.switches_replicate]
    -- The parameter at the end takes its text from where the ending has put it.
    cases ending with
    | bare => rfl
    | awaited f text => rfl
    | attached f text hne => rfl

theorem scan_grouped (seen : Reading) (gs : List Group) (rest : List Text) :
    scan seen (grouped gs ++ rest) = scan (seen.afterAll (asked gs)) rest := by
  induction gs generalizing seen with
  | nil => rfl
  | cons g gs ih =>
    have hargs : grouped (g :: gs) = g.arguments ++ grouped gs := List.flatMap_cons
    have hasked : asked (g :: gs) = g.occurrences ++ asked gs := List.flatMap_cons
    rw [hargs, hasked, List.append_assoc, scan_group, ih, Reading.afterAll_append]

/-- All occurrences are collected. -/
theorem Reading.Collects.afterAll {os : List Occurrence} {seen : Reading}
    (h : Reading.Collects os seen) (later : List Occurrence) :
    Reading.Collects (os ++ later) (seen.afterAll later) := by
  induction later generalizing os seen with
  | nil => rwa [List.append_nil]
  | cons o r ih =>
    have hmore := ih (h.after o)
    rwa [List.append_assoc, List.singleton_append] at hmore

/-! ## Reading on -/

/-- What is read now, on top of what was read before. -/
def Reading.over (before now : Reading) : Reading where
  options := before.options.over now.options
  verbose := before.verbose || now.verbose
  requests := before.requests ++ now.requests
  extra := before.extra ++ now.extra

section Over

variable (before now : Reading)

/-- On top of nothing more there is what was there. -/
theorem Reading.over_empty : before.over .empty = before := by
  simp [Reading.over, Options.over, Reading.empty, Options.empty]

theorem Reading.over_switch (s : Switch) :
    (before.over now).switch s = before.over (now.switch s) := by
  cases s <;> simp [Reading.over, Reading.switch]

theorem Reading.over_switches (ss : List Switch) :
    (before.over now).switches ss = before.over (now.switches ss) := by
  induction ss generalizing now with
  | nil => rfl
  | cons s r ih =>
    have hstep : ∀ seen : Reading, seen.switches (s :: r) = (seen.switch s).switches r :=
      fun _ => rfl
    rw [hstep, hstep, Reading.over_switch, ih]

theorem Reading.over_assign (f : Flag) (text : Text) :
    (before.over now).assign f text = before.over (now.assign f text) := by
  have hoptions : (before.options.over now.options).set f (some text) =
      before.options.over (now.options.set f (some text)) := by
    apply Options.ext_get
    intro g
    by_cases hg : g = f
    · simp [Options.over, Options.set, hg]
    · simp [Options.over, Options.set, hg]
  rw [Reading.assign, Reading.over, hoptions]
  rfl

/-- **A reading that goes on comes to the same**, on top of what was read before. -/
theorem scan_over (args : List Text) :
    scan (before.over now) args = (scan now args).map before.over := by
  -- Along the reader: what has been read is put on top step by step, and what is refused is
  -- refused for the argument's sake alone.
  fun_induction scan now args with
  | case1 now => rfl
  | case2 now a r htoken =>
    rw [scan, htoken]
    simp [Reading.over, Except.map]
  | case3 now a r htoken ih =>
    rw [scan, htoken]
    simpa [Reading.over] using ih
  | case4 now a r e htoken =>
    rw [scan, htoken]
    rfl
  | case5 now a r switches htoken ih =>
    rw [scan, htoken]
    simp only [Reading.over_switches]
    exact ih
  | case6 now a r switches f text htoken ih =>
    rw [scan, htoken]
    simp only [Reading.over_switches, Reading.over_assign]
    exact ih
  | case7 now a switches f spelling htoken =>
    rw [scan, htoken]
    rfl
  | case8 now a switches f spelling htoken text r ih =>
    rw [scan, htoken]
    simp only [Reading.over_switches, Reading.over_assign]
    exact ih

end Over

/-- What is asked for now, on top of what was asked for before. -/
def Invocation.over (before : Reading) : Invocation → Invocation
  | .generate o verbose => .generate (before.options.over o) (before.verbose || verbose)
  | .version => .version
  | .help => .help

/-- A record asks for nothing else: no request and no stray argument of its own. -/
theorem Reading.invocation_over {before : Reading} (hrequests : before.requests = [])
    (hextra : before.extra = []) (now : Reading) :
    (before.over now).invocation = now.invocation.map (Invocation.over before) := by
  rw [Reading.invocation, Reading.invocation, Reading.over, hrequests, hextra, List.nil_append,
    List.nil_append]
  cases now.requests with
  | cons s r => cases s <;> rfl
  | nil =>
    cases now.extra with
    | nil => rfl
    | cons a r => rfl

/-- **After complete options the rest is read as it is alone**, and put on top of them. -/
theorem parse_grouped_append {gs : List Group} {seen : Reading}
    (hseen : Reading.empty.afterAll (asked gs) = seen) (h : Reading.Collects (asked gs) seen)
    (q : List Text) : parse (grouped gs ++ q) = (parse q).map (Invocation.over seen) := by
  have hscan : scan .empty (grouped gs ++ q) = (scan .empty q).map seen.over := by
    rw [scan_grouped, hseen, ← scan_over, Reading.over_empty]
  rw [parse, parse, hscan]
  cases scan .empty q with
  | error e => rfl
  | ok now => exact Reading.invocation_over h.requests h.extra now

/-! ## Both parts -/

/-- **Option parsing is compositional.** Complete options alone are accepted; each
parameter has the last text that it was given, and the log is verbose if its switch is
among them. And take any arguments after them, whatever they look like.

* The whole is refused exactly where these arguments alone are, and in the same words.
* It ends with the version, or with help, exactly where they do.
* Otherwise each parameter has the text that these arguments give it, or the text from
  before if they give it none; and the log is verbose if either part wants it to be. -/
theorem parse_composes (gs : List Group) :
    ∃ o : Options, parse (grouped gs) = .ok (.generate o ((asked gs).any Occurrence.isVerbose)) ∧
      (∀ f, o.get f = lastText f (asked gs)) ∧
      ∀ q : List Text,
        (∀ e, parse (grouped gs ++ q) = .error e ↔ parse q = .error e) ∧
        (parse (grouped gs ++ q) = .ok .version ↔ parse q = .ok .version) ∧
        (parse (grouped gs ++ q) = .ok .help ↔ parse q = .ok .help) ∧
        ∀ now verbose, parse q = .ok (.generate now verbose) →
          ∃ both : Options, parse (grouped gs ++ q) =
              .ok (.generate both ((asked gs).any Occurrence.isVerbose || verbose)) ∧
            ∀ f, both.get f = (now.get f).or (o.get f) := by
  obtain ⟨seen, hseen⟩ : ∃ seen, Reading.empty.afterAll (asked gs) = seen := ⟨_, rfl⟩
  have hcollects : Reading.Collects (asked gs) seen := by
    have hall := Reading.Collects.empty.afterAll (asked gs)
    rwa [List.nil_append, hseen] at hall
  have happend := parse_grouped_append hseen hcollects
  refine ⟨seen.options, ?_, hcollects.get, ?_⟩
  · -- Nothing at all is the shortest rest there is.
    have hnil := happend []
    have hoptions : seen.options.over .empty = seen.options := Options.ext_get fun f => rfl
    have hparse : parse [] = .ok (.generate .empty false) := rfl
    rw [List.append_nil, hparse] at hnil
    rw [hnil, ← hcollects.verbose]
    simp only [Except.map, Invocation.over, hoptions, Bool.or_false]
  · intro q
    rw [happend q, ← hcollects.verbose]
    cases parse q with
    | error e => simp [Except.map]
    | ok i =>
      cases i with
      | version => simp [Except.map, Invocation.over]
      | help => simp [Except.map, Invocation.over]
      | generate now verbose =>
        refine ⟨by simp [Except.map], by simp [Except.map, Invocation.over],
          by simp [Except.map, Invocation.over], ?_⟩
        intro now' verbose' h
        obtain ⟨rfl, rfl⟩ := Invocation.generate.inj (Except.ok.inj h)
        exact ⟨seen.options.over now, rfl, fun f => rfl⟩

/-- A letter twice behind one dash, the second time with a parameter; a text that looks like
an option; and two letters with a text that would be a long spelling by itself. -/
def clustered : List Group :=
  [.cluster 1 (.awaited .model "--version"),
    .alone (.parameter (.longWithEquals true) .tables "jobs" trivial),
    .cluster 0 (.attached .diagram "iagram" (by decide))]

/-- A text for a parameter that has one already, and one that looks like an option; and a
parameter that has none yet. -/
def further : List Text := ["-t", "-k", "--mockApiKey", "s3cret"]

/-- The same options before these arguments, before a stray one and the version, before two
dashes alone, and before an option without its text. -/
theorem parse_composes_clustered :
    grouped clustered = [Text.ofString "-vvm", Text.ofString "--version",
        Text.ofString "--tables=jobs", Text.ofString "-vdiagram"] ∧
      (∃ now : Options, parse further = .ok (.generate now false) ∧
        ∃ both : Options, parse (grouped clustered ++ further) = .ok (.generate both true) ∧
          Flag.all.map both.get = [some (Text.ofString "--version"), some (Text.ofString "-k"),
            some (Text.ofString "iagram"), none, none, none, some (Text.ofString "s3cret")]) ∧
      parse (grouped clustered ++ [Text.ofString "stray", Text.ofString "-V"]) = .ok .version ∧
      parse (grouped clustered ++ [Text.ofString "--", Text.ofString "-V"]) =
        .error (.extraArguments ["-V"]) ∧
      parse (grouped clustered ++ [Text.ofString "-v", Text.ofString "-m"]) =
        .error (.missingText "-m") := by
  obtain ⟨o, -, hget, hrest⟩ := parse_composes clustered
  refine ⟨by decide, ?_, ?_, ?_, ?_⟩
  · obtain ⟨now, hnow, hgets⟩ : ∃ now : Options, parse further = .ok (.generate now false) ∧
        Flag.all.map now.get = [none, some (Text.ofString "-k"), none, none, none, none,
          some (Text.ofString "s3cret")] := ⟨_, rfl, by decide⟩
    obtain ⟨both, hboth, heach⟩ := (hrest further).2.2.2 now false hnow
    simp only [Flag.all, List.map_cons, List.map_nil, List.cons.injEq, and_true] at hgets
    obtain ⟨hmodel, htables, hdiagram, hschema, hdata, hsynthetic, hkey⟩ := hgets
    refine ⟨now, hnow, both, hboth, ?_⟩
    simp only [Flag.all, List.map_cons, List.map_nil, heach, hget, hmodel, htables, hdiagram,
      hschema, hdata, hsynthetic, hkey]
    decide
  · exact (hrest _).2.1.mpr rfl
  · exact ((hrest _).1 _).mpr rfl
  · exact ((hrest _).1 _).mpr rfl

end CommandLine

end SynthDesk
