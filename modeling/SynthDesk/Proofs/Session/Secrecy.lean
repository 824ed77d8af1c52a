/-
A key on its way to the engine.

The key of the data service has to arrive, and nobody is to see it. Two commands are put
side by side here which differ in the key alone. Their summaries are the same, since a mask
stands in the place of the key, and then there is one course that both runs take. So the
commands end alike and show the same. The key stands in two places: at the end of the
engine's command, and in the note that a start is tried.
-/
import SynthDesk.Proofs.Engine.Course
import SynthDesk.Proofs.Log.Sparing
import SynthDesk.Proofs.Session.ExitStatus

set_option autoImplicit false

namespace SynthDesk

/-! ## Options that differ in the key -/

namespace Options

/-- **Options that differ in the key alone**: both ask for one, and in all else they
agree. -/
structure DifferInKey (o o' : Options) (key key' : Text) : Prop where
  asked : o.requested .mockApiKey = some key
  asked' : o'.requested .mockApiKey = some key'
  others : ∀ f, f ≠ .mockApiKey → o'.get f = o.get f

variable {o o' : Options} {key key' : Text}

theorem DifferInKey.requested (h : o.DifferInKey o' key key') {f : Flag} (hf : f ≠ .mockApiKey) :
    o'.requested f = o.requested f := by
  rw [Options.requested, Options.requested, h.others f hf]

/-- Any two keys that are not empty, put into the same options. -/
theorem differInKey_set (o : Options) (hkey : key ≠ []) (hkey' : key' ≠ []) :
    (o.set .mockApiKey (some key)).DifferInKey (o.set .mockApiKey (some key')) key key' := by
  have hasked : ∀ {k : Text}, k ≠ [] →
      (o.set .mockApiKey (some k)).requested .mockApiKey = some k := by
    intro k hk
    rw [Options.requested, get_set_self]
    cases k with
    | nil => exact absurd rfl hk
    | cons c r => rfl
  refine ⟨hasked hkey, hasked hkey', fun f hf => ?_⟩
  rw [get_set_of_ne o hf, get_set_of_ne o hf]

/-- Arguments depend on what is requested of the order's flags. -/
theorem arguments_congr {order : KeyOrder} (h : ∀ f ∈ order, o'.requested f = o.requested f) :
    o'.arguments order = o.arguments order := by
  rw [arguments, arguments, List.flatMap_def, List.flatMap_def,
    List.map_congr_left fun f hf => by rw [h f hf]]

/-- The flags before that of the key. -/
def otherFlags : KeyOrder :=
  [.model, .tables, .diagram, .schemaOutput, .dataOutput, .syntheticGenerate]

/-- The key comes last. -/
theorem directArguments_of_key (hkey : o.requested .mockApiKey = some key) :
    o.directArguments = o.arguments otherFlags ++ pair .mockApiKey key := by
  have horder : KeyOrder.direct = otherFlags ++ [.mockApiKey] := rfl
  rw [directArguments, horder, arguments, arguments, List.flatMap_append, List.flatMap_singleton,
    hkey]

theorem DifferInKey.arguments (h : o.DifferInKey o' key key') :
    o'.arguments otherFlags = o.arguments otherFlags := by
  refine arguments_congr fun f hf => h.requested ?_
  rintro rfl
  exact absurd hf (by decide)

/-- **A summary does not depend on the key.** -/
theorem DifferInKey.describe (h : o.DifferInKey o' key key') : o'.describe = o.describe := by
  have hflag : ∀ f, (o'.requested f).map (fun v => flagMarkup f.name (shown f v)) =
      (o.requested f).map (fun v => flagMarkup f.name (shown f v)) := by
    intro f
    by_cases hf : f = .mockApiKey
    · rw [hf, h.asked, h.asked']
      rfl
    · rw [h.requested hf]
  have hlines : ∀ p : Options, p.summaryLines =
      Flag.all.filterMap fun f => (p.requested f).map fun v => flagMarkup f.name (shown f v) := by
    intro p
    rw [summaryLines, present, List.map_filterMap]
    simp only [Option.map_map, Function.comp_def]
  simp only [Options.describe, hlines, hflag]

end Options

/-! ## Commands side by side -/

namespace Session

open Engine

/-- An ending with an engine run: what was done before the note of the start, and what
after it. -/
def Ending.carried (d : Desk) (keys : Interview.Keyboard) (status : Int)
    (before later : List Effect) (command : List Text) : Ending :=
  ⟨.ok status, before ++ Executor.startNote command :: later, some command, keys,
    d.after (before ++ Executor.startNote command :: later)⟩

theorem Ending.preceded_carried (d : Desk) (keys : Interview.Keyboard) (status : Int)
    (before later : List Effect) (command : List Text) :
    (carried (d.after before) keys status [] later command).preceded before =
      carried d keys status before later command := by
  simp only [preceded, carried, Desk.after_append, List.nil_append]

/-- **The end of a session does not depend on the arguments**: there are a status and
effects that come with all of them, after the note of the start. -/
theorem exists_engineRun (onFault : Fault → Verdict) (location : Location) (attempt : Attempt) :
    ∃ status later, ∀ d keys args, engineRun onFault location d keys args attempt =
      .carried d keys status [] later (location.command args) := by
  obtain ⟨c, hc⟩ := Executor.exists_course (Executor.ready_starts location true) attempt
  have hreport : ∀ args, ((Executor.ready location true).run args attempt).2 =
      c.report (location.command args) := hc
  have hverdict : ∀ command, verdictOn onFault (c.report command) =
      verdictOn onFault (c.report []) := fun _ => rfl
  refine ⟨(verdictOn onFault (c.report [])).status,
    c.effects ++ (verdictOn onFault (c.report [])).effects, fun d keys args => ?_⟩
  simp only [engineRun, hreport, hverdict (location.command args), Course.effects_report,
    List.cons_append]
  rfl

/-- **What refuses a summary**: it is no markup, or the screen does not take it. -/
inductive RefusesSummary : Fault → Prop
  | markup (e : Markup.Refusal) : RefusesSummary (.markup e)
  | screen (e : Utf8.Unwritten) : RefusesSummary (.screen e)

/-- **Two endings that differ in the key alone.** Both summaries were refused, for one
reason; or both commands were carried out, and the key stands at the end of the engine's
command. -/
inductive KeyApart (d : Desk) (key key' : Text) (e e' : Ending) : Prop
  | refused (fault : Fault) (hfault : RefusesSummary fault) (keys : Interview.Keyboard)
    (h : e = .early d keys (.error fault) [])
    (h' : e' = .early d keys (.error fault) [])
  | carriedOut (status : Int) (before later : List Effect) (command : List Text)
    (keys : Interview.Keyboard)
    (h : e = .carried d keys status before later (command ++ Options.pair .mockApiKey key))
    (h' : e' = .carried d keys status before later (command ++ Options.pair .mockApiKey key'))

variable {o o' : Options} {key key' : Text}

/-- **Commands whose options differ in the key alone.** -/
theorem keyApart_direct (screen : Console.Screen) (location : Location) (d : Desk)
    (keys : Interview.Keyboard) (attempt : Attempt) (h : o.DifferInKey o' key key') :
    KeyApart d key key' (direct screen location d keys o attempt)
      (direct screen location d keys o' attempt) := by
  have hpanel : (summaryPanel o').render screen = (summaryPanel o).render screen := by
    rw [summaryPanel, summaryPanel, h.describe]
  rw [direct, direct, hpanel]
  cases (summaryPanel o).render screen with
  | error refusal => exact .refused _ (.markup refusal) keys rfl rfl
  | ok panel =>
  cases hscreen : screen.refused? panel with
  | some e =>
    simp only [hscreen]
    exact .refused _ (.screen e) keys rfl rfl
  | none =>
    obtain ⟨status, later, hrun⟩ := exists_engineRun directFault location attempt
    have hargs : o.directArguments =
        o.arguments Options.otherFlags ++ Options.pair .mockApiKey key :=
      Options.directArguments_of_key h.asked
    have hargs' : o'.directArguments =
        o.arguments Options.otherFlags ++ Options.pair .mockApiKey key' := by
      rw [Options.directArguments_of_key h.asked', h.arguments]
    -- The arguments are as many, so the mode is noted in the same words.
    have hmode : modeNote "Direct" o'.directArguments = modeNote "Direct" o.directArguments := by
      rw [modeNote, modeNote, hargs, hargs', List.length_append, List.length_append]
      rfl
    have hcommand : ∀ k, location.command (o.arguments Options.otherFlags ++
        Options.pair .mockApiKey k) = location.command (o.arguments Options.otherFlags) ++
          Options.pair .mockApiKey k := fun _ => rfl
    refine .carriedOut status [.shows (.verbatim panel), modeNote "Direct" o.directArguments] later
      (location.command (o.arguments Options.otherFlags)) keys ?_ ?_
    · simp only [hscreen, hrun, Ending.preceded_carried, hargs, hcommand]
    · simp only [hscreen, hrun, Ending.preceded_carried, hmode]
      rw [hargs', hcommand]

/-- **The key does not reach the screen.** Take any two options that differ in the key
alone, and let one thing come of the attempt to start the engine. The two commands show
the same, line by line and as text, and they end alike, with one status or with one fault.
That fault is the refusal of the summary, and then no engine is started; otherwise the
engine's commands are the same but for the last argument, which is the key as it was
given. -/
theorem direct_hides_key (screen : Console.Screen) (location : Location) (d : Desk)
    (keys : Interview.Keyboard) (attempt : Attempt) (o o' : Options) (key key' : Text)
    (h : o.DifferInKey o' key key') :
    let left := direct screen location d keys o attempt
    let right := direct screen location d keys o' attempt
    Effect.shown right.effects = Effect.shown left.effects ∧
      Effect.printed right.effects = Effect.printed left.effects ∧
      right.exit = left.exit ∧
      ((∃ fault, RefusesSummary fault ∧ left.exit = .error fault ∧ left.command = none ∧
          right.command = none) ∨
        ∃ status command, left.exit = .ok status ∧
          left.command = some (command ++ [Text.ofString "-mockApiKey", key]) ∧
          right.command = some (command ++ [Text.ofString "-mockApiKey", key'])) := by
  intro left right
  cases keyApart_direct screen location d keys attempt h with
  | refused fault hfault keys' hleft hright =>
    rw [show left = _ from hleft, show right = _ from hright]
    exact ⟨rfl, rfl, rfl, Or.inl ⟨fault, hfault, rfl, rfl, rfl⟩⟩
  | carriedOut status before later command keys' hleft hright =>
    -- The note of the start is not shown.
    have hshown : ∀ c, Effect.shown (Ending.carried d keys' status before later c).effects =
        Effect.shown before ++ Effect.shown later := fun _ => Effect.shown_append before _
    have hsame := (hshown (command ++ Options.pair .mockApiKey key')).trans
      (hshown (command ++ Options.pair .mockApiKey key)).symm
    rw [show left = _ from hleft, show right = _ from hright]
    exact ⟨hsame, congrArg (fun shown => shown.flatMap Shown.render) hsame, rfl,
      Or.inr ⟨status, command, rfl, rfl, rfl⟩⟩

/-- Two keys and nothing else, and an engine that may not be started. -/
theorem direct_hides_key_denied :
    (Options.empty.set .mockApiKey (some "s3cret")).DifferInKey
        (Options.empty.set .mockApiKey (some "other")) "s3cret" "other" ∧
      (direct plainScreen .standard bareDesk [] (Options.empty.set .mockApiKey (some "other"))
        (.refused (.refusal "PermissionError" "no"))).exit = .ok 1 ∧
      Effect.printed (direct plainScreen .standard bareDesk []
          (Options.empty.set .mockApiKey (some "other"))
          (.refused (.refusal "PermissionError" "no"))).effects =
        Effect.printed (direct plainScreen .standard bareDesk []
          (Options.empty.set .mockApiKey (some "s3cret"))
          (.refused (.refusal "PermissionError" "no"))).effects := by
  have hdiffer : (Options.empty.set .mockApiKey (some "s3cret")).DifferInKey
      (Options.empty.set .mockApiKey (some "other")) "s3cret" "other" :=
    Options.differInKey_set .empty (List.cons_ne_nil _ _) (List.cons_ne_nil _ _)
  obtain ⟨-, hprinted, hexit, -⟩ := direct_hides_key plainScreen .standard bareDesk []
    (.refused (.refusal "PermissionError" "no")) _ _ _ _ hdiffer
  refine ⟨hdiffer, hexit.trans ?_, hprinted⟩
  obtain ⟨panel, hpanel⟩ := exists_summaryShown plainScreen
    (o := Options.empty.set .mockApiKey (some "s3cret")) (by decide +kernel) rfl
  rw [direct_exit hpanel, verdictOn_of_refusal rfl]
  rfl

end Session

end SynthDesk
