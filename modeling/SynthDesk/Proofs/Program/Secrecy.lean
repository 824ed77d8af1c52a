/-
A key in the log.

The summary of a command masks the key of the data service. The log does not: before the
engine is started the whole of its command is noted, and the key is the last part of it. So
two runs of the program that differ in the key alone have logs that differ, and they differ
in this one record. Where the log cannot be set up, or the summary is refused, the engine is
not started, and then there is no such record; without it the logs are the same.
-/
import SynthDesk.Proofs.Program.Containment
import SynthDesk.Proofs.Session.Secrecy
import SynthDesk.Proofs.Text.Listing

set_option autoImplicit false

namespace SynthDesk

namespace Session

open Engine

/-- The record of a start, as it is in the log. -/
def startRecord (command : List Text) : Log.Record :=
  ⟨.info, Log.enginePart, Text.ofString "Starting engine: " ++ Text.join [' '] command,
    none⟩

/-- The last part of a command can be told from the record. -/
theorem startRecord_concat_inj {command : List Text} (hne : command ≠ []) {key key' : Text} :
    startRecord (command ++ [key']) = startRecord (command ++ [key]) ↔ key' = key := by
  refine ⟨fun h => ?_, fun h => by rw [h]⟩
  have hmessage := congrArg Log.Record.message h
  simp only [startRecord, Text.join_concat [' '] hne] at hmessage
  exact List.append_cancel_left (List.append_cancel_left hmessage)

/-- Every record of a command is written when it is made. -/
theorem KeyApart.desk {d : Desk} {key key' : Text} {e e' : Ending} (h : KeyApart d key key' e e') :
    e.desk = d.after e.effects ∧ e'.desk = d.after e'.effects := by
  cases h with
  | refused _ _ _ hleft hright =>
    rw [hleft, hright]
    exact ⟨rfl, rfl⟩
  | carriedOut _ _ _ _ _ hleft hright =>
    rw [hleft, hright]
    exact ⟨rfl, rfl⟩

end Session

namespace Program

open Session Engine

variable {w : Surroundings} {args : List Text} {o : Options} {verbose : Bool}

/-- A key is asked for by an argument. -/
theorem ne_nil_of_asked {key : Text} (hparse : CommandLine.parse args = .ok (.generate o verbose))
    (hkey : o.requested .mockApiKey = some key) : args ≠ [] := by
  rintro rfl
  cases hparse
  cases hkey

/-- A command whose summary is shown ends with a status. -/
theorem Carries.exists_status {panel : Text} (h : Carries w args o verbose)
    (hpanel : SummaryShown w.screen o panel) : ∃ status, (run w args).exit = .ok status := by
  rw [h.run_eq, exit_preceded]
  exact ⟨_, direct_exit hpanel⟩

/-- **Two runs of the program that differ in the key alone**: the log could not be set up for
either, or their sessions differ in the key alone. -/
theorem run_keyApart {args' : List Text} {o' : Options} {key key' : Text}
    (hparse : CommandLine.parse args = .ok (.generate o verbose))
    (hparse' : CommandLine.parse args' = .ok (.generate o' verbose))
    (h : o.DifferInKey o' key key') :
    (∃ f, run w args = left w verbose f ∧ run w args' = left w verbose f) ∨
      ∃ e e', run w args = e.preceded (setUp w verbose).2 ∧
        run w args' = e'.preceded (setUp w verbose).2 ∧
        KeyApart (setUp w verbose).1 key key' e e' := by
  have hargs := ne_nil_of_asked hparse h.asked
  have hargs' := ne_nil_of_asked hparse' h.asked'
  cases hready : setUpFault w verbose with
  | some f =>
    exact .inl ⟨f, run_of_setUpFault hargs hparse hready, run_of_setUpFault hargs' hparse' hready⟩
  | none =>
    have hcarries : Carries w args o verbose := ⟨hargs, hparse, hready⟩
    have hcarries' : Carries w args' o' verbose := ⟨hargs', hparse', hready⟩
    exact .inr ⟨_, _, hcarries.run_eq, hcarries'.run_eq, keyApart_direct w.screen
      w.environment.location (setUp w verbose).1 w.keyboard w.attempt h⟩

/-- **The key does reach the log.** Take two command lines with options that differ in the
key alone, and let them meet the same surroundings. What is noted when the log is set up is
the same, and all that is noted after it is written to one log. Then

* either both runs leave the program before the engine is started, by one fault, and the
  records are the same;
* or they are the same but for one, which is noted before the engine is started, and holds
  the whole of its command, with the key at the end.

So the records are the same exactly if the program is left in this way, or the keys are no
different. -/
theorem run_notes_key (w : Surroundings) (args args' : List Text) (o o' : Options)
    (verbose : Bool) (key key' : Text)
    (hparse : CommandLine.parse args = .ok (.generate o verbose))
    (hparse' : CommandLine.parse args' = .ok (.generate o' verbose))
    (h : o.DifferInKey o' key key') :
    (∃ es es', (run w args).effects = (setUp w verbose).2 ++ es ∧
      (run w args').effects = (setUp w verbose).2 ++ es' ∧
      (run w args).desk = (setUp w verbose).1.after es ∧
      (run w args').desk = (setUp w verbose).1.after es') ∧
    ((∃ f, (run w args).exit = .error f ∧ (run w args').exit = .error f) ∧
        (run w args).command = none ∧
        Effect.noted (run w args').effects = Effect.noted (run w args).effects ∨
      ∃ before later command,
        (run w args).command = some (command ++ [Text.ofString "-mockApiKey", key]) ∧
        Effect.noted (run w args).effects =
          before ++ startRecord (command ++ [Text.ofString "-mockApiKey", key]) :: later ∧
        Effect.noted (run w args').effects =
          before ++ startRecord (command ++ [Text.ofString "-mockApiKey", key']) :: later) ∧
    (Effect.noted (run w args').effects = Effect.noted (run w args).effects ↔
      (∃ f, (run w args).exit = .error f) ∨ key' = key) := by
  rcases run_keyApart (w := w) hparse hparse' h with ⟨f, hrun, hrun'⟩ | ⟨e, e', hrun, hrun', hapart⟩
  · rw [hrun, hrun']
    refine ⟨⟨[], [], rfl, rfl, rfl, rfl⟩, .inl ⟨⟨f, rfl, rfl⟩, rfl, rfl⟩, ?_⟩
    exact iff_of_true rfl (.inl ⟨f, rfl⟩)
  rw [hrun, hrun']
  refine ⟨⟨_, _, rfl, rfl, hapart.desk.1, hapart.desk.2⟩, ?_⟩
  cases hapart with
  | refused f _ keys hleft hright =>
    rw [hleft, hright]
    exact ⟨Or.inl ⟨⟨f, rfl, rfl⟩, rfl, rfl⟩, iff_of_true rfl (Or.inl ⟨f, rfl⟩)⟩
  | carriedOut status before later command keys hleft hright =>
    have hnoted : ∀ c, Effect.noted ((Ending.carried (setUp w verbose).1 keys status before later
        c).preceded (setUp w verbose).2).effects =
          Effect.noted ((setUp w verbose).2 ++ before) ++ startRecord c :: Effect.noted later := by
      intro c
      simp only [Ending.preceded, Ending.carried, ← List.append_assoc, Effect.noted_append]
      rfl
    rw [hleft, hright, hnoted, hnoted]
    refine ⟨Or.inr ⟨_, _, command, rfl, rfl, rfl⟩, ?_⟩
    -- With the rest the same, the logs are told apart by this record, and it by the key.
    have hflag : ∀ k, command ++ Options.pair .mockApiKey k =
        command ++ [Text.ofString "-mockApiKey"] ++ [k] := by
      intro k
      rw [List.append_assoc]
      rfl
    have hne : command ++ [Text.ofString "-mockApiKey"] ≠ [] := by simp
    rw [List.append_cancel_left_eq, List.cons.injEq, hflag, hflag, startRecord_concat_inj hne]
    constructor
    · rintro ⟨hkey, -⟩
      exact Or.inr hkey
    · rintro (⟨f, hexit⟩ | hkey)
      · cases hexit
      · exact ⟨hkey, rfl⟩

/-- The options of a command line that gives a key. -/
def keyed (key : Text) : Options := Options.empty.set .mockApiKey (some key)

theorem parse_keyed (key : Text) :
    CommandLine.parse ["-k", key] = .ok (.generate (keyed key) false) := rfl

/-- Two keys, and an engine that does nothing but end. -/
theorem run_notes_key_bare :
    CommandLine.parse ["-k", "s3cret"] = .ok (.generate (keyed "s3cret") false) ∧
      CommandLine.parse ["-k", "other"] = .ok (.generate (keyed "other") false) ∧
      (keyed "s3cret").DifferInKey (keyed "other") "s3cret" "other" ∧
      ∃ before later command,
        Effect.noted (run (bareSurroundings none (.starts [])) ["-k", "s3cret"]).effects =
          before ++ startRecord (command ++ [Text.ofString "-mockApiKey", "s3cret"]) :: later := by
  have hdiffer : (keyed "s3cret").DifferInKey (keyed "other") "s3cret" "other" :=
    Options.differInKey_set .empty (List.cons_ne_nil _ _) (List.cons_ne_nil _ _)
  have hparse := parse_keyed "s3cret"
  have hparse' := parse_keyed "other"
  obtain ⟨-, hlogs, -⟩ := run_notes_key (bareSurroundings none (.starts [])) _ _ _ _ false _ _
    hparse hparse' hdiffer
  refine ⟨hparse, hparse', hdiffer, ?_⟩
  rcases hlogs with ⟨⟨f, hexit, -⟩, -⟩ | ⟨before, later, command, -, hnoted, -⟩
  · -- The log is set up, and nothing is wrong with a summary that shows a mask.
    obtain ⟨panel, hpanel⟩ :=
      exists_summaryShown plainScreen (o := keyed "s3cret") (by decide +kernel) rfl
    have hcarries : Carries (bareSurroundings none (.starts [])) ["-k", "s3cret"]
        (keyed "s3cret") false := ⟨List.cons_ne_nil _ _, hparse, by decide +kernel⟩
    obtain ⟨status, hstatus⟩ := hcarries.exists_status hpanel
    cases hstatus.symm.trans hexit
  · exact ⟨before, later, command, hnoted⟩

/-- The log tells two keys apart. -/
theorem run_noted_keys_differ :
    Effect.noted (run (bareSurroundings none (.starts [])) ["-k", "s3cret"]).effects ≠
      Effect.noted (run (bareSurroundings none (.starts [])) ["-k", "other"]).effects := by
  decide +kernel

end Program

end SynthDesk
