/-
How the program comes to its session.

The log is set up first, with a file in the working directory. That fails where the working
directory was removed; otherwise it changes one file at most, and all that can be found from
the working directory is found as before. After that a command or an interview begins, at the
desk that was set up.
-/
import SynthDesk.Program
import SynthDesk.Proofs.Files.Changes
import SynthDesk.Proofs.Session.ExitStatus

set_option autoImplicit false

namespace SynthDesk

/-! ## The working directory -/

namespace FileTree

variable {t t' : FileTree} {p : Path}

/-- Where the file of the log lies. -/
def logPath (t : FileTree) : Path :=
  ⟨[Path.slash], absolute.foldUps (t.home ++ [Log.fileName])⟩

/-- **There is a place for the log**: the working directory is there, and from its name the
file of the log gets one. -/
structure Settled (t : FileTree) : Prop where
  present : t.entryAt t.home = some .directory
  named : Name.fault? t.logPath.toText = none

/-- A change of a file leaves the directories where they are, the working directory too. -/
theorem directories_of_update {change : List Octet → List Octet} (h : t.update p change = .ok t') :
    t'.home = t.home ∧
      ∀ at_, t.entryAt at_ = some .directory → t'.entryAt at_ = some .directory := by
  rcases update_cases h with rfl | ⟨at_, content, -, hdir, rfl⟩
  · exact ⟨rfl, fun _ hother => hother⟩
  · refine ⟨rfl, fun other hother => ?_⟩
    have hne : other ≠ at_ := by
      rintro rfl
      exact hdir hother
    rw [entryAt_put_of_ne t hne, hother]

end FileTree

namespace Log

variable {t t' : FileTree} {p full : Path}

/-- The file is opened by adding nothing to it. -/
theorem append_of_openAtEnd (h : openAtEnd t p = .ok (full, t')) : t.append full [] = .ok t' := by
  unfold openAtEnd at h
  split at h
  · cases h
  · next place _ =>
    cases happend : t.append place [] with
    | error e =>
      rw [happend] at h
      cases h
    | ok opened =>
      rw [happend] at h
      cases h
      exact happend

/-- In a working directory that is there, the file is looked for under its name. -/
theorem openAtEnd_home (h : t.entryAt t.home = some .directory) :
    filePath t none = .ok (Path.child ⟨[Path.slash], t.home⟩ fileName) ∧
      openAtEnd t (Path.child ⟨[Path.slash], t.home⟩ fileName) =
        (t.append t.logPath []).map fun t' => (t.logPath, t') := by
  refine ⟨?_, rfl⟩
  have hpath : filePath t none = t.atHome fileName := rfl
  rw [hpath, FileTree.atHome, FileTree.workingDirectory_of_directory h]
  rfl

end Log

namespace Program

open Session

variable {w : Surroundings} {args : List Text} {o : Options} {verbose : Bool}

/-! ## Setting up -/

/-- **The log is set up exactly where there is a place for it.** A file that the system
refuses is no hindrance. -/
theorem setUpFault_eq_none_iff : setUpFault w verbose = none ↔ w.tree.Settled := by
  rw [setUpFault, Log.Logger.configure, Option.map_eq_none_iff]
  by_cases hhome : w.tree.entryAt w.tree.home = some .directory
  · obtain ⟨hpath, hopen⟩ := Log.openAtEnd_home hhome
    simp only [hpath, hopen]
    cases hname : Name.fault? w.tree.logPath.toText with
    | some e =>
      have happend : w.tree.append w.tree.logPath [] = .error (.name e) := by
        rw [FileTree.append, FileTree.update, hname]
      rw [happend]
      refine iff_of_false (fun h => by cases h) fun h => ?_
      rw [h.named] at hname
      cases hname
    | none =>
      refine iff_of_true ?_ ⟨hhome, hname⟩
      cases happend : w.tree.append w.tree.logPath [] with
      | ok t' => rfl
      | error e =>
        obtain ⟨refusal, rfl⟩ := FileTree.exists_system_of_update hname happend
        rfl
  · have hpath : Log.filePath w.tree none = w.tree.atHome Log.fileName := rfl
    rw [hpath, FileTree.atHome, FileTree.workingDirectory_of_removed hhome]
    exact iff_of_false (fun h => by cases h) fun h => hhome h.present

/-- A set-up leaves the tree as it is, or makes the file of the log in it. -/
theorem tree_setUp (w : Surroundings) (verbose : Bool) :
    (setUp w verbose).1.tree = w.tree ∨
      ∃ p, w.tree.append p [] = .ok (setUp w verbose).1.tree := by
  unfold setUp Log.Logger.configure
  dsimp only
  split
  · exact .inl rfl
  · next path _ =>
    split
    · next full t' hopen => exact .inr ⟨full, Log.append_of_openAtEnd hopen⟩
    · next e _ =>
      -- A file that is refused is reported, and only the console is there to take the report.
      have hconsole : Log.Logger.handle ⟨[.console (Log.consoleLevel verbose)], false⟩ w.tree
          (Log.openWarning path e) = w.tree := ite_self w.tree
      exact .inl hconsole
    · exact .inl rfl

/-- What is refused is refused as before, and the directories stay where they are. -/
theorem setUp_keeps (w : Surroundings) (verbose : Bool) :
    (setUp w verbose).1.tree.bars = w.tree.bars ∧ (setUp w verbose).1.tree.home = w.tree.home ∧
      ∀ at_, w.tree.entryAt at_ = some .directory →
        (setUp w verbose).1.tree.entryAt at_ = some .directory := by
  rcases tree_setUp w verbose with htree | ⟨p, happend⟩
  · rw [htree]
    exact ⟨rfl, rfl, fun _ h => h⟩
  · exact ⟨FileTree.bars_of_update happend, FileTree.directories_of_update happend⟩

/-- The settings are looked for where they were before. -/
theorem startingPath_setUp (verbose : Bool) (h : w.tree.Settled) (fromEnvironment : Option Text) :
    Settings.Store.startingPath (setUp w verbose).1.tree fromEnvironment none =
      Settings.Store.startingPath w.tree fromEnvironment none := by
  obtain ⟨-, hhome, hkept⟩ := setUp_keeps w verbose
  have hpresent := hkept _ h.present
  rw [← hhome] at hpresent
  have hsame : (setUp w verbose).1.tree.atHome Settings.fileName =
      w.tree.atHome Settings.fileName := by
    rw [FileTree.atHome, FileTree.atHome, FileTree.workingDirectory_of_directory h.present,
      FileTree.workingDirectory_of_directory hpresent, hhome]
  unfold Settings.Store.startingPath
  rw [hsame]

/-- Whatever becomes of the file, there is a handler after the log is set up. -/
theorem handlers_setUp (w : Surroundings) (verbose : Bool) :
    (setUp w verbose).1.logger.handlers ≠ [] := by
  rw [setUp, Desk.after]
  dsimp only
  unfold Log.Logger.configure
  dsimp only
  split
  · exact List.cons_ne_nil _ _
  · split <;> exact List.cons_ne_nil _ _

/-! ## Commands and interviews -/

/-- **The program carries out a command**: the arguments ask for one, and the log is set up. -/
structure Carries (w : Surroundings) (args : List Text) (o : Options) (verbose : Bool) :
    Prop where
  given : args ≠ []
  parsed : CommandLine.parse args = .ok (.generate o verbose)
  ready : setUpFault w verbose = none

/-- **The program holds an interview**: the log is set up, and the settings have a place. -/
structure Opens (w : Surroundings) (store : Settings.Store) : Prop where
  ready : setUpFault w false = none
  resolved : Settings.Store.resolve (setUp w false).1.tree w.environment.settings none = .ok store

theorem run_of_ne_nil (hargs : args ≠ []) : run w args = direct w args := by
  cases args with
  | nil => exact absurd rfl hargs
  | cons a r => rfl

theorem Carries.run_eq (h : Carries w args o verbose) :
    run w args = (Session.direct w.screen w.environment.location (setUp w verbose).1 w.keyboard o
      w.attempt).preceded (setUp w verbose).2 := by
  rw [run_of_ne_nil h.given, direct, h.parsed]
  simp only [h.ready]

theorem Opens.run_eq {store : Settings.Store} (h : Opens w store) :
    run w [] = (Session.interactive store w.levels w.environment.location (setUp w false).1
      w.keyboard w.attempt).preceded (setUp w false).2 := by
  rw [run, interactive, h.ready]
  simp only [h.resolved]

/-- A command whose summary is shown tries the engine's command. -/
theorem Carries.command_eq {panel : Text} (h : Carries w args o verbose)
    (hpanel : SummaryShown w.screen o panel) :
    (run w args).command = some (w.environment.location.command o.directArguments) := by
  rw [h.run_eq]
  simp only [Ending.preceded, Session.direct, hpanel.rendered, hpanel.taken]
  exact Engine.Executor.run_command (Engine.Executor.ready_starts _ true) _ w.attempt

/-- A set-up that fails leaves the program. -/
theorem run_of_setUpFault {f : Fault} (hargs : args ≠ [])
    (hparse : CommandLine.parse args = .ok (.generate o verbose))
    (hf : setUpFault w verbose = some f) : run w args = left w verbose f := by
  rw [run_of_ne_nil hargs, direct, hparse]
  simp only [hf]

end Program

end SynthDesk
