/-
One set-up replaces another.

A set-up finds the log in any state, and leaves it in one that depends on the call
alone. So however often the log was set up before, a record goes to the one file of
the last call, and once.

Three things are not provided for. A record whose line has no UTF-8 form is not written.
A path that lacks octets is no matter for a warning: it leaves the call, and so does a
working directory that was removed, where no file is named.
-/
import SynthDesk.Proofs.Files.Changes
import SynthDesk.Proofs.Files.Names
import SynthDesk.Proofs.Log.Turnover
import SynthDesk.Proofs.Text.Utf8

set_option autoImplicit false

namespace SynthDesk.Log

/-! ## Calls and their files -/

namespace Call

variable {c : Call} {path full : Path}

/-- **No U+0000** in the name that is given, nor in that of the working directory. -/
structure NulFree (c : Call) : Prop where
  home : ∀ part ∈ c.tree.home, Name.hasNul part = false
  file : ∀ name ∈ c.file, Name.hasNul name = false

instance (c : Call) : Decidable c.NulFree :=
  decidable_of_iff (_ ∧ _) ⟨fun h => ⟨h.1, h.2⟩, fun h => ⟨h.home, h.file⟩⟩

/-- **The file is looked for at a path**, which is completed from the root on. -/
def LooksAt (c : Call) (full : Path) : Prop :=
  ∃ path, c.path = .ok path ∧ c.tree.absolute path = .ok full

/-- **The path lacks octets**: there is half of a surrogate pair in it that stands for none. -/
def LacksOctets (c : Call) : Prop :=
  ∃ full, c.LooksAt full ∧ ¬ ∀ point ∈ full.toText, Name.lacksOctets point = false

/-- **No file is named, and the working directory was removed.** -/
def Homeless (c : Call) : Prop :=
  c.file.getD [] = [] ∧ c.tree.entryAt c.tree.home ≠ some .directory

/-- **The file can be opened**: its path can be written, and nothing that the tree does not know
is in the way. -/
structure CanOpen (c : Call) (full : Path) : Prop where
  looksAt : c.LooksAt full
  refusal : c.refusal = none
  canWrite : c.tree.CanWrite full

theorem LooksAt.unique {other : Path} (h : c.LooksAt full) (h' : c.LooksAt other) :
    full = other := by
  obtain ⟨path, hpath, hfull⟩ := h
  obtain ⟨path', hpath', hfull'⟩ := h'
  obtain rfl := Except.ok.inj (hpath.symm.trans hpath')
  exact Except.ok.inj (hfull.symm.trans hfull')

/-- What can be opened has octets. -/
theorem CanOpen.not_lacksOctets (h : c.CanOpen full) : ¬ c.LacksOctets := by
  rintro ⟨other, hlooks, hlacks⟩
  obtain rfl := h.looksAt.unique hlooks
  obtain ⟨e, hname⟩ := Name.exists_fault? hlacks
  cases h.canWrite.1.symm.trans hname

theorem path_of_homeless (h : c.Homeless) : c.path = .error (.nameless .noEntry) := by
  have hcwd : c.tree.atHome fileName = .error (.nameless .noEntry) := by
    rw [FileTree.atHome, FileTree.workingDirectory_of_removed h.2]
    rfl
  unfold path filePath
  split
  · next first r hfile =>
    have hempty := h.1
    rw [hfile] at hempty
    cases hempty
  · exact hcwd

theorem LooksAt.not_homeless (h : c.LooksAt full) : ¬ c.Homeless := by
  intro hhome
  obtain ⟨path, hpath, -⟩ := h
  cases hpath.symm.trans (path_of_homeless hhome)

theorem exists_path_of_not_homeless (h : ¬ c.Homeless) : ∃ path, c.path = .ok path := by
  unfold path filePath
  split
  · exact ⟨_, rfl⟩
  · next hfile =>
    have hempty : c.file.getD [] = [] := by
      cases hname : c.file with
      | none => rfl
      | some name =>
        cases name with
        | nil => rfl
        | cons first r => exact absurd hname (hfile first r)
    have hdir : c.tree.entryAt c.tree.home = some .directory :=
      Decidable.not_not.mp fun hdir => h ⟨hempty, hdir⟩
    exact ⟨_, by rw [FileTree.atHome, FileTree.workingDirectory_of_directory hdir]; rfl⟩

theorem NulFree.hasNul_full (h : c.NulFree) (hlooks : c.LooksAt full) :
    Name.hasNul full.toText = false := by
  obtain ⟨path, hpath, hfull⟩ := hlooks
  have hhome : ∀ part ∈ c.tree.home, ∀ cp ∈ part, cp.val ≠ 0 :=
    fun part hpart => Name.hasNul_eq_false_iff.mp (h.home part hpart)
  have hclean : path.NulFree := by
    unfold Call.path filePath at hpath
    split at hpath
    · next first r hfile =>
      cases hpath
      exact Path.nulFree_ofText (Name.hasNul_eq_false_iff.mp (h.file _ hfile))
    · obtain ⟨home, hat, rfl⟩ := FileTree.exists_of_map_ok hpath
      obtain rfl := FileTree.eq_home_of_workingDirectory hat
      exact Path.nulFree_child hhome (Name.hasNul_eq_false_iff.mp (by decide +kernel))
  exact (hclean.absolute hhome hfull).hasNul_toText

/-- **How a call goes**, for a path without U+0000: the file is open, or the system refuses it, or
the path lacks octets, or there is no working directory any more. -/
inductive Course (c : Call) : Prop
  | opened {path full : Path} {t : FileTree} (hpath : c.path = .ok path)
      (hopening : c.opening path = .ok (full, t)) (hcan : c.CanOpen full)
      (happend : c.tree.append full [] = .ok t)
  | refused {path : Path} {e : SystemError} (hpath : c.path = .ok path)
      (hopening : c.opening path = .error (.system e)) (hcan : ∀ full, ¬ c.CanOpen full)
      (hoctets : ¬ c.LacksOctets) (hhome : ¬ c.Homeless)
  | noOctets {path : Path} {e : Utf8.Unwritten} (hpath : c.path = .ok path)
      (hopening : c.opening path = .error (.name (.noOctets e))) (hlacks : c.LacksOctets)
  | homeless (hpath : c.path = .error (.nameless .noEntry)) (hhome : c.Homeless)

/-- A path that is found in the tree: what comes of opening it. -/
theorem course_of_absolute (hnul : c.NulFree) (hpath : c.path = .ok path)
    (hfull : c.tree.absolute path = .ok full) : c.Course := by
  have hlooks : c.LooksAt full := ⟨path, hpath, hfull⟩
  by_cases hoctets : ∀ point ∈ full.toText, Name.lacksOctets point = false
  · have hname := Name.fault?_eq_none (hnul.hasNul_full hlooks) hoctets
    have hlacks : ¬ c.LacksOctets := by
      rintro ⟨other, hother, hnot⟩
      obtain rfl := hlooks.unique hother
      exact hnot hoctets
    cases hrefusal : c.refusal with
    | some e =>
      refine .refused (e := e) hpath ?_ (fun other hcan => ?_) hlacks hlooks.not_homeless
      · simp only [opening, hfull, hname, hrefusal]
      · cases hrefusal.symm.trans hcan.refusal
    | none =>
      have hopening : c.opening path = (c.tree.append full []).map fun t => (full, t) := by
        simp only [opening, hfull, hname, hrefusal]
      cases happend : c.tree.append full [] with
      | ok t =>
        rw [happend] at hopening
        exact .opened hpath hopening
          ⟨hlooks, hrefusal, FileTree.exists_update_iff.mp ⟨t, happend⟩⟩ happend
      | error e =>
        obtain ⟨refusal, rfl⟩ := FileTree.exists_system_of_update hname happend
        rw [happend] at hopening
        refine .refused hpath hopening (fun other hcan => ?_) hlacks hlooks.not_homeless
        obtain rfl := hlooks.unique hcan.looksAt
        obtain ⟨t, hok⟩ : ∃ t, c.tree.append full [] = .ok t :=
          FileTree.exists_update_iff.mpr hcan.canWrite
        cases happend.symm.trans hok
  · obtain ⟨e, hname⟩ := Name.exists_fault? hoctets
    refine .noOctets (e := e) hpath ?_ ⟨full, hlooks, hoctets⟩
    simp only [opening, hfull, hname]

theorem NulFree.course (hnul : c.NulFree) : c.Course := by
  by_cases hhome : c.Homeless
  · exact .homeless (path_of_homeless hhome) hhome
  · obtain ⟨path, hpath⟩ := exists_path_of_not_homeless hhome
    cases hfull : c.tree.absolute path with
    | ok full => exact course_of_absolute hnul hpath hfull
    | error e =>
      -- A name that starts in a directory that is gone: the system refuses the file.
      have hnowhere : ∀ full, ¬ c.LooksAt full := by
        rintro full ⟨other, hother, hlooks⟩
        obtain rfl := Except.ok.inj (hpath.symm.trans hother)
        cases hfull.symm.trans hlooks
      refine .refused (e := e) hpath ?_ (fun full hcan => hnowhere full hcan.looksAt) ?_ hhome
      · simp only [opening, hfull]
      · exact fun ⟨full, hlooks, _⟩ => hnowhere full hlooks

end Call

/-! ## What comes into the file -/

/-- **What a record leaves in a file** of the log: its line, if the record is one of the program
and the line has a UTF-8 form, and else nothing. -/
def Record.octets (r : Record) : List Octet :=
  if belongs r.source ∧ ∀ c ∈ line r, c.isSurrogate = false then Utf8.encode (line r) else []

section Writing

variable {p : Path} {t u : FileTree} {first : List Octet} {r : Record}

/-- What is written of a record that comes to an open file. -/
theorem append_writeLine (h : t.append p first = .ok u) (hbelongs : belongs r.source = true) :
    t.append p (first ++ r.octets) = .ok (writeLine u p r) := by
  have hhalf : (line r).any Utf8.isHalf = true ↔ ¬ ∀ c ∈ line r, c.isSurrogate = false := by
    simp only [Utf8.isHalf, CodePoint.isHighSurrogate_or_isLowSurrogate, List.any_eq_true]
    simp
  unfold Record.octets writeLine
  by_cases hscalar : ∀ c ∈ line r, c.isSurrogate = false
  · obtain ⟨v, hv⟩ := FileTree.exists_append h (first ++ Utf8.encode (line r))
    rw [if_pos ⟨hbelongs, hscalar⟩, if_neg (fun hany => hhalf.mp hany hscalar),
      FileTree.append_append h, hv]
  · rw [if_neg (fun hand => hscalar hand.2), if_pos (hhalf.mpr hscalar), List.append_nil, h]

/-- A file that is open takes what is left of the record. -/
theorem append_handle (h : t.append p first = .ok u) (least : Level) (propagates : Bool)
    (r : Record) : t.append p (first ++ r.octets) =
      .ok (Logger.handle ⟨[.console least, .file p .debug], propagates⟩ u r) := by
  unfold Logger.handle
  by_cases hbelongs : belongs r.source = true
  · rw [if_pos hbelongs, append_writeLine h hbelongs]
    simp only [List.foldl_cons, List.foldl_nil, Handler.handle, Level.debug_admits, if_true]
  · rw [if_neg hbelongs, Record.octets, if_neg (fun hand => hbelongs hand.1), List.append_nil, h]

/-- **A file that is open takes what is left of all records**, in order. -/
theorem append_handleAll (h : t.append p first = .ok u) (least : Level) (propagates : Bool)
    (rs : List Record) : t.append p (first ++ rs.flatMap Record.octets) =
      .ok (Logger.handleAll ⟨[.console least, .file p .debug], propagates⟩ u rs) := by
  induction rs generalizing first u with
  | nil => rw [List.flatMap_nil, List.append_nil, h]; rfl
  | cons r rest ih =>
    rw [List.flatMap_cons, ← List.append_assoc]
    exact ih (append_handle h least propagates r)

/-- A log with nothing but a console leaves the files alone. -/
theorem handleAll_console (least : Level) (propagates : Bool) (t : FileTree) (rs : List Record) :
    Logger.handleAll ⟨[.console least], propagates⟩ t rs = t := by
  induction rs with
  | nil => rfl
  | cons r rest ih =>
    have hhandle : Logger.handle ⟨[.console least], propagates⟩ t r = t := ite_self t
    rw [Logger.handleAll, List.foldl_cons, hhandle]
    exact ih

end Writing

/-! ## What a call leaves -/

variable {c : Call}

/-- **What is left by a call**: the handlers that it asks for, and a tree into whose one file all
records go that come. -/
structure LeftBy (c : Call) (r : Rigging) : Prop where
  opened : ∀ full, c.CanOpen full → r.rig.mounts.map Mount.fitting =
    [.own (.console (if c.verbose then .debug else .warning)), .own (.file full .debug)]
  refused : (∀ full, ¬ c.CanOpen full) → r.rig.mounts.map Mount.fitting =
    [.own (.console (if c.verbose then .debug else .warning))]
  least : r.rig.least = .debug
  propagates : ¬ c.LacksOctets → ¬ c.Homeless → r.rig.propagates = false
  written : ∀ full, c.CanOpen full → ∀ rs : List Record,
    c.tree.Gains full (rs.flatMap Record.octets) (r.rig.handleAll r.tree rs)
  untouched : (∀ full, ¬ c.CanOpen full) → ∀ rs : List Record, r.rig.handleAll r.tree rs = c.tree

/-- **What a call reports**: nothing where the file can be opened; where it cannot, one warning
that tells the system's reason and that the new console shows; and where the path lacks octets,
or there is no working directory any more to look in, the call is left by a fault. -/
structure ReportedBy (c : Call) (r : Rigging) : Prop where
  opened : ∀ full, c.CanOpen full → r.records = [] ∧ r.fault = none
  refused : (∀ full, ¬ c.CanOpen full) → ¬ c.LacksOctets → ¬ c.Homeless →
    r.fault = none ∧ ∃ path e, c.path = .ok path ∧ c.opening path = .error (.system e) ∧
      r.records = [openWarning path e] ∧
      r.rig.logger.showsOnConsole (openWarning path e) = true
  noOctets : c.LacksOctets → r.records = [] ∧ ∃ e, r.fault = some (.name (.noOctets e))
  homeless : c.Homeless → r.records = [] ∧ r.fault = some (.system (.nameless .noEntry))

/-- **What comes of a set-up in one go** also comes of it step by step: the same log, the same
files once the warning is written, the same warning, the same fault, and the same handlers
closed. -/
structure SameAs (s : SetUp) (before : Rig) (r : Rigging) : Prop where
  logger : r.rig.logger = s.logger
  tree : r.tree = s.logger.handleAll s.tree s.records
  records : r.records = s.records
  fault : r.fault = s.fault
  closed : r.rig.closed.filterMap Mount.own? = before.closed.filterMap Mount.own? ++ s.closed

namespace Rig

theorem fittings_withConsole (g : Rig) (verbose : Bool) :
    (g.withConsole verbose).mounts.map Mount.fitting =
      [.own (.console (if verbose then .debug else .warning))] := by
  obtain ⟨n, hn⟩ := exists_withConsole_eq g verbose
  rw [hn]
  rfl

section Endings

variable {path full : Path}

theorem logger_setUp_of_ok (g : Rig) {t : FileTree} (hpath : c.path = .ok path)
    (h : c.opening path = .ok (full, t)) : (g.setUp c).rig.logger =
      ⟨[.console (consoleLevel c.verbose), .file full .debug], false⟩ := by
  obtain ⟨n, hn⟩ := exists_withConsole_eq g c.verbose
  rw [setUp_of_ok g hpath h, mount_eq, hn]
  rfl

theorem logger_setUp_of_system (g : Rig) {e : SystemError} (hpath : c.path = .ok path)
    (h : c.opening path = .error (.system e)) :
    (g.setUp c).rig.logger = ⟨[.console (consoleLevel c.verbose)], false⟩ := by
  obtain ⟨n, hn⟩ := exists_withConsole_eq g c.verbose
  rw [setUp_of_system g hpath h, hn]
  rfl

theorem logger_withConsole (g : Rig) (verbose : Bool) :
    (g.withConsole verbose).logger = ⟨[.console (consoleLevel verbose)], g.propagates⟩ := by
  obtain ⟨n, hn⟩ := exists_withConsole_eq g verbose
  rw [hn]
  rfl

/-- Where no file is open, nothing comes of the records, ... -/
theorem handleAll_withConsole (g : Rig) (verbose : Bool) (t : FileTree) (rs : List Record) :
    (g.withConsole verbose).handleAll t rs = t := by
  rw [handleAll]
  induction rs with
  | nil => rfl
  | cons r rest ih => rw [List.foldl_cons, handle_withConsole, ih]

/-- ... and what is left is a log with a console. -/
theorem leftBy_withConsole (g : Rig) (c : Call) (hcan : ∀ full, ¬ c.CanOpen full)
    (hleft : c.LacksOctets ∨ c.Homeless) (fault : Option FileError) :
    LeftBy c ⟨g.withConsole c.verbose, c.tree, [], fault⟩ where
  opened := fun full hopen => absurd hopen (hcan full)
  refused := fun _ => fittings_withConsole g c.verbose
  least := by
    obtain ⟨n, hn⟩ := exists_withConsole_eq g c.verbose
    rw [hn]
  propagates := fun hoctets hhome => (hleft.elim hoctets hhome).elim
  written := fun full hopen => absurd hopen (hcan full)
  untouched := fun _ rs => handleAll_withConsole g c.verbose c.tree rs

end Endings

theorem leftBy_setUp (g : Rig) (hnul : c.NulFree) : LeftBy c (g.setUp c) := by
  have hleast := least_setUp g c
  cases hnul.course with
  | @opened path full t hpath hopening hcan happend =>
    have hunique : ∀ other, c.CanOpen other → other = full :=
      fun other hother => hother.looksAt.unique hcan.looksAt
    refine ⟨?_, fun hnone => absurd hcan (hnone full), hleast, fun _ _ => ?_, ?_,
      fun hnone => absurd hcan (hnone full)⟩
    · intro other hother
      obtain rfl := hunique other hother
      rw [setUp_of_ok g hpath hopening, mount_eq, List.map_append, fittings_withConsole]
      rfl
    · rw [setUp_of_ok g hpath hopening]
    · intro other hother rs
      obtain rfl := hunique other hother
      rw [handleAll_logger hleast, logger_setUp_of_ok g hpath hopening,
        setUp_of_ok g hpath hopening]
      exact FileTree.gains_of_append (append_handleAll happend _ _ rs)
  | refused hpath hopening hcan hoctets hhome =>
    refine ⟨fun full hopen => absurd hopen (hcan full), fun _ => ?_, hleast, fun _ _ => ?_,
      fun full hopen => absurd hopen (hcan full), fun _ rs => ?_⟩
    · rw [setUp_of_system g hpath hopening, fittings_withConsole]
    · rw [setUp_of_system g hpath hopening]
    · rw [handleAll_logger hleast, logger_setUp_of_system g hpath hopening,
        setUp_of_system g hpath hopening]
      exact handleAll_console _ _ _ rs
  | noOctets hpath hopening hlacks =>
    rw [setUp_of_name g hpath hopening]
    exact leftBy_withConsole g c (fun full hopen => hopen.not_lacksOctets hlacks) (.inl hlacks) _
  | homeless hpath hhome =>
    rw [setUp_of_homeless g hpath]
    exact leftBy_withConsole g c (fun full hopen => hopen.looksAt.not_homeless hhome)
      (.inr hhome) _

theorem reportedBy_setUp (g : Rig) (hnul : c.NulFree) : ReportedBy c (g.setUp c) := by
  cases hnul.course with
  | opened hpath hopening hcan happend =>
    rw [setUp_of_ok g hpath hopening]
    exact ⟨fun _ _ => ⟨rfl, rfl⟩, fun hnone => absurd hcan (hnone _),
      fun hlacks => absurd hlacks hcan.not_lacksOctets,
      fun hhome => absurd hhome hcan.looksAt.not_homeless⟩
  | @refused path e hpath hopening hcan hoctets hhome =>
    have hlogger := logger_setUp_of_system g hpath hopening
    rw [setUp_of_system g hpath hopening] at hlogger ⊢
    refine ⟨fun full hopen => absurd hopen (hcan full), fun _ _ _ => ?_,
      (absurd · hoctets), (absurd · hhome)⟩
    refine ⟨rfl, path, e, hpath, hopening, rfl, ?_⟩
    rw [hlogger]
    cases c.verbose <;> rfl
  | @noOctets path e hpath hopening hlacks =>
    rw [setUp_of_name g hpath hopening]
    obtain ⟨full, hlooks, -⟩ := id hlacks
    exact ⟨fun _ hopen => absurd hlacks hopen.not_lacksOctets,
      fun _ hoctets => absurd hlacks hoctets, fun _ => ⟨rfl, e, rfl⟩,
      fun hhome => absurd hhome hlooks.not_homeless⟩
  | homeless hpath hhome =>
    rw [setUp_of_homeless g hpath]
    exact ⟨fun _ hopen => absurd hhome hopen.looksAt.not_homeless, fun _ _ h => absurd hhome h,
      fun ⟨_, hlooks, _⟩ => absurd hhome hlooks.not_homeless, fun _ => ⟨rfl, rfl⟩⟩

/-! ## The set-up in one go -/

/-- Without a refusal that the tree does not know, opening is what it is there. -/
theorem opening_eq_openAtEnd (h : c.refusal = none) (path : Path) :
    c.opening path = openAtEnd c.tree path := by
  unfold Call.opening openAtEnd
  cases c.tree.absolute path with
  | error e => rfl
  | ok full =>
    simp only [h]
    cases hname : Name.fault? full.toText with
    | none => rfl
    | some e => simp only [FileTree.append, FileTree.update, hname, Except.map]

/-- If nothing is in the way but what the tree knows, it is all the same which of the two is
made. -/
theorem sameAs_setUp (g : Rig) (c : Call) (h : c.refusal = none) :
    SameAs (g.logger.configure c.tree c.verbose c.file) g (g.setUp c) := by
  have hclosed : (g.setUp c).rig.closed.filterMap Mount.own? =
      g.closed.filterMap Mount.own? ++ g.logger.handlers := by
    rw [closed_setUp, List.filterMap_append]
    rfl
  have hbare := logger_withConsole g c.verbose
  unfold Logger.configure
  rw [show filePath c.tree c.file = c.path from rfl]
  cases hpath : c.path with
  | error e =>
    rw [setUp_of_homeless g hpath] at hclosed ⊢
    exact ⟨hbare, rfl, rfl, rfl, hclosed⟩
  | ok path =>
    dsimp only
    rw [← opening_eq_openAtEnd h]
    cases hending : c.opening path with
    | ok opened =>
      have hlogger := logger_setUp_of_ok g hpath hending
      rw [setUp_of_ok g hpath hending] at hlogger hclosed ⊢
      exact ⟨hlogger, rfl, rfl, rfl, hclosed⟩
    | error e =>
      cases e with
      | system refusal =>
        have hlogger := logger_setUp_of_system g hpath hending
        rw [setUp_of_system g hpath hending] at hlogger hclosed ⊢
        exact ⟨hlogger, (handleAll_console _ _ _ _).symm, rfl, rfl, hclosed⟩
      | name fault =>
        rw [setUp_of_name g hpath hending] at hclosed ⊢
        exact ⟨hbare, rfl, rfl, rfl, hclosed⟩

/-! ## The last call and those before -/

/-- **One set-up replaces another.** Take a log on which anything is mounted, this program's
handlers and others, one twice or closed already, and any calls for paths without U+0000.

* What is left is what the last call asks for: one console, and one file if it can be opened.
  Of all records that come then the lines that have a UTF-8 form are added to that file, in
  order and once, and nothing else changes.
* What is mounted then is not closed.
* What was mounted at the beginning, or after one of the calls before, is closed, and it is
  no longer mounted.
* Each call is silent where its file can be opened. If the system refuses the file there is
  one warning, on the new console, and no fault. Only a path without octets is a fault, and
  a working directory that was removed, where no file is named. And each call does what the
  set-up in one go does. -/
theorem follow_leaves_last (g : Rig) (earlier : List Call) (last : Call)
    (hnul : ∀ c ∈ earlier ++ [last], c.NulFree) :
    LeftBy last ((g.follow earlier).setUp last) ∧
    (∀ m ∈ ((g.follow earlier).setUp last).rig.mounts,
      m ∉ ((g.follow earlier).setUp last).rig.closed) ∧
    (∀ past, past <+: earlier → ∀ m ∈ (g.follow past).mounts,
      m ∈ ((g.follow earlier).setUp last).rig.closed ∧
        m ∉ ((g.follow earlier).setUp last).rig.mounts) ∧
    (∀ past c, past ++ [c] <+: earlier ++ [last] →
      ReportedBy c ((g.follow past).setUp c) ∧
      (c.refusal = none → SameAs ((g.follow past).logger.configure c.tree c.verbose c.file)
        (g.follow past) ((g.follow past).setUp c))) := by
  have hapart := apart_setUp (g.follow earlier) last
  refine ⟨leftBy_setUp _ (hnul last (by simp)), hapart, ?_, ?_⟩
  · rintro past ⟨between, rfl⟩ m hm
    -- The calls after this one are `between` and the last, so there is a next one.
    have hclosed : m ∈ ((g.follow (past ++ between)).setUp last).rig.closed := by
      rw [← follow_concat, List.append_assoc, follow_append]
      cases between with
      | nil => exact mounts_subset_closed _ last [] hm
      | cons next rest => exact mounts_subset_closed _ next (rest ++ [last]) hm
    exact ⟨hclosed, fun hmounted => hapart m hmounted hclosed⟩
  · intro past c hprefix
    have hmem : c ∈ earlier ++ [last] := hprefix.subset (by simp)
    exact ⟨reportedBy_setUp _ (hnul c hmem), sameAs_setUp _ c⟩

/-- A desk with a file on it. -/
def usedDesk : FileTree :=
  ⟨["desk"], [(["desk"], .directory), (["desk", "b.log"], .file (Utf8.encode "old\n"))], []⟩

/-- Somebody else's handler, mounted twice, and between it a file from before. -/
def crowded : Rig where
  mounts := [⟨4, .foreign "NullHandler"⟩, ⟨7, .own (.file (.ofText "/desk/old.log") .info)⟩,
    ⟨4, .foreign "NullHandler"⟩]
  closed := []
  least := .warning
  propagates := true

/-- A directory that is missing, a permission that is, a path without octets, and a working
directory that was removed. -/
def hindered : List Call :=
  [⟨usedDesk, false, some "missing/smg-cli.log", none⟩,
    ⟨usedDesk, true, none, some (.ofReason .permission "/desk/smg-cli.log")⟩,
    ⟨usedDesk, false, some [CodePoint.ofNat 0x61, CodePoint.ofNat 0xD800], none⟩,
    ⟨{ usedDesk with home := ["gone"] }, false, none, none⟩]

/-- At last the file that is there. -/
def verboseCall : Call := ⟨usedDesk, true, some "b.log", none⟩

/-- A record that is no matter for a quiet console. -/
def fineNote : Record := ⟨.debug, enginePart, "done", none⟩

theorem follow_leaves_last_crowded :
    (∀ c ∈ hindered ++ [verboseCall], c.NulFree) ∧
    ((crowded.follow hindered).setUp verboseCall).rig.mounts.map Mount.fitting =
      [.own (.console .debug), .own (.file (.ofText "/desk/b.log") .debug)] ∧
    (∀ m ∈ crowded.mounts, m ∈ ((crowded.follow hindered).setUp verboseCall).rig.closed) ∧
    (((crowded.follow hindered).setUp verboseCall).rig.handleAll
      ((crowded.follow hindered).setUp verboseCall).tree [fineNote]).entryAt ["desk", "b.log"] =
        some (.file (Utf8.encode "old\n[DEBUG] smg_cli.engine.engine_executor - done\n")) := by
  have hnul : ∀ c ∈ hindered ++ [verboseCall], c.NulFree := by decide +kernel
  obtain ⟨hleft, -, hbefore, -⟩ := follow_leaves_last crowded hindered verboseCall hnul
  have hlocate : usedDesk.locate (.ofText "/desk/b.log") = .ok ["desk", "b.log"] := by
    decide +kernel
  have hentry : usedDesk.entryAt ["desk", "b.log"] = some (.file (Utf8.encode "old\n")) := by
    decide +kernel
  have hcan : verboseCall.CanOpen (.ofText "/desk/b.log") :=
    ⟨⟨.ofText "b.log", by decide +kernel, by decide +kernel⟩, rfl,
      by decide +kernel, _, hlocate, rfl, .inr (.inl ⟨_, hentry⟩)⟩
  have hoctets : fineNote.octets = Utf8.encode (line fineNote) := by
    have hall : (line fineNote).all (fun c => !c.isSurrogate) = true := by decide +kernel
    exact if_pos ⟨by decide +kernel, by simpa only [List.all_eq_true, Bool.not_eq_true'] using hall⟩
  refine ⟨hnul, ?_, ?_, ?_⟩
  · rw [hleft.opened _ hcan]
    rfl
  · exact fun m hm => (hbefore [] (List.nil_prefix) m hm).1
  · have hgains := hleft.written _ hcan [fineNote]
    generalize ((crowded.follow hindered).setUp verboseCall).rig.handleAll
      ((crowded.follow hindered).setUp verboseCall).tree [fineNote] = t at hgains ⊢
    cases hgains with
    | device hdevice =>
      obtain ⟨at_, hat, hsink⟩ := hdevice
      cases hlocate.symm.trans hat
      cases hentry.symm.trans hsink
    | file hat hold honly =>
      cases hlocate.symm.trans hat
      rcases hold with hold | ⟨hnone, -⟩
      · cases hentry.symm.trans hold
        rw [honly.file, List.flatMap_singleton, hoctets]
        decide +kernel
      · cases hentry.symm.trans hnone

end Rig

/-! ## A record that is lost -/

/-- The start of the engine, with an argument that has an octet that is no UTF-8. -/
def undecoded : Record :=
  ⟨.info, enginePart, Text.ofString "Starting engine: java -jar x.jar -dataOutput caf" ++
    CodePoint.ofNat 0xDCE9 :: Text.ofString ".sql", none⟩

/-- A desk with nothing on it. -/
def bareDesk : FileTree := ⟨["desk"], [(["desk"], .directory)], []⟩

/-- The file is open, and the line of the record is not in it. -/
theorem configure_loses_record :
    belongs undecoded.source = true ∧
    (Logger.bare.configure bareDesk true none).fault = none ∧
    (Logger.bare.configure bareDesk true none).logger.handlers =
      [.console .debug, .file (.ofText "/desk/smg-cli.log") .debug] ∧
    ¬ (Logger.bare.configure bareDesk true none).tree.Gains (.ofText "/desk/smg-cli.log")
      (Utf8.encode (line undecoded))
      ((Logger.bare.configure bareDesk true none).logger.handle
        (Logger.bare.configure bareDesk true none).tree undecoded) := by
  have hsame : (Logger.bare.configure bareDesk true none).logger.handle
      (Logger.bare.configure bareDesk true none).tree undecoded =
        (Logger.bare.configure bareDesk true none).tree := by decide +kernel
  have hlocate : (Logger.bare.configure bareDesk true none).tree.locate
      (.ofText "/desk/smg-cli.log") = .ok ["desk", "smg-cli.log"] := by decide +kernel
  have hentry : (Logger.bare.configure bareDesk true none).tree.entryAt ["desk", "smg-cli.log"] =
      some (.file []) := by decide +kernel
  refine ⟨by decide +kernel, by decide +kernel, by decide +kernel, ?_⟩
  rw [hsame]
  intro hgains
  have hnil := hgains.eq_nil fun ⟨at_, hat, hsink⟩ => by
    cases hlocate.symm.trans hat
    cases hentry.symm.trans hsink
  cases Utf8.encode_eq_nil_iff.mp hnil

end SynthDesk.Log
