/-
What a write leaves in the file tree.

A write puts a file at the place that its path leads to, and this never moves
the path: on the way there only directories are passed, and no directory is
replaced. So one change of a file after another is one change, what was written is
read back under the same path, and writing it once more changes nothing. The one
exception is a device, which takes everything and keeps nothing; there the tree
stays as it was.

What leads elsewhere is not touched by any of this: no way is opened or closed,
and only one place gets another content.
-/
import SynthDesk.Files.FileTree

set_option autoImplicit false

namespace SynthDesk.FileTree

open SystemError (Reason)

variable {t t' : FileTree} {p : Path} {at_ : Place} {e : Entry}

/-- The path leads to a file with the content, which may be read, or to a place where nothing
is yet. -/
def Holds (t : FileTree) (p : Path) (content : Option (List Octet)) : Prop :=
  ∃ at_, t.locate p = .ok at_ ∧ t.entryAt at_ = content.map .file ∧ t.barred .read at_ = none

/-- The path leads to a device: what is written there is not kept. -/
def LeadsToDevice (t : FileTree) (p : Path) : Prop :=
  ∃ at_, t.locate p = .ok at_ ∧ t.entryAt at_ = some .sink

/-- A device is no file, and it is not nothing. -/
theorem Holds.not_leadsToDevice {content : Option (List Octet)} (h : t.Holds p content) :
    ¬ t.LeadsToDevice p := by
  rintro ⟨other, hother, hsink⟩
  obtain ⟨at_, hlocate, hentry, -⟩ := h
  rw [hlocate] at hother
  cases hother
  rw [hentry] at hsink
  cases content with
  | none => cases hsink
  | some octets => cases hsink

/-! ## The way to a place -/

/-- The root is a directory, so what is no directory is not the root. -/
theorem ne_nil_of_not_directory (hat : t.entryAt at_ ≠ some .directory) : at_ ≠ [] := by
  rintro rfl
  exact hat rfl

/-- Putting an entry where there was no directory leaves every way as it was. -/
theorem walk_put (hat : t.entryAt at_ ≠ some .directory) {start : Place} {parts : List Text}
    {reached : Place} (h : walk t start parts = .ok reached) :
    walk (t.put at_ e) start parts = .ok reached := by
  induction parts generalizing start with
  | nil => exact h
  | cons part r ih =>
    rw [walk] at h ⊢
    cases hentry : t.entryAt start with
    | none =>
      rw [hentry] at h
      cases h
    | some entry =>
      rw [hentry] at h
      cases entry with
      | file content => cases h
      | sink => cases h
      | directory =>
        -- What is passed is a directory, and so not the place that has changed.
        have hne : start ≠ at_ := by
          rintro rfl
          exact hat hentry
        rw [entryAt_put_of_ne t hne, hentry]
        dsimp only [barred_put] at h ⊢
        cases hbar : t.barred .pass start with
        | some reason =>
          rw [hbar] at h
          cases h
        | none =>
          rw [hbar] at h
          dsimp only at h ⊢
          split at h
          case isTrue hup =>
            rw [if_pos hup]
            exact ih h
          case isFalse hup =>
            rw [if_neg hup]
            split at h
            case isTrue hhere =>
              rw [if_pos hhere]
              exact ih h
            case isFalse hhere =>
              rw [if_neg hhere]
              split at h
              case isTrue => cases h
              case isFalse hlong =>
                rw [if_neg hlong]
                exact ih h

theorem locate_put (hat : t.entryAt at_ ≠ some .directory) {reached : Place}
    (h : t.locate p = .ok reached) : (t.put at_ e).locate p = .ok reached := by
  unfold locate at h ⊢
  split at h
  case isTrue => cases h
  case isFalse hlong =>
    rw [if_neg hlong]
    exact walk_put hat h

/-! ## Putting twice -/

theorem place_place (at_ : Place) (e e' : Entry) (es : List (Place × Entry)) :
    place at_ e' (place at_ e es) = place at_ e' es := by
  induction es with
  | nil => simp [place]
  | cons q r ih =>
    obtain ⟨other, old⟩ := q
    by_cases h : other = at_
    · simp [place, h]
    · simp [place, h, ih]

/-- What is put at a place a second time takes the place of the first. -/
theorem put_put (t : FileTree) (at_ : Place) (e e' : Entry) :
    (t.put at_ e).put at_ e' = t.put at_ e' := by
  simp only [put, place_place]

/-! ## One change, and another -/

section Updates

variable {old : List Octet} {change : List Octet → List Octet}

/-- Where a path can be written there is no directory, but what is given out, or
nothing, and then an empty file is given out; and writing there is not refused. -/
theorem writable_cases (h : t.writable p = .ok (at_, e)) :
    t.locate p = .ok at_ ∧ t.entryAt at_ ≠ some .directory ∧ t.barred .write at_ = none ∧
      (t.entryAt at_ = some e ∨ t.entryAt at_ = none ∧ e = .file []) := by
  unfold writable at h
  split at h
  · cases h
  · next reached hlocate =>
    split at h
    · cases h
    · cases h
    · next entry hother hentry hbar =>
      cases h
      have hdir : t.entryAt at_ ≠ some .directory := by
        rw [hentry]
        exact fun heq => hother (Option.some.inj heq)
      exact ⟨hlocate, hdir, hbar, Or.inl hentry⟩
    · next hnone hbar =>
      have hdir : t.entryAt reached ≠ some .directory := by
        rw [hnone]
        intro heq
        cases heq
      split at h
      · cases h
        exact ⟨hlocate, hdir, hbar, Or.inr ⟨hnone, rfl⟩⟩
      · cases h
      · cases h
      · cases h

theorem update_of_file (hname : Name.fault? p.toText = none)
    (h : t.writable p = .ok (at_, .file old)) :
    t.update p change = .ok (t.put at_ (.file (change old))) := by
  simp only [update, hname, h]

theorem update_of_sink (hname : Name.fault? p.toText = none)
    (h : t.writable p = .ok (at_, .sink)) : t.update p change = .ok t := by
  simp only [update, hname, h]

/-- **What a change does**: a device leaves the tree as it is, and a file is put in place of the
one that was found. -/
theorem update_ends (h : t.update p change = .ok t') :
    Name.fault? p.toText = none ∧
      ((∃ at_, t.writable p = .ok (at_, .sink) ∧ t' = t) ∨
        ∃ at_ old, t.writable p = .ok (at_, .file old) ∧ t' = t.put at_ (.file (change old))) := by
  unfold update at h
  split at h
  · cases h
  · next hname =>
    refine ⟨hname, ?_⟩
    split at h
    · cases h
    · next at_ old hwritable =>
      cases h
      exact .inr ⟨at_, old, hwritable, rfl⟩
    · next found hfile hwritable =>
      cases h
      obtain ⟨at_, entry⟩ := found
      obtain ⟨-, hdir, -, hentry | ⟨-, rfl⟩⟩ := writable_cases hwritable
      · cases entry with
        | directory => exact absurd hentry hdir
        | file old => exact (hfile at_ old rfl).elim
        | sink => exact .inl ⟨at_, hwritable, rfl⟩
      · exact (hfile at_ [] rfl).elim

/-- The file that was put can be written again, and it is found as it was put. -/
theorem writable_put (h : t.writable p = .ok (at_, .file old)) (new : List Octet) :
    (t.put at_ (.file new)).writable p = .ok (at_, .file new) := by
  obtain ⟨hlocate, hdir, hbar, -⟩ := writable_cases h
  rw [writable, locate_put hdir hlocate]
  simp only [entryAt_put_self t (ne_nil_of_not_directory hdir), barred_put, hbar]

/-- **One change after another is one change.** -/
theorem update_update (h : t.update p change = .ok t') (next : List Octet → List Octet) :
    t'.update p next = t.update p (next ∘ change) := by
  obtain ⟨hname, ⟨at_, hsink, rfl⟩ | ⟨at_, old, hfile, rfl⟩⟩ := update_ends h
  · rw [update_of_sink hname hsink, update_of_sink hname hsink]
  · rw [update_of_file hname hfile, update_of_file hname (writable_put hfile _), put_put]
    rfl

end Updates

/-! ## One write -/

/-- **What a write does.** The path leads to a device, and the tree stays as it
is; or it leads to a file or to nothing, and a file with the content is put
there. -/
theorem write_cases {content : List Octet} (h : t.write p content = .ok t') :
    Name.fault? p.toText = none ∧ ∃ at_, t.locate p = .ok at_ ∧
      ((t.entryAt at_ = some .sink ∧ t' = t) ∨
        (at_ ≠ [] ∧ t.entryAt at_ ≠ some .directory ∧ t' = t.put at_ (.file content))) := by
  obtain ⟨hname, ⟨at_, hsink, rfl⟩ | ⟨at_, old, hfile, rfl⟩⟩ := update_ends h
  · obtain ⟨hlocate, -, -, hentry | ⟨-, hnone⟩⟩ := writable_cases hsink
    · exact ⟨hname, at_, hlocate, Or.inl ⟨hentry, rfl⟩⟩
    · cases hnone
  · obtain ⟨hlocate, hdir, -⟩ := writable_cases hfile
    exact ⟨hname, at_, hlocate, Or.inr ⟨ne_nil_of_not_directory hdir, hdir, rfl⟩⟩

/-- **The file under a path may be read**, if there is one. -/
def MayRead (t : FileTree) (p : Path) : Prop :=
  ∀ at_, t.locate p = .ok at_ → t.barred .read at_ = none

/-- Where there is a content there is a path on which it may be read. -/
theorem Holds.mayRead {content : Option (List Octet)} (h : t.Holds p content) : t.MayRead p := by
  obtain ⟨at_, hlocate, -, hbar⟩ := h
  intro other hother
  rw [hlocate] at hother
  cases hother
  exact hbar

/-- Nothing is read where it may not be, be there a file or not. -/
theorem exists_error_of_not_mayRead (h : ¬ t.MayRead p) : ∃ e, t.read p = .error e := by
  obtain ⟨at_, h⟩ := Classical.not_forall.mp h
  obtain ⟨hlocate, hbar⟩ := Classical.not_imp.mp h
  obtain ⟨reason, hreason⟩ := Option.ne_none_iff_exists'.mp hbar
  rw [read]
  cases Name.fault? p.toText with
  | some e => exact ⟨_, rfl⟩
  | none =>
    simp only [hlocate, hreason]
    cases t.entryAt at_ with
    | none => exact ⟨_, rfl⟩
    | some entry => exact ⟨_, rfl⟩

/-- What is read under a path that leads to a file. -/
theorem read_of_entryAt (hname : Name.fault? p.toText = none) (hlocate : t.locate p = .ok at_)
    {content : List Octet} (hentry : t.entryAt at_ = some (.file content))
    (hbar : t.barred .read at_ = none) : t.read p = .ok content := by
  simp only [read, hname, hlocate, hentry, hbar]

/-- **What was written is read back**, where it may be read, unless the path leads to a
device. -/
theorem read_of_write {content : List Octet} (h : t.write p content = .ok t')
    (hread : t.MayRead p) : (t.LeadsToDevice p ∧ t' = t) ∨ t'.read p = .ok content := by
  obtain ⟨hname, at_, hlocate, ⟨hsink, rfl⟩ | ⟨hroot, hdir, rfl⟩⟩ := write_cases h
  · exact Or.inl ⟨⟨at_, hlocate, hsink⟩, rfl⟩
  · exact Or.inr (read_of_entryAt hname (locate_put hdir hlocate) (entryAt_put_self t hroot _)
      (hread at_ hlocate))

/-- **Writing the same once more changes nothing.** -/
theorem write_of_write {content : List Octet} (h : t.write p content = .ok t') :
    t'.write p content = .ok t' := by
  rw [write, update_update h]
  exact h

/-! ## What a change of one file leaves alone -/

/-- The place that a path leads to, if it leads to one. -/
def place? (t : FileTree) (p : Path) : Option Place := (t.locate p).toOption

/-- What can be read under a path. -/
def content? (t : FileTree) (p : Path) : Option (List Octet) := (t.read p).toOption

theorem toOption_eq_some_iff {ε α : Type} {result : Except ε α} {a : α} :
    result.toOption = some a ↔ result = .ok a := by
  cases result with
  | error e => exact iff_of_false (fun h => by cases h) (fun h => by cases h)
  | ok found => exact ⟨fun h => by cases h; rfl, fun h => by cases h; rfl⟩

theorem leadsToDevice_iff :
    t.LeadsToDevice p ↔ ∃ at_, t.place? p = some at_ ∧ t.entryAt at_ = some .sink := by
  simp only [LeadsToDevice, place?, toOption_eq_some_iff]

/-- What can be read is the content of the file at the place, if reading is not refused. -/
theorem content?_eq (t : FileTree) (p : Path) :
    t.content? p = match Name.fault? p.toText with
      | some _ => none
      | none => (t.place? p).bind fun at_ =>
        match t.entryAt at_, t.barred .read at_ with
        | some (.file content), none => some content
        | some .sink, none => some []
        | _, _ => none := by
  rw [content?, read, place?]
  cases Name.fault? p.toText with
  | some e => rfl
  | none =>
    cases t.locate p with
    | error reason => rfl
    | ok at_ =>
      cases hentry : t.entryAt at_ with
      | none => simp only [Except.toOption, Option.bind_some, hentry]
      | some entry =>
        cases hbar : t.barred .read at_ <;> cases entry <;>
          simp only [Except.toOption, Option.bind_some, hentry, hbar]

/-- No way leads on from what is no directory. -/
theorem walk_toOption_of_not_directory (hat : t.entryAt at_ ≠ some .directory) (part : Text)
    (r : List Text) : (walk t at_ (part :: r)).toOption = none := by
  rw [walk]
  cases hentry : t.entryAt at_ with
  | none => rfl
  | some entry =>
    cases entry with
    | directory => exact absurd hentry hat
    | file content => rfl
    | sink => rfl

/-- A file, put where there was no directory, opens no way and closes none. -/
theorem walk_put_toOption (hat : t.entryAt at_ ≠ some .directory) (he : e ≠ .directory)
    (start : Place) (parts : List Text) :
    (walk (t.put at_ e) start parts).toOption = (walk t start parts).toOption := by
  have hput : (t.put at_ e).entryAt at_ ≠ some .directory := by
    rw [entryAt_put_self t (ne_nil_of_not_directory hat)]
    exact fun heq => he (Option.some.inj heq)
  -- Both ways take the same steps, until one of them comes to the place: there both end.
  induction parts generalizing start with
  | nil => rfl
  | cons part r ih =>
    by_cases hstart : start = at_
    · rw [hstart, walk_toOption_of_not_directory hput, walk_toOption_of_not_directory hat]
    · rw [walk, walk, entryAt_put_of_ne t hstart]
      cases t.entryAt start with
      | none => rfl
      | some entry =>
        cases entry with
        | file content => rfl
        | sink => rfl
        | directory =>
          dsimp only [barred_put]
          cases t.barred .pass start with
          | some reason => rfl
          | none =>
            dsimp only
            by_cases hup : part = up
            · rw [if_pos hup, if_pos hup, ih]
            · rw [if_neg hup, if_neg hup]
              by_cases hhere : part = here
              · rw [if_pos hhere, if_pos hhere, ih]
              · rw [if_neg hhere, if_neg hhere]
                split
                · rfl
                · exact ih _

theorem place?_put (hat : t.entryAt at_ ≠ some .directory) (he : e ≠ .directory) (p : Path) :
    (t.put at_ e).place? p = t.place? p := by
  rw [place?, place?, locate, locate]
  split
  · rfl
  · exact walk_put_toOption hat he _ _

/-- **What a change of a file does.** The tree stays as it is; or a file is put at the
place that the path leads to, where there was no directory. -/
theorem update_cases {change : List Octet → List Octet} (h : t.update p change = .ok t') :
    t' = t ∨ ∃ at_ content, t.place? p = some at_ ∧ t.entryAt at_ ≠ some .directory ∧
      t' = t.put at_ (.file content) := by
  obtain ⟨-, ⟨at_, -, rfl⟩ | ⟨at_, old, hfile, rfl⟩⟩ := update_ends h
  · exact Or.inl rfl
  · obtain ⟨hlocate, hdir, -⟩ := writable_cases hfile
    exact Or.inr ⟨at_, change old, toOption_eq_some_iff.mpr hlocate, hdir, rfl⟩

/-- All paths lead where they did. -/
theorem place?_of_update {change : List Octet → List Octet} (h : t.update p change = .ok t')
    (q : Path) : t'.place? q = t.place? q := by
  rcases update_cases h with rfl | ⟨at_, content, -, hdir, rfl⟩
  · rfl
  · exact place?_put hdir (fun heq => Entry.noConfusion heq) q

/-- What is refused is refused as before. -/
theorem bars_of_update {change : List Octet → List Octet} (h : t.update p change = .ok t') :
    t'.bars = t.bars := by
  rcases update_cases h with rfl | ⟨at_, content, -, -, rfl⟩ <;> rfl

/-- What may be read may be read afterwards, and nothing else. -/
theorem mayRead_of_update {change : List Octet → List Octet} (h : t.update p change = .ok t')
    {q : Path} : t'.MayRead q ↔ t.MayRead q := by
  have hbarred : ∀ at_, t'.barred .read at_ = t.barred .read at_ := fun at_ => by
    rw [barred, barred, bars_of_update h]
  have hlocate : ∀ at_, t'.locate q = .ok at_ ↔ t.locate q = .ok at_ := fun at_ => by
    rw [← toOption_eq_some_iff, ← toOption_eq_some_iff]
    exact iff_of_eq (congrArg (· = some at_) (place?_of_update h q))
  simp only [MayRead, hbarred, hlocate]

/-- What was written is in the file, unless the path leads to a device. -/
theorem entryAt_of_write {content : List Octet} (h : t.write p content = .ok t')
    (hp : ¬ t.LeadsToDevice p) :
    ∃ at_, t.place? p = some at_ ∧ t'.entryAt at_ = some (.file content) := by
  obtain ⟨-, at_, hlocate, ⟨hsink, -⟩ | ⟨hroot, -, rfl⟩⟩ := write_cases h
  · exact absurd ⟨at_, hlocate, hsink⟩ hp
  · exact ⟨at_, toOption_eq_some_iff.mpr hlocate, entryAt_put_self t hroot _⟩

/-- What was written can be read, where it may be, unless the path leads to a device. -/
theorem content?_of_write {content : List Octet} (h : t.write p content = .ok t')
    (hread : t.MayRead p) (hp : ¬ t.LeadsToDevice p) : t'.content? p = some content := by
  rcases read_of_write h hread with ⟨hdevice, -⟩ | hread
  · exact absurd hdevice hp
  · exact toOption_eq_some_iff.mpr hread

end SynthDesk.FileTree
