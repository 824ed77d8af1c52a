/-
What a change of one file comes to.

Whether a path can be written depends on the tree alone and not on what is
written. What is written is found in one file, and nothing else is touched. And a
file at whose end more is written, time and again, has what it had at first and
then all of it, in order and once.
-/
import SynthDesk.Proofs.Files.Writing

set_option autoImplicit false

namespace SynthDesk.FileTree

variable {t t' : FileTree} {p : Path} {at_ : Place}

/-! ## Paths that can be written -/

/-- The place can be written: nothing is in the way there, and it has a file or a device, or
nothing, but in a directory where something can be made. -/
def Open (t : FileTree) (at_ : Place) : Prop :=
  t.barred .write at_ = none ∧
    (t.entryAt at_ = some .sink ∨ (∃ content, t.entryAt at_ = some (.file content)) ∨
      t.entryAt at_ = none ∧ t.entryAt at_.dropLast = some .directory ∧
        t.barred .write at_.dropLast = none)

/-- **The path can be written**: its text is a name, and it leads to a place that can be. -/
def CanWrite (t : FileTree) (p : Path) : Prop :=
  Name.fault? p.toText = none ∧ ∃ at_, t.locate p = .ok at_ ∧ t.Open at_

theorem exists_writable_iff :
    (∃ found, t.writable p = .ok found) ↔ ∃ at_, t.locate p = .ok at_ ∧ t.Open at_ := by
  unfold writable Open
  cases t.locate p with
  | error reason => simp
  | ok at_ =>
    simp only [Except.ok.injEq, exists_eq_left']
    cases hbar : t.barred .write at_ with
    | some reason =>
      cases t.entryAt at_ with
      | none => simp
      | some entry => cases entry <;> simp
    | none =>
      cases t.entryAt at_ with
      | some entry => cases entry <;> simp
      | none =>
        cases t.barred .write at_.dropLast <;> cases t.entryAt at_.dropLast with
        | none => simp
        | some above => cases above <;> simp

/-- **What can be written is written**, whatever the change. -/
theorem exists_update_iff {change : List Octet → List Octet} :
    (∃ t', t.update p change = .ok t') ↔ t.CanWrite p := by
  rw [CanWrite, ← exists_writable_iff, update]
  cases Name.fault? p.toText with
  | some e => simp
  | none =>
    cases t.writable p with
    | error reason => simp
    | ok found =>
      obtain ⟨at_, entry⟩ := found
      cases entry <;> simp

/-- Where the text is a name it is the system that refuses. -/
theorem exists_system_of_update {change : List Octet → List Octet} {e : FileError}
    (hname : Name.fault? p.toText = none) (h : t.update p change = .error e) :
    ∃ refusal, e = .system refusal := by
  simp only [update, hname] at h
  split at h
  · cases h
    exact ⟨_, rfl⟩
  · cases h
  · cases h

/-! ## One file and no other -/

/-- **One file is another**, or a new one, and everything else is as it was. -/
structure OnlyFile (at_ : Place) (content : List Octet) (t t' : FileTree) : Prop where
  home : t'.home = t.home
  bars : t'.bars = t.bars
  noDirectory : t.entryAt at_ ≠ some .directory
  file : t'.entryAt at_ = some (.file content)
  elsewhere : ∀ other, other ≠ at_ → t'.entryAt other = t.entryAt other

theorem onlyFile_put (hat : t.entryAt at_ ≠ some .directory)
    (content : List Octet) : OnlyFile at_ content t (t.put at_ (.file content)) where
  home := rfl
  bars := rfl
  noDirectory := hat
  file := entryAt_put_self t (ne_nil_of_not_directory hat) _
  elsewhere := fun _ hother => entryAt_put_of_ne t hother _

/-- **What a write changes**: nothing, if there is a device, and else one file. -/
theorem onlyFile_of_write {content : List Octet} (h : t.write p content = .ok t') :
    (t.LeadsToDevice p ∧ t' = t) ∨ ∃ at_, t.locate p = .ok at_ ∧ OnlyFile at_ content t t' := by
  obtain ⟨-, at_, hlocate, ⟨hsink, rfl⟩ | ⟨-, hdir, rfl⟩⟩ := write_cases h
  · exact Or.inl ⟨⟨at_, hlocate, hsink⟩, rfl⟩
  · exact Or.inr ⟨at_, hlocate, onlyFile_put hdir content⟩

/-! ## More at the end of a file -/

/-- **What a file gains.** A device takes everything and keeps nothing. A file has what it had and
then the rest, a missing one was empty, and everything else is as it was. -/
inductive Gains (t : FileTree) (p : Path) (more : List Octet) : FileTree → Prop
  | device (hdevice : t.LeadsToDevice p) : Gains t p more t
  | file {t' : FileTree} {at_ : Place} {old : List Octet} (hlocate : t.locate p = .ok at_)
      (hold : t.entryAt at_ = some (.file old) ∨ t.entryAt at_ = none ∧ old = [])
      (honly : OnlyFile at_ (old ++ more) t t') : Gains t p more t'

theorem gains_of_append {more : List Octet} (h : t.append p more = .ok t') :
    t.Gains p more t' := by
  obtain ⟨-, ⟨at_, hsink, rfl⟩ | ⟨at_, old, hfile, rfl⟩⟩ := update_ends h
  · obtain ⟨hlocate, -, -, hentry | ⟨-, hnone⟩⟩ := writable_cases hsink
    · exact .device ⟨at_, hlocate, hentry⟩
    · cases hnone
  · obtain ⟨hlocate, hdir, -, hold⟩ := writable_cases hfile
    refine .file hlocate ?_ (onlyFile_put hdir _)
    rcases hold with hentry | ⟨hnone, hempty⟩
    · exact .inl hentry
    · exact .inr ⟨hnone, Entry.file.inj hempty⟩

/-- What stays as it is has gained nothing, unless it is a device. -/
theorem Gains.eq_nil {more : List Octet} (h : t.Gains p more t) (hp : ¬ t.LeadsToDevice p) :
    more = [] := by
  cases h with
  | device hdevice => exact absurd hdevice hp
  | file hlocate hold honly =>
    rcases hold with hentry | ⟨hnone, -⟩
    · have hfile := honly.file
      rw [hentry, Option.some.injEq, Entry.file.injEq] at hfile
      exact List.self_eq_append_right.mp hfile
    · have hfile := honly.file
      rw [hnone] at hfile
      cases hfile

/-- **Writing on**: more at the end, and then still more, is both at once. -/
theorem append_append {first : List Octet} (h : t.append p first = .ok t') (second : List Octet) :
    t'.append p second = t.append p (first ++ second) := by
  rw [append, update_update h, append]
  congr 1
  funext content
  exact List.append_assoc content first second

/-- Where something could be written, more can be. -/
theorem exists_append {first : List Octet} (h : t.append p first = .ok t') (more : List Octet) :
    ∃ u, t.append p more = .ok u :=
  exists_update_iff.mpr (exists_update_iff.mp ⟨t', h⟩)

end SynthDesk.FileTree
