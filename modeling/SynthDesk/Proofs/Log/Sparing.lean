/-
What the log leaves alone.

A record goes to the files of the log and nowhere else. So a path that leads to
none of these files has the same content before and after, however much is
noted. For this to be carried along a session the paths must not move either:
putting a file opens no way and closes none.
-/
import SynthDesk.Proofs.Files.Writing
import SynthDesk.Session

set_option autoImplicit false

namespace SynthDesk

/-! ## One file in a changing tree -/

/-- **The file at a path is kept** from one tree to another: all paths lead where they
did, the same is refused, and what the path leads to is the same. -/
structure FileTree.Keeps (p : Path) (t t' : FileTree) : Prop where
  bars : t'.bars = t.bars
  place? : ∀ q, t'.place? q = t.place? q
  entryAt : ∀ at_, t.place? p = some at_ → t'.entryAt at_ = t.entryAt at_

namespace FileTree.Keeps

variable {p : Path} {t u v : FileTree}

theorem refl (p : Path) (t : FileTree) : t.Keeps p t :=
  ⟨rfl, fun _ => rfl, fun _ _ => rfl⟩

theorem trans (h : FileTree.Keeps p t u) (h' : FileTree.Keeps p u v) : FileTree.Keeps p t v where
  bars := h'.bars.trans h.bars
  place? := fun q => (h'.place? q).trans (h.place? q)
  entryAt := by
    intro at_ hplace
    rw [h'.entryAt at_ ((h.place? p).trans hplace), h.entryAt at_ hplace]

/-- What can be read there is the same. -/
theorem content? (h : FileTree.Keeps p t u) : u.content? p = t.content? p := by
  rw [content?_eq, content?_eq, h.place?]
  cases hplace : t.place? p with
  | none => rfl
  | some at_ =>
    have hbarred : u.barred .read at_ = t.barred .read at_ := by rw [barred, barred, h.bars]
    simp only [Option.bind_some, h.entryAt at_ hplace, hbarred]

theorem not_leadsToDevice (h : FileTree.Keeps p t u) (hp : ¬ t.LeadsToDevice p) :
    ¬ u.LeadsToDevice p := by
  rw [leadsToDevice_iff] at hp ⊢
  rintro ⟨at_, hplace, hsink⟩
  rw [h.place?] at hplace
  rw [h.entryAt at_ hplace] at hsink
  exact hp ⟨at_, hplace, hsink⟩

theorem mayRead (h : FileTree.Keeps p t u) (hp : t.MayRead p) : u.MayRead p := by
  intro at_ hlocate
  have hplace : u.place? p = some at_ := toOption_eq_some_iff.mpr hlocate
  rw [h.place?] at hplace
  have hbar := hp at_ (toOption_eq_some_iff.mp hplace)
  rwa [barred, h.bars]

end FileTree.Keeps

namespace Log

/-- **The log spares a path**: none of its files is the one that the path leads to. -/
def Logger.Spares (l : Logger) (t : FileTree) (p : Path) : Prop :=
  ∀ q least, Handler.file q least ∈ l.handlers → ∀ at_, t.place? q = some at_ →
    t.place? p ≠ some at_

variable {l : Logger} {t t' : FileTree} {p : Path}

theorem Logger.Spares.of_keeps (hl : l.Spares t p) (h : FileTree.Keeps p t t') :
    l.Spares t' p := by
  intro q least hq at_ hplace
  rw [h.place?] at hplace ⊢
  exact hl q least hq at_ hplace

/-- A line goes to one file, and the others are kept. -/
theorem keeps_writeLine {q : Path} (hq : ∀ at_, t.place? q = some at_ → t.place? p ≠ some at_)
    (r : Record) : FileTree.Keeps p t (writeLine t q r) := by
  unfold writeLine
  split
  · exact .refl p t
  · split
    · next t' happend =>
      refine ⟨FileTree.bars_of_update happend, FileTree.place?_of_update happend,
        fun other hother => ?_⟩
      rcases FileTree.update_cases happend with rfl | ⟨at_, content, hplace, -, rfl⟩
      · rfl
      · have hne : other ≠ at_ := by
          rintro rfl
          exact hq other hplace hother
        exact FileTree.entryAt_put_of_ne t hne _
    · exact .refl p t

theorem Logger.Spares.keeps_handle (hl : l.Spares t p) (r : Record) :
    FileTree.Keeps p t (l.handle t r) := by
  unfold Logger.handle
  split
  · -- The handlers take the record one after another, each of them sparing the path.
    obtain ⟨handlers, propagates⟩ := l
    induction handlers generalizing t with
    | nil => exact .refl p t
    | cons h hs ih =>
      have hfirst : FileTree.Keeps p t (h.handle t r) := by
        cases h with
        | console least => exact .refl p t
        | file q least =>
          rw [Handler.handle]
          split
          · exact keeps_writeLine (hl q least List.mem_cons_self) r
          · exact .refl p t
      have hrest : Logger.Spares ⟨hs, propagates⟩ t p :=
        fun q least hq => hl q least (List.mem_cons_of_mem _ hq)
      exact hfirst.trans (ih (hrest.of_keeps hfirst))
  · exact .refl p t

/-- **However much is noted, the file at a spared path is kept.** -/
theorem Logger.Spares.keeps_handleAll (hl : l.Spares t p) (rs : List Record) :
    FileTree.Keeps p t (l.handleAll t rs) := by
  induction rs generalizing t with
  | nil => exact .refl p t
  | cons r rest ih =>
    have hfirst := hl.keeps_handle r
    exact hfirst.trans (ih (hl.of_keeps hfirst))

end Log

/-! ## The desk -/

namespace Desk

theorem after_append (d : Desk) (a b : List Effect) : d.after (a ++ b) = (d.after a).after b := by
  simp only [after, Log.Logger.handleAll, Effect.noted_append, List.foldl_append]

theorem keeps_after {d : Desk} {p : Path} (hd : d.logger.Spares d.tree p) (es : List Effect) :
    FileTree.Keeps p d.tree (d.after es).tree :=
  hd.keeps_handleAll _

end Desk

end SynthDesk
