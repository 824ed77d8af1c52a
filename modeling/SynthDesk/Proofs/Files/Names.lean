/-
What the name of a file is made of.

Cutting a text at its slashes takes code points away and adds none, and going up
takes whole parts away. So a path has nothing in its text, however it was completed
from the root on, but slashes, a dot, and what was in the texts that it came from;
in particular it has no U+0000 if they had none.
-/
import SynthDesk.Log.Setup
import SynthDesk.Proofs.Text.Listing
import Mathlib.Data.List.Induction
import Mathlib.Data.List.TakeWhile

set_option autoImplicit false

namespace SynthDesk

/-! ## Pieces of a text -/

namespace Text

variable {sep : CodePoint} {t piece : Text} {c : CodePoint}

theorem mem_join_of_mem {between : Text} {ts : List Text} (ht : t ∈ ts) (hc : c ∈ t) :
    c ∈ join between ts := by
  induction ts with
  | nil => cases ht
  | cons u r ih =>
    by_cases hr : r = []
    · rw [hr, List.mem_singleton] at ht
      rw [hr, ← ht]
      exact hc
    · rw [join_cons between u hr, List.mem_append, List.mem_append]
      rcases List.mem_cons.mp ht with rfl | ht
      · exact .inl (.inl hc)
      · exact .inr (ih ht)

/-- A piece has nothing that the text has not. -/
theorem mem_of_mem_splitOn (h : piece ∈ splitOn sep t) (hc : c ∈ piece) : c ∈ t := by
  rw [← join_splitOn sep t]
  exact mem_join_of_mem h hc

end Text

/-! ## Names that are none -/

namespace Name

variable {name : Text}

theorem hasNul_eq_false_iff : hasNul name = false ↔ ∀ c ∈ name, c.val ≠ 0 := by
  simp [hasNul]

/-- What lacks octets is what is wrong with the name, whatever else is. -/
theorem exists_fault? (h : ¬ ∀ c ∈ name, lacksOctets c = false) :
    ∃ e, fault? name = some (.noOctets e) := by
  cases hfirst : Utf8.firstOf lacksOctets name with
  | none => exact absurd (Utf8.firstOf_eq_none_iff.mp hfirst) h
  | some e => exact ⟨e, by rw [fault?, hfirst]⟩

end Name

/-! ## The working directory -/

namespace FileTree

variable {t : FileTree}

theorem exists_of_map_ok {ε α β : Type} {x : Except ε α} {f : α → β} {b : β}
    (h : x.map f = .ok b) : ∃ a, x = .ok a ∧ f a = b := by
  cases x with
  | error e => cases h
  | ok a => exact ⟨a, rfl, Except.ok.inj h⟩

theorem eq_home_of_workingDirectory {home : Place} (h : t.workingDirectory = .ok home) :
    home = t.home := by
  unfold workingDirectory at h
  split at h
  · exact (Except.ok.inj h).symm
  · cases h

end FileTree

/-! ## Paths without U+0000 -/

namespace Path

variable {p : Path} {t : Text} {home : Place}

/-- **No U+0000** anywhere in the path. -/
structure NulFree (p : Path) : Prop where
  root : ∀ c ∈ p.root, c.val ≠ 0
  parts : ∀ part ∈ p.parts, ∀ c ∈ part, c.val ≠ 0

theorem val_slash_ne_zero : slash.val ≠ 0 := by decide

theorem eq_slash_of_mem_rootOf {slashes : Nat} {c : CodePoint} (h : c ∈ rootOf slashes) :
    c = slash := by
  unfold rootOf at h
  split at h
  · cases h
  · simpa using h
  · simpa using h

theorem mem_of_mem_foldUps {parts : List Text} {part : Text}
    (h : part ∈ FileTree.absolute.foldUps parts) : part ∈ parts := by
  induction parts using List.reverseRecOn with
  | nil => exact h
  | append_singleton r last ih =>
    rw [FileTree.absolute.foldUps, List.foldl_append, List.foldl_cons, List.foldl_nil] at h
    split at h
    · exact List.mem_append_left _ (ih ((List.dropLast_sublist _).subset h))
    · rcases List.mem_append.mp h with hr | hlast
      · exact List.mem_append_left _ (ih hr)
      · exact List.mem_append_right _ hlast

theorem nulFree_ofText (h : ∀ c ∈ t, c.val ≠ 0) : (ofText t).NulFree where
  root := by
    intro c hc
    rw [eq_slash_of_mem_rootOf hc]
    exact val_slash_ne_zero
  parts := by
    intro part hpart c hc
    exact h c (Text.mem_of_mem_splitOn (List.mem_filter.mp hpart).1 hc)

/-- An entry of a directory that is named from the root on. -/
theorem nulFree_child (hhome : ∀ part ∈ home, ∀ c ∈ part, c.val ≠ 0) (h : ∀ c ∈ t, c.val ≠ 0) :
    (child ⟨[slash], home⟩ t).NulFree where
  root := by
    intro c hc
    rw [List.mem_singleton.mp hc]
    exact val_slash_ne_zero
  parts := by
    intro part hpart
    rcases List.mem_append.mp hpart with hpart | hpart
    · exact hhome part hpart
    · rw [List.mem_singleton.mp hpart]
      exact h

theorem NulFree.absolute {t : FileTree} {full : Path} (h : p.NulFree)
    (hhome : ∀ part ∈ t.home, ∀ c ∈ part, c.val ≠ 0) (hfull : t.absolute p = .ok full) :
    full.NulFree := by
  unfold FileTree.absolute at hfull
  split at hfull
  · cases hfull
    exact ⟨h.root, fun part hpart => h.parts part (mem_of_mem_foldUps hpart)⟩
  · obtain ⟨home, hat, rfl⟩ := FileTree.exists_of_map_ok hfull
    obtain rfl := FileTree.eq_home_of_workingDirectory hat
    refine ⟨?_, ?_⟩
    · intro c hc
      rw [List.mem_singleton.mp hc]
      exact val_slash_ne_zero
    · intro part hpart
      rcases List.mem_append.mp (mem_of_mem_foldUps hpart) with hpart | hpart
      · exact hhome part hpart
      · exact h.parts part hpart

theorem NulFree.hasNul_toText (h : p.NulFree) : Name.hasNul p.toText = false := by
  rw [Name.hasNul_eq_false_iff]
  intro c hc
  unfold toText at hc
  split at hc
  · rw [List.mem_singleton.mp hc]
    decide
  · rcases List.mem_append.mp hc with hc | hc
    · exact h.root c hc
    · rcases Text.mem_or_of_mem_join hc with hc | ⟨part, hpart, hc⟩
      · rw [List.mem_singleton.mp hc]
        exact val_slash_ne_zero
      · exact h.parts part hpart c hc

end Path

end SynthDesk
