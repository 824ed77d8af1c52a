/-
Lists in a text: cutting, joining, trimming.

Cutting is inverse to joining on pieces without the separator, and trimming
takes blanks away at the two ends and nothing else. So a text that lists trimmed
items reads as these items, and reading it does not depend on how many blanks
were typed around them.
-/
import SynthDesk.Text.Blank
import SynthDesk.Text.Split

set_option autoImplicit false

namespace SynthDesk.Text

variable {sep : CodePoint}

/-! ## Joining -/

theorem join_cons (sep t : Text) {ts : List Text} (hne : ts ≠ []) :
    join sep (t :: ts) = t ++ sep ++ join sep ts := by
  cases ts with
  | nil => exact absurd rfl hne
  | cons u r => rfl

theorem join_concat (sep : Text) {ts : List Text} (hne : ts ≠ []) (t : Text) :
    join sep (ts ++ [t]) = join sep ts ++ sep ++ t := by
  induction ts with
  | nil => exact absurd rfl hne
  | cons u r ih =>
    by_cases hr : r = []
    · rw [hr]
      rfl
    · have hmore : r ++ [t] ≠ [] := List.append_ne_nil_of_left_ne_nil hr [t]
      rw [List.cons_append, join_cons sep u hmore, join_cons sep u hr, ih hr]
      simp only [List.append_assoc]

/-- What is joined holds nothing but the pieces and what is put between them. -/
theorem mem_or_of_mem_join {sep : Text} {ts : List Text} {c : CodePoint} (h : c ∈ join sep ts) :
    c ∈ sep ∨ ∃ t ∈ ts, c ∈ t := by
  induction ts with
  | nil => cases h
  | cons t r ih =>
    by_cases hr : r = []
    · rw [hr] at h
      exact .inr ⟨t, List.mem_cons_self, h⟩
    · rw [join_cons sep t hr, List.mem_append, List.mem_append] at h
      rcases h with (ht | hsep) | hrest
      · exact .inr ⟨t, List.mem_cons_self, ht⟩
      · exact .inl hsep
      · rcases ih hrest with hsep | ⟨u, hu, hc⟩
        · exact .inl hsep
        · exact .inr ⟨u, List.mem_cons_of_mem _ hu, hc⟩

/-! ## Cutting what was joined -/

theorem splitOn_of_not_mem {t : Text} (h : sep ∉ t) : splitOn sep t = [t] := by
  induction t with
  | nil => rfl
  | cons c r ih =>
    have hc : c ≠ sep := fun heq => h (heq ▸ List.mem_cons_self)
    rw [splitOn, if_neg hc, ih fun hr => h (List.mem_cons_of_mem _ hr)]

/-- The first separator cuts off what is before it. -/
theorem splitOn_append {t : Text} (h : sep ∉ t) (r : Text) :
    splitOn sep (t ++ sep :: r) = t :: splitOn sep r := by
  induction t with
  | nil => rw [List.nil_append, splitOn, if_pos rfl]
  | cons c s ih =>
    have hc : c ≠ sep := fun heq => h (heq ▸ List.mem_cons_self)
    rw [List.cons_append, splitOn, if_neg hc, ih fun hs => h (List.mem_cons_of_mem _ hs)]

/-- **Cutting undoes joining**, where no piece holds the separator. -/
theorem splitOn_join {ts : List Text} (h : ∀ t ∈ ts, sep ∉ t) (hne : ts ≠ []) :
    splitOn sep (join [sep] ts) = ts := by
  induction ts with
  | nil => exact absurd rfl hne
  | cons t r ih =>
    have ht : sep ∉ t := h t List.mem_cons_self
    cases r with
    | nil => exact splitOn_of_not_mem ht
    | cons u r =>
      have hrest := ih (fun v hv => h v (List.mem_cons_of_mem _ hv)) (List.cons_ne_nil u r)
      rw [join, List.append_assoc, List.singleton_append, splitOn_append ht, hrest]

/-! ## Trimming -/

/-- No blank at either end. -/
structure Trimmed (t : Text) : Prop where
  head : ∀ c, t.head? = some c → c.isBlank = false
  last : ∀ c, t.getLast? = some c → c.isBlank = false

/-- What is trimmed stays as it is. -/
theorem strip_of_trimmed {t : Text} (h : t.Trimmed) : t.strip = t := by
  have hstart : t.stripStart = t := by
    cases t with
    | nil => rfl
    | cons c r => rw [stripStart, List.dropWhile_cons_of_neg (by simp [h.head c rfl])]
  have hend : t.stripEnd = t := by
    rw [stripEnd]
    cases hrev : t.reverse with
    | nil =>
      rw [List.reverse_eq_nil_iff.mp hrev]
      rfl
    | cons c r =>
      have hlast : t.getLast? = some c := by rw [← List.head?_reverse, hrev, List.head?_cons]
      rw [List.dropWhile_cons_of_neg (by simp [h.last c hlast]), ← hrev, List.reverse_reverse]
  rw [strip, hstart, hend]

theorem head_stripStart (t : Text) (c : CodePoint) (h : t.stripStart.head? = some c) :
    c.isBlank = false := by
  have hnot := List.head?_dropWhile_not CodePoint.isBlank t
  rw [stripStart] at h
  rw [h] at hnot
  simpa using hnot

/-- Blanks are taken away at the beginning, and nothing else. -/
theorem exists_blanks_stripStart (t : Text) :
    ∃ blanks, t = blanks ++ t.stripStart ∧ isBlank blanks = true := by
  refine ⟨t.takeWhile CodePoint.isBlank, List.takeWhile_append_dropWhile.symm, ?_⟩
  exact List.all_takeWhile

/-- Blanks are taken away at the end, and nothing else. -/
theorem exists_blanks_stripEnd (t : Text) :
    ∃ blanks, t = t.stripEnd ++ blanks ∧ isBlank blanks = true := by
  obtain ⟨blanks, hsplit, hblank⟩ := exists_blanks_stripStart t.reverse
  refine ⟨blanks.reverse, ?_, ?_⟩
  · have hrev := congrArg List.reverse hsplit
    rwa [List.reverse_reverse, List.reverse_append] at hrev
  · rw [isBlank, List.all_reverse]
    exact hblank

/-- Behind what trimming at the end leaves there are blanks only. -/
theorem isBlank_drop {t : Text} {n : Nat} (h : t.stripEnd.length ≤ n) :
    isBlank (t.drop n) = true := by
  obtain ⟨blanks, hsplit, hblank⟩ := exists_blanks_stripEnd t
  have hdrop := congrArg (List.drop n) hsplit
  rw [List.drop_append, List.drop_of_length_le h, List.nil_append] at hdrop
  rw [isBlank, List.all_eq_true] at hblank ⊢
  rw [hdrop]
  exact fun c hc => hblank c (List.mem_of_mem_drop hc)

/-- **What trimming leaves has no blank at either end.** -/
theorem trimmed_strip (t : Text) : t.strip.Trimmed where
  head := by
    intro c hc
    -- What the end has lost are blanks, so the beginning is the one that was left before.
    obtain ⟨blanks, hsplit, -⟩ := exists_blanks_stripEnd t.stripStart
    apply head_stripStart t c
    rw [hsplit, List.head?_append]
    have hhead : t.stripStart.stripEnd.head? = some c := hc
    rw [hhead]
    rfl
  last := by
    intro c hc
    rw [strip, stripEnd, List.getLast?_reverse] at hc
    exact head_stripStart _ c hc

/-- **Trimming takes blanks away at the two ends, and nothing else.** -/
theorem exists_blanks_strip (t : Text) :
    ∃ before after, t = before ++ t.strip ++ after ∧ isBlank before = true ∧
      isBlank after = true := by
  obtain ⟨before, hbefore, hblank⟩ := exists_blanks_stripStart t
  obtain ⟨after, hafter, hblank'⟩ := exists_blanks_stripEnd t.stripStart
  refine ⟨before, after, ?_, hblank, hblank'⟩
  rw [List.append_assoc]
  exact hbefore.trans (congrArg (before ++ ·) hafter)

theorem mem_of_mem_strip {t : Text} {c : CodePoint} (h : c ∈ t.strip) : c ∈ t := by
  obtain ⟨before, after, hsplit, -, -⟩ := exists_blanks_strip t
  rw [hsplit]
  exact List.mem_append_left _ (List.mem_append_right _ h)

end SynthDesk.Text
