/-
Columns of a text and of its parts.

A text takes no fewer columns than any of its beginnings, and no fewer than its parts
together, wherever it is cut but after a joiner. The second is the fact that layout rests
on: a line that has room as a whole has room word by word, so it is not broken, and
stretch by stretch, so it is not cut off. A part on its own may take fewer columns than in
its place, since a selector at its beginning finds no sign to widen there.
-/
import SynthDesk.Proofs.Text.Listing
import SynthDesk.Text.Wrap

set_option autoImplicit false

namespace SynthDesk

/-! ## Code points that take no column -/

namespace CodePoint

variable {c : CodePoint}

theorem width_of_isJoiner (h : c.isJoiner = true) : c.width = 0 := by
  obtain rfl : c = ofNat 0x200D := Fin.ext (of_decide_eq_true h)
  decide

theorem width_of_isPictureSelector (h : c.isPictureSelector = true) : c.width = 0 := by
  obtain rfl : c = ofNat 0xFE0F := Fin.ext (of_decide_eq_true h)
  decide

/-- A blank is no joiner. -/
theorem isJoiner_of_isBlank (h : c.isBlank = true) : c.isJoiner = false := by
  cases hjoiner : c.isJoiner with
  | false => rfl
  | true =>
    obtain rfl : c = ofNat 0x200D := Fin.ext (of_decide_eq_true hjoiner)
    cases h

end CodePoint

namespace Text

/-! ## One code point -/

section OneCodePoint

variable {c : CodePoint}

/-- After a joiner one code point takes no column. -/
theorem widthAfter_joiner (hc : c.isJoiner = true) (sign : Option CodePoint) (d : CodePoint)
    (r : Text) : widthAfter sign (c :: d :: r) = widthAfter sign r := by
  simp only [widthAfter, hc, if_true]

theorem widthAfter_joiner_last (hc : c.isJoiner = true) (sign : Option CodePoint) :
    widthAfter sign [c] = 0 := by
  simp only [widthAfter, hc, if_true]

/-- A selector takes a column where it finds a sign with a picture. -/
theorem widthAfter_selector (hc : ¬ c.isJoiner = true) (hs : c.isPictureSelector = true)
    (sign : Option CodePoint) (r : Text) :
    widthAfter sign (c :: r) =
      (if sign.any CodePoint.hasPicture then 1 else 0) + widthAfter none r := by
  rw [widthAfter.eq_def]
  dsimp only
  rw [if_neg hc, if_pos hs]
  cases sign with
  | none => exact (Nat.zero_add _).symm
  | some s => rfl

theorem widthAfter_plain (hc : ¬ c.isJoiner = true) (hs : ¬ c.isPictureSelector = true)
    (sign : Option CodePoint) (r : Text) :
    widthAfter sign (c :: r) = c.width + widthAfter (if c.width = 0 then sign else some c) r := by
  rw [widthAfter.eq_def]
  dsimp only
  rw [if_neg hc, if_neg hs]

end OneCodePoint

/-! ## Parts of a text -/

/-- A sign before a text makes it no narrower. -/
theorem widthAfter_none_le (sign : Option CodePoint) (t : Text) :
    widthAfter none t ≤ widthAfter sign t := by
  induction sign, t using widthAfter.induct with
  | case1 sign => exact Nat.le_refl 0
  | case2 sign c hc =>
    exact Nat.le_of_eq (by rw [widthAfter_joiner_last hc, widthAfter_joiner_last hc])
  | case3 sign c hc d r ih =>
    rw [widthAfter_joiner hc, widthAfter_joiner hc]
    exact ih
  | case4 c r hc hs s _ =>
    rw [widthAfter_selector hc hs, widthAfter_selector hc hs]
    exact Nat.add_le_add_right (Nat.zero_le _) _
  | case5 c r hc hs _ => exact Nat.le_refl _
  | case6 sign c r hc hs ih =>
    rw [widthAfter_plain hc hs, widthAfter_plain hc hs]
    -- A code point with columns of its own is the sign from now on.
    by_cases hwidth : c.width = 0
    · rw [if_pos hwidth] at ih ⊢
      rw [if_pos hwidth]
      omega
    · exact Nat.le_of_eq (by rw [if_neg hwidth, if_neg hwidth])

/-- **A beginning is no wider** than the text. -/
theorem widthAfter_le_append (sign : Option CodePoint) (a b : Text) :
    widthAfter sign a ≤ widthAfter sign (a ++ b) := by
  induction sign, a using widthAfter.induct with
  | case1 sign => exact Nat.zero_le _
  | case2 sign c hc =>
    rw [widthAfter_joiner_last hc]
    exact Nat.zero_le _
  | case3 sign c hc d r ih =>
    rw [List.cons_append, List.cons_append, widthAfter_joiner hc, widthAfter_joiner hc]
    exact ih
  | case4 c r hc hs s ih =>
    rw [List.cons_append, widthAfter_selector hc hs, widthAfter_selector hc hs]
    omega
  | case5 c r hc hs ih =>
    rw [List.cons_append, widthAfter_selector hc hs, widthAfter_selector hc hs]
    omega
  | case6 sign c r hc hs ih =>
    rw [List.cons_append, widthAfter_plain hc hs, widthAfter_plain hc hs]
    omega

theorem width_le_append (a b : Text) : width a ≤ width (a ++ b) := widthAfter_le_append none a b

theorem width_take_le (n : Nat) (t : Text) : width (t.take n) ≤ width t := by
  have hle := width_le_append (t.take n) (t.drop n)
  rwa [List.take_append_drop] at hle

/-- What nothing can be added to without a look at it: a text that ends in a joiner. -/
def EndsOpen (t : Text) : Prop := ∃ c ∈ t.getLast?, c.isJoiner = true

theorem not_endsOpen_nil : ¬ EndsOpen [] := by
  rintro ⟨c, hc, -⟩
  cases hc

/-- What comes before does not matter. -/
theorem EndsOpen.append_left {t : Text} (h : EndsOpen t) (before : Text) :
    EndsOpen (before ++ t) := by
  obtain ⟨c, hc, hjoiner⟩ := h
  refine ⟨c, ?_, hjoiner⟩
  rw [List.getLast?_append, hc]
  rfl

theorem not_endsOpen_concat {c : CodePoint} (h : c.isJoiner = false) (t : Text) :
    ¬ EndsOpen (t ++ [c]) := by
  rintro ⟨d, hd, hjoiner⟩
  rw [List.getLast?_concat] at hd
  obtain rfl : c = d := Option.some.inj hd
  rw [h] at hjoiner
  cases hjoiner

/-- A place at which a text can be cut: what stands before it does not end in a joiner. -/
def Seam (t : Text) (place : Nat) : Prop := ¬ EndsOpen (t.take place)

/-- A place stays one when the text goes on. -/
theorem Seam.append {t : Text} {place : Nat} (h : Seam t place) (hplace : place ≤ t.length)
    (more : Text) : Seam (t ++ more) place := by
  rwa [Seam, List.take_append_of_le_length hplace]

/-- **Parts are no wider together** than the text, unless it is cut after a joiner. -/
theorem widthAfter_add_le {a : Text} (ha : ¬ EndsOpen a) (sign : Option CodePoint) (b : Text) :
    widthAfter sign a + width b ≤ widthAfter sign (a ++ b) := by
  induction sign, a using widthAfter.induct with
  | case1 sign =>
    rw [widthAfter, Nat.zero_add]
    exact widthAfter_none_le sign b
  | case2 sign c hc => exact absurd ⟨c, rfl, hc⟩ ha
  | case3 sign c hc d r ih =>
    -- The joiner takes the next code point with it, and the cut is behind both.
    have hr := ih fun h => ha (h.append_left [c, d])
    rw [List.cons_append, List.cons_append, widthAfter_joiner hc, widthAfter_joiner hc]
    exact hr
  | case4 c r hc hs s ih =>
    have hr := ih fun h => ha (h.append_left [c])
    rw [List.cons_append, widthAfter_selector hc hs, widthAfter_selector hc hs]
    omega
  | case5 c r hc hs ih =>
    have hr := ih fun h => ha (h.append_left [c])
    rw [List.cons_append, widthAfter_selector hc hs, widthAfter_selector hc hs]
    omega
  | case6 sign c r hc hs ih =>
    have hr := ih fun h => ha (h.append_left [c])
    rw [List.cons_append, widthAfter_plain hc hs, widthAfter_plain hc hs]
    omega

theorem width_add_le {a : Text} (ha : ¬ EndsOpen a) (b : Text) :
    width a + width b ≤ width (a ++ b) := widthAfter_add_le ha none b

/-- Where every code point takes columns, there are as many columns as code points at
least. -/
theorem length_le_widthAfter {t : Text} (h : ∀ c ∈ t, c.width ≠ 0) (sign : Option CodePoint) :
    t.length ≤ widthAfter sign t := by
  induction t generalizing sign with
  | nil => exact Nat.le_refl 0
  | cons c r ih =>
    obtain ⟨hc, hr⟩ := List.forall_mem_cons.mp h
    have hrest := ih hr (if c.width = 0 then sign else some c)
    rw [widthAfter_plain (fun hj => hc (CodePoint.width_of_isJoiner hj))
      (fun hs => hc (CodePoint.width_of_isPictureSelector hs)), List.length_cons]
    omega

/-- So a text with more code points than columns holds some that take none. -/
theorem exists_width_eq_zero {t : Text} (h : t.width < t.length) : ∃ c ∈ t, c.width = 0 :=
  Classical.byContradiction fun hnone => Nat.not_le_of_lt h
    (length_le_widthAfter (fun c hc hzero => hnone ⟨c, hc, hzero⟩) none)

/-! ## Lines that are not broken -/

/-- The columns of words one by one. -/
def widths : List Text → Nat
  | [] => 0
  | w :: r => width w + widths r

/-- Empty texts take no columns. -/
theorem widths_filter (ts : List Text) : widths (ts.filter fun t => !t.isEmpty) = widths ts := by
  induction ts with
  | nil => rfl
  | cons t r ih =>
    cases t with
    | nil => exact ih.trans (Nat.zero_add _).symm
    | cons c q => exact congrArg (width (c :: q) + ·) ih

/-- **Words are no wider together** than the text: they end with blanks, if another one
comes after them. -/
theorem widths_wordsAfter_le {word : Text} {solid closed : Bool} (t : Text)
    (hclosed : closed = true → ∃ c r, word = c :: r ∧ c.isBlank = true) :
    widths (wordsAfter word solid closed t) ≤ width (word.reverse ++ t) := by
  induction t generalizing word solid closed with
  | nil =>
    rw [wordsAfter, List.append_nil]
    cases solid with
    | true => simp [widths]
    | false => exact Nat.zero_le _
  | cons c r ih =>
    have hmove : word.reverse ++ c :: r = (c :: word).reverse ++ r := by
      rw [List.reverse_cons, List.append_assoc, List.singleton_append]
    rw [wordsAfter]
    by_cases hblank : c.isBlank = true
    · rw [if_pos hblank, hmove]
      exact ih fun _ => ⟨c, word, rfl, hblank⟩
    · rw [if_neg hblank]
      cases closed with
      | true =>
        -- The word ends here, in a blank, and the next one begins.
        obtain ⟨d, q, rfl, hd⟩ := hclosed rfl
        have hnext : widths (wordsAfter [c] true false r) ≤ width ([c].reverse ++ r) :=
          ih fun h => by cases h
        have hend : ¬ EndsOpen (d :: q).reverse := by
          rw [List.reverse_cons]
          exact not_endsOpen_concat (CodePoint.isJoiner_of_isBlank hd) _
        have hadd := width_add_le hend (c :: r)
        simp only [if_true, widths] at hnext ⊢
        exact Nat.le_trans (Nat.add_le_add_left hnext _) hadd
      | false =>
        rw [if_neg Bool.false_ne_true, hmove]
        exact ih fun h => by cases h

theorem widths_spacedWords_le (t : Text) : widths t.spacedWords ≤ t.width :=
  widths_wordsAfter_le t fun h => by cases h

theorem width_stripEnd_le (t : Text) : t.stripEnd.width ≤ t.width := by
  obtain ⟨blanks, ht, -⟩ := exists_blanks_stripEnd t
  have hle := width_le_append t.stripEnd blanks
  rwa [← ht] at hle

theorem breaksAfter_eq_nil {columns used : Nat} {ws : List Text} (h : used + widths ws ≤ columns)
    (place : Nat) : breaksAfter columns used place ws = [] := by
  induction ws generalizing used place with
  | nil => rfl
  | cons w r ih =>
    rw [widths] at h
    have hword := width_stripEnd_le w
    rw [breaksAfter, if_pos (by omega)]
    exact ih (by omega) _

/-- **A text that has room is not broken.** -/
theorem breaks_eq_nil {columns : Nat} {t : Text} (h : t.width ≤ columns) : breaks columns t = [] :=
  breaksAfter_eq_nil (by
    rw [Nat.zero_add]
    exact Nat.le_trans (widths_spacedWords_le t) h) 0

/-! ## The widest line -/

/-- A text on one line. -/
def Unbroken (t : Text) : Prop := ∀ c ∈ t, isLineBreak c = false

theorem widestAfter_append {t : Text} (ht : Unbroken t) (line r : Text) :
    widestAfter line (t ++ r) = widestAfter (t.reverse ++ line) r := by
  induction t generalizing line with
  | nil => rfl
  | cons c q ih =>
    obtain ⟨hc, hq⟩ := List.forall_mem_cons.mp ht
    rw [List.cons_append, widestAfter, hc, if_neg Bool.false_ne_true, ih hq, List.reverse_cons,
      List.append_assoc, List.singleton_append]

theorem widestAfter_unbroken {t : Text} (ht : Unbroken t) (line : Text) :
    widestAfter line t = width (line.reverse ++ t) := by
  have hall := widestAfter_append ht line []
  rw [List.append_nil, widestAfter, List.reverse_append, List.reverse_reverse] at hall
  exact hall

/-- **No line is wider than the widest.** -/
theorem width_le_widest {lines : List Text} (h : ∀ line ∈ lines, Unbroken line) :
    ∀ line ∈ lines, line.width ≤ widest (join [newline] lines) := by
  induction lines with
  | nil =>
    intro line hline
    cases hline
  | cons first r ih =>
    obtain ⟨hfirst, hr⟩ := List.forall_mem_cons.mp h
    cases r with
    | nil =>
      intro line hline
      obtain rfl := List.mem_singleton.mp hline
      rw [join, widest, widestAfter_unbroken hfirst]
      exact Nat.le_refl _
    | cons second r =>
      have hsplit : widest (join [newline] (first :: second :: r)) =
          max first.width (widest (join [newline] (second :: r))) := by
        rw [join_cons _ _ (List.cons_ne_nil _ _), widest, List.append_assoc,
          widestAfter_append hfirst, List.singleton_append,
          widestAfter, if_pos (by decide), List.append_nil, List.reverse_reverse]
        rfl
      rw [hsplit]
      intro line hline
      rcases List.mem_cons.mp hline with rfl | hline
      · exact Nat.le_max_left _ _
      · exact Nat.le_trans (ih hr line hline) (Nat.le_max_right _ _)

end Text

end SynthDesk
