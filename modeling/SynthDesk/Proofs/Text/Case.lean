/-
One letter in either case.

Who is asked for a letter may type it small or as a capital, and the answer is
compared in lower case. Lower case is a table of all the capitals of Unicode,
and some of these are no capitals of the alphabet: a sign for the kelvin has
the small letter k. So which texts come to one small letter is read off the
table: for each letter except the k, the letter itself and its capital only.
-/
import SynthDesk.Text.Case

set_option autoImplicit false

namespace SynthDesk

namespace CodePoint

/-! ## One code point -/

/-- A small letter of the alphabet with no other capital than its own. -/
def IsPlainSmall (s : CodePoint) : Prop := 97 ≤ s.val ∧ s.val ≤ 122 ∧ s.val ≠ 107

instance (s : CodePoint) : Decidable s.IsPlainSmall := inferInstanceAs (Decidable (_ ∧ _))

/-- The capital of a small letter of the alphabet. -/
def capital (s : CodePoint) : CodePoint := ofNat (s.val - 32)

/-- Every run of capitals has its small letters in the code space, and has them behind
the alphabet, except for the run of the alphabet itself and the sign for the kelvin. -/
theorem small_of_mem_capitalRuns : ∀ run ∈ capitalRuns,
    (run.2.1 : Int) + run.2.2.2 < 0x110000 ∧
      (122 < (run.1 : Int) + run.2.2.2 ∨ run.2.2.2 = 32 ∨
        (run.1 : Int) + run.2.2.2 = 107 ∧ run.2.1 = run.1) := by
  decide +kernel

theorem mem_of_capitalRun?_eq_some {c : CodePoint} {run : Nat × Nat × Nat × Int}
    (h : c.capitalRun? = some run) : run ∈ capitalRuns ∧ run.1 ≤ c.val ∧ c.val ≤ run.2.1 := by
  refine ⟨List.mem_of_find?_eq_some h, ?_⟩
  have hrun := List.find?_some h
  simp only [Bool.and_eq_true, decide_eq_true_eq] at hrun
  exact hrun.1

theorem eq_or_eq_capital_of_lower_eq {c s : CodePoint} (hs : s.IsPlainSmall) (h : c.lower = s) :
    c = s ∨ c = s.capital := by
  obtain ⟨hfirst, hlast, hk⟩ := hs
  rw [lower] at h
  split at h
  next first last step shift hrun =>
    obtain ⟨hmem, hle, hge⟩ := mem_of_capitalRun?_eq_some hrun
    obtain ⟨hspace, hsmall⟩ := small_of_mem_capitalRuns _ hmem
    have hval : (c.val + shift).toNat % 0x110000 = s.val := congrArg Fin.val h
    simp only at hle hge hspace hsmall
    -- Behind the alphabet there is no `s`, and the letter of the kelvin is excluded.
    have hshift : c.val + 32 = s.val := by omega
    refine Or.inr (Fin.ext ?_)
    change c.val = (s.val - 32) % 0x110000
    omega
  next => exact Or.inl h

theorem lower_of_isPlainSmall {s : CodePoint} (hs : s.IsPlainSmall) :
    s.lower = s ∧ s.capital.lower = s := by
  have hall : ∀ n < 26, (ofNat (97 + n)).lower = ofNat (97 + n) ∧
      (ofNat (97 + n)).capital.lower = ofNat (97 + n) := by
    decide +kernel
  obtain ⟨hfirst, hlast, _⟩ := hs
  have hn : ofNat (97 + (s.val - 97)) = s := by
    apply Fin.ext
    change (97 + (s.val - 97)) % 0x110000 = s.val
    omega
  have hletter := hall (s.val - 97) (by omega)
  rwa [hn] at hletter

end CodePoint

namespace Text

/-! ## A text of one letter -/

/-- No code point is lost in lower case. -/
theorem length_le_lowerAfter (before t : Text) : t.length ≤ (lowerAfter before t).length := by
  induction t generalizing before with
  | nil => exact Nat.le_refl 0
  | cons c r ih =>
    have hr := ih (c :: before)
    rw [lowerAfter, List.length_append, List.length_cons]
    -- What stands for `c` is one code point, or two.
    split
    · simp only [List.length_cons]
      omega
    · split <;> simp only [List.length_cons] <;> omega

/-- Alone, any code point but the two special capitals is in lower case by the table. -/
theorem lower_singleton {c : CodePoint} (hi : c.val ≠ 0x130) (hsigma : c.val ≠ 0x3A3) :
    lower [c] = [c.lower] := by
  simp only [lower, lowerAfter, hi, hsigma, if_false, List.append_nil]

/-- **A text is one small letter in lower case** exactly if it is the letter or its capital. -/
theorem lower_eq_singleton_iff {s : CodePoint} (hs : s.IsPlainSmall) (t : Text) :
    t.lower = [s] ↔ t = [s] ∨ t = [s.capital] := by
  constructor
  · intro h
    have hlength : t.length ≤ 1 := by
      have hle := length_le_lowerAfter [] t
      rwa [← lower, h] at hle
    match t, hlength with
    | [], _ => cases h
    | [c], _ =>
      by_cases hi : c.val = 0x130
      · -- The dotted capital is two code points in lower case.
        simp only [lower, lowerAfter, hi, if_true] at h
        cases h
      by_cases hsigma : c.val = 0x3A3
      · -- A sigma by itself is the small sigma, far behind the alphabet.
        obtain rfl : c = CodePoint.ofNat 0x3A3 := Fin.ext hsigma
        have hsmall : CodePoint.ofNat 0x3C3 = s := (List.cons.inj h).1
        have hle := hs.2.1
        rw [← hsmall] at hle
        exact absurd hle (by decide)
      · rw [lower_singleton hi hsigma] at h
        have hc := CodePoint.eq_or_eq_capital_of_lower_eq hs (List.cons.inj h).1
        exact hc.imp (congrArg ([·])) (congrArg ([·]))
  · obtain ⟨hsmall, hcapital⟩ := CodePoint.lower_of_isPlainSmall hs
    obtain ⟨hfirst, hlast, _⟩ := hs
    have hval : s.capital.val = (s.val - 32) % 0x110000 := rfl
    rintro (rfl | rfl)
    · rw [lower_singleton (by omega) (by omega), hsmall]
    · rw [lower_singleton (by omega) (by omega), hcapital]

end Text

end SynthDesk
