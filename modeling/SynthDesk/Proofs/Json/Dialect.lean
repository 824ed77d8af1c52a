/-
Where readers of documents differ.

Four things on which one reader of JSON may not be like another: the words for
doubles that are no finite numbers, which are values here; the number of digits of
a whole number, which has a limit; a byte order mark before the document, and
controls in a string as they stand, neither of which there can be.
-/
import SynthDesk.Proofs.Json.Acceptance

set_option autoImplicit false

namespace SynthDesk.Json

/-- The words for the doubles that are no finite numbers are values. -/
theorem written_word {w : Text} {v : Value} (h : (w, v) ∈ words) (levels : Nat) :
    Written levels w v := by
  cases levels with
  | zero => exact .word h
  | succ levels => exact .scalar (.word h)

theorem Whole.digits_all {ds : Text} (h : Whole ds) : Digits ds := by
  cases h with
  | zero => exact List.forall_mem_singleton.mpr (by decide)
  | digits hc hzero hds => exact List.forall_mem_cons.mpr ⟨hc, hds⟩

/-- A fraction or an exponent brings a point or a letter. -/
theorem exists_mark {f decimals e : Text} {power : Option Int} (hf : Fraction f decimals)
    (he : Exponent e power) (hne : f ++ e ≠ []) :
    ∃ c ∈ f ++ e, c.isDigit = false ∧ c ≠ '-' := by
  cases hf with
  | decimals hne hds => exact ⟨_, List.mem_cons_self, by decide, by decide⟩
  | absent =>
    cases he with
    | absent => exact absurd rfl hne
    | power hletter hs hne hds =>
      rcases hletter with rfl | rfl
      · exact ⟨_, List.mem_cons_self, by decide, by decide⟩
      · exact ⟨_, List.mem_cons_self, by decide, by decide⟩

/-- What is written in digits alone, but for a sign, is a whole number. -/
theorem Scalar.length_le_of_digits {negative : Bool} {ds : Text} {v : Value} (hds : Digits ds)
    (h : Scalar (sign negative ++ ds) v) : ds.length ≤ Value.digitLimit := by
  have hall : ∀ c ∈ sign negative ++ ds, c = '-' ∨ c.isDigit = true := by
    intro c hc
    rcases List.mem_append.mp hc with hc | hc
    · cases negative with
      | true => exact Or.inl (List.mem_singleton.mp hc)
      | false => cases hc
    · exact Or.inr (hds c hc)
  generalize hw : sign negative ++ ds = w at h hall
  cases h with
  | text h =>
    cases h with
    | quoted h =>
      have hquote : ¬ (CodePoint.ofChar '"' = '-' ∨ (CodePoint.ofChar '"').isDigit = true) := by
        decide
      exact absurd (hall _ List.mem_cons_self) hquote
  | word h =>
    obtain ⟨c, d, r, rfl, -, -, -, hc, hd⟩ := head_of_mem_words h
    cases negative with
    | true =>
      have hrest : ds = d :: r := (List.cons.inj hw).2
      have hdigit : d.isDigit = true := hds d (by rw [hrest]; exact List.mem_cons_self)
      exact absurd rfl (ne_of_test hdigit hd)
    | false =>
      have hrest : ds = c :: d :: r := hw
      have hdigit : c.isDigit = true := hds c (by rw [hrest]; exact List.mem_cons_self)
      exact absurd rfl (ne_of_test hdigit hc)
  | number h =>
    cases h with
    | @whole negative' ds' hds' hlimit =>
      have hfilter : ∀ {negative ds}, Digits ds →
          (sign negative ++ ds).filter CodePoint.isDigit = ds := by
        intro negative ds hds
        rw [List.filter_append, List.filter_eq_self.mpr hds]
        cases negative <;> rfl
      rw [← hfilter hds, hw, hfilter hds'.digits_all]
      exact hlimit
    | @double negative' ds' f decimals e power hds' hf he hne =>
      obtain ⟨c, hc, hdigit, hminus⟩ := exists_mark hf he hne
      have hmem : c ∈ sign negative' ++ (ds' ++ (f ++ e)) :=
        List.mem_append_right _ (List.mem_append_right _ hc)
      rcases hall c hmem with rfl | hc'
      · exact absurd rfl hminus
      · exact absurd rfl (ne_of_test hc' hdigit)

/-- Digits that are too many are no value, with a sign or without one. -/
theorem not_written_digits {ds : Text} (hds : Digits ds) (hmany : Value.digitLimit < ds.length)
    (levels : Nat) (negative : Bool) (v : Value) : ¬ Written levels (sign negative ++ ds) v := by
  have hscalar : ¬ Scalar (sign negative ++ ds) v := fun h =>
    Nat.not_lt.mpr (h.length_le_of_digits hds) hmany
  -- An opening bracket is no digit.
  have hopen : ∀ {c r}, opening? c ≠ none → sign negative ++ ds ≠ c :: r := by
    rintro c r hc hw
    cases negative with
    | true =>
      obtain rfl : CodePoint.ofChar '-' = c := (List.cons.inj hw).1
      exact hc (by decide)
    | false =>
      have hrest : ds = c :: r := hw
      exact hc (opening?_of_isDigit (hds c (by rw [hrest]; exact List.mem_cons_self)))
  intro h
  cases levels with
  | zero => exact hscalar h
  | succ levels =>
    generalize hw : sign negative ++ ds = w at h hscalar
    cases h with
    | scalar h => exact hscalar h
    | list h => exact hopen (by decide) hw
    | object h => exact hopen (by decide) hw

/-- No document begins with a byte order mark. -/
theorem not_isDocument_mark (levels : Nat) (t : Text) (v : Value) :
    ¬ IsDocument levels (CodePoint.ofNat 0xFEFF :: t) v := by
  have hrefused : document levels (CodePoint.ofNat 0xFEFF :: t) =
      .error (.malformed .noValue (CodePoint.ofNat 0xFEFF :: t)) := by
    cases levels <;> rfl
  intro h
  rcases document_finds h levels with hread | ⟨-, n, hread⟩
  · rw [hrefused] at hread
    cases hread
  · rw [hrefused] at hread
    cases hread

/-- What a letter after a backslash can be, and four hexadecimal digits, are no
controls. -/
theorem le_val_of_escaped? {e u : CodePoint} (h : escaped? e = some u) : 0x20 ≤ e.val := by
  by_contra hlow
  have hne : ∀ {c : Char}, 0x20 ≤ (CodePoint.ofChar c).val → e ≠ c := by
    rintro c hc rfl
    exact hlow hc
  have hnone : escaped? e = none := by
    rw [escaped?, decide_eq_false (hne (by decide)), decide_eq_false (hne (by decide)),
      decide_eq_false (hne (by decide)), if_neg (hne (by decide)), if_neg (hne (by decide)),
      if_neg (hne (by decide)), if_neg (hne (by decide)), if_neg (hne (by decide))]
    rfl
  rw [hnone] at h
  cases h

theorem le_val_of_hexValue? {c : CodePoint} {n : Nat} (h : Text.hexValue? c = some n) :
    0x20 ≤ c.val := by
  by_contra hlow
  have hnone : Text.hexValue? c = none := by
    unfold Text.hexValue?
    rw [decide_eq_false (show ¬ 48 ≤ c.val by omega), decide_eq_false (show ¬ 97 ≤ c.val by omega),
      decide_eq_false (show ¬ 65 ≤ c.val by omega)]
    rfl
  rw [hnone] at h
  cases h

theorem le_val_of_unit? {x y z k u : CodePoint} (h : unit? x y z k = some u) :
    0x20 ≤ x.val ∧ 0x20 ≤ y.val ∧ 0x20 ≤ z.val ∧ 0x20 ≤ k.val := by
  obtain ⟨a, ha, h⟩ := Option.bind_eq_some_iff.mp h
  obtain ⟨b, hb, h⟩ := Option.bind_eq_some_iff.mp h
  obtain ⟨c, hc, h⟩ := Option.bind_eq_some_iff.mp h
  obtain ⟨d, hd, -⟩ := Option.bind_eq_some_iff.mp h
  exact ⟨le_val_of_hexValue? ha, le_val_of_hexValue? hb, le_val_of_hexValue? hc,
    le_val_of_hexValue? hd⟩

/-- There are no controls in a string, as it is written. -/
theorem IsString.controlless {w t : Text} (h : IsString w t) : ∀ c ∈ w, 0x20 ≤ c.val := by
  have hbody : ∀ {body us}, StringBody body us → ∀ c ∈ body, 0x20 ≤ c.val := by
    intro body us hbody
    induction hbody with
    | nil => exact List.forall_mem_nil _
    | plain hlow hquote hblack _ ih => exact List.forall_mem_cons.mpr ⟨hlow, ih⟩
    | letter he _ ih =>
      exact List.forall_mem_cons.mpr ⟨by decide,
        List.forall_mem_cons.mpr ⟨le_val_of_escaped? he, ih⟩⟩
    | unit hu _ ih =>
      obtain ⟨hx, hy, hz, hk⟩ := le_val_of_unit? hu
      simp only [List.forall_mem_cons]
      exact ⟨by decide, by decide, hx, hy, hz, hk, ih⟩
  cases h with
  | quoted h =>
    refine List.forall_mem_cons.mpr ⟨by decide, List.forall_mem_append.mpr ⟨hbody h, ?_⟩⟩
    exact List.forall_mem_singleton.mpr (by decide)

end SynthDesk.Json
