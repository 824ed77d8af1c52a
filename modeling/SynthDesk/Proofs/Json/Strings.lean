/-
Strings of a document there and back.

A string is written code point by code point, as itself or as an escape, and a
code point beyond the first plane as its two halves. Reading undoes the escapes
one by one and then joins halves. The first of these steps inverts the writing
of every text; the second can go wrong in one case only, where a text holds two
halves side by side that nobody wrote as a pair. Such texts are left out by
`Text.Unpaired`, and no string that was ever read is one of them.
-/
import SynthDesk.Json.Reader
import SynthDesk.Json.Writer
import SynthDesk.Proofs.Text.Utf8
import Mathlib.Data.List.Chain

set_option autoImplicit false

namespace SynthDesk

/-- No high half has a low half right after it. -/
def Text.Unpaired (t : Text) : Prop :=
  t.IsChain fun c d => ¬ (c.isHighSurrogate = true ∧ d.isLowSurrogate = true)

instance (t : Text) : Decidable t.Unpaired := by
  unfold Text.Unpaired
  infer_instance

namespace Json

/-! ## Hexadecimal digits -/

theorem hexValue?_hexDigit {n : Nat} (h : n < 16) : Text.hexValue? (Text.hexDigit n) = some n := by
  unfold Text.hexDigit Text.hexValue?
  by_cases hten : n < 10
  · have hval : (CodePoint.ofNat (48 + n)).val = 48 + n := CodePoint.val_ofNat (by omega)
    have hrange : (decide (48 ≤ 48 + n) && decide (48 + n ≤ 57)) = true := by
      rw [Bool.and_eq_true, decide_eq_true_eq, decide_eq_true_eq]
      omega
    rw [if_pos hten, hval, if_pos hrange, Nat.add_sub_cancel_left]
  · have hval : (CodePoint.ofNat (87 + n)).val = 87 + n := CodePoint.val_ofNat (by omega)
    have hdecimal : ¬ (decide (48 ≤ 87 + n) && decide (87 + n ≤ 57)) = true := by
      rw [Bool.and_eq_true, decide_eq_true_eq, decide_eq_true_eq]
      omega
    have hrange : (decide (97 ≤ 87 + n) && decide (87 + n ≤ 102)) = true := by
      rw [Bool.and_eq_true, decide_eq_true_eq, decide_eq_true_eq]
      omega
    rw [if_neg hten, hval, if_neg hdecimal, if_pos hrange, Nat.add_sub_cancel_left]

theorem hexDigit_isAscii {n : Nat} (h : n < 16) : (Text.hexDigit n).isAscii = true := by
  unfold Text.hexDigit CodePoint.isAscii
  split
  · rw [CodePoint.val_ofNat (by omega), decide_eq_true_eq]
    omega
  · rw [CodePoint.val_ofNat (by omega), decide_eq_true_eq]
    omega

theorem hex_isAscii (width n : Nat) : ∀ c ∈ Text.hex width n, c.isAscii = true := by
  induction width with
  | zero =>
    intro c hc
    cases hc
  | succ w ih =>
    intro c hc
    rcases List.mem_cons.mp hc with rfl | hc
    · exact hexDigit_isAscii (Nat.mod_lt _ (by decide))
    · exact ih c hc

/-- Four digits write a UTF-16 unit, and reading them gives it back. -/
theorem unit?_hexDigits {n : Nat} (h : n < 0x10000) :
    unit? (Text.hexDigit (n / 0x1000 % 16)) (Text.hexDigit (n / 0x100 % 16))
      (Text.hexDigit (n / 0x10 % 16)) (Text.hexDigit (n % 16)) = some (CodePoint.ofNat n) := by
  have hvalue :
      ((n / 0x1000 % 16 * 16 + n / 0x100 % 16) * 16 + n / 0x10 % 16) * 16 + n % 16 = n := by
    omega
  unfold unit?
  rw [hexValue?_hexDigit (by omega), hexValue?_hexDigit (by omega), hexValue?_hexDigit (by omega),
    hexValue?_hexDigit (by omega)]
  exact congrArg (fun m => some (CodePoint.ofNat m)) hvalue

/-! ## One escape -/

section Escapes

variable {start : Text}

/-- Code points in front of what was read. -/
def inFront (us : Text) (read : Text × Text) : Text × Text := (us ++ read.1, read.2)

/-- The closing quote. -/
theorem units_quote (s : Text) : units start (CodePoint.ofChar '"' :: s) = .ok ([], s) := by
  rw [units.eq_def]
  simp only [if_pos]

/-- A code point that stands for itself. -/
theorem units_plain {c : CodePoint} (hquote : c ≠ '"') (hblack : c ≠ '\\') (hlow : 0x20 ≤ c.val)
    (s : Text) : units start (c :: s) = (units start s).map (inFront [c]) := by
  rw [units.eq_def]
  simp only [if_neg hquote, if_neg hblack, if_neg (Nat.not_lt.mpr hlow)]
  cases units start s with
  | error e => rfl
  | ok read => rfl

/-- A backslash and a letter. -/
theorem units_letter {e u : CodePoint} (hu : e ≠ 'u') (he : escaped? e = some u) (s : Text) :
    units start (CodePoint.ofChar '\\' :: e :: s) = (units start s).map (inFront [u]) := by
  have hquote : CodePoint.ofChar '\\' ≠ '"' := by decide
  have hlow : ¬ (CodePoint.ofChar '\\').val < 0x20 := by decide
  rw [units.eq_def]
  simp only [if_neg hquote, if_neg hlow, if_pos, if_neg hu, he]
  cases units start s with
  | error e => rfl
  | ok read => rfl

/-- Four hexadecimal digits, with something after them. -/
theorem units_unit {x y z k u : CodePoint} (hu : unit? x y z k = some u) {s : Text}
    (hs : s ≠ []) :
    units start (CodePoint.ofChar '\\' :: CodePoint.ofChar 'u' :: x :: y :: z :: k :: s) =
      (units start s).map (inFront [u]) := by
  obtain ⟨next, r, rfl⟩ := List.exists_cons_of_ne_nil hs
  rw [units, if_neg (by decide), if_neg (by decide), if_pos rfl]
  simp only [if_pos, hu]
  cases units start (next :: r) with
  | error e => rfl
  | ok read => rfl

/-- One UTF-16 unit. -/
theorem units_unitEscape {n : Nat} (h : n < 0x10000) {s : Text} (hs : s ≠ []) :
    units start (unitEscape n ++ s) = (units start s).map (inFront [CodePoint.ofNat n]) := by
  have hdigits : unitEscape n ++ s = CodePoint.ofChar '\\' :: CodePoint.ofChar 'u' ::
      Text.hexDigit (n / 0x1000 % 16) :: Text.hexDigit (n / 0x100 % 16) ::
      Text.hexDigit (n / 0x10 % 16) :: Text.hexDigit (n / 1 % 16) :: s := rfl
  rw [hdigits, Nat.div_one]
  exact units_unit (unit?_hexDigits h) hs

/-! ## Escaping is undone -/

/-- The UTF-16 units of a code point: itself, or two halves. -/
def halves (c : CodePoint) : Text :=
  if c.val < 0x10000 then [c]
  else [CodePoint.ofNat (0xD800 + (c.val - 0x10000) / 0x400),
    CodePoint.ofNat (0xDC00 + (c.val - 0x10000) % 0x400)]

/-- **The escape of a code point is read as its units.** -/
theorem units_escape (c : CodePoint) {s : Text} (hs : s ≠ []) :
    units start (escape c ++ s) = (units start s).map (inFront (halves c)) := by
  have hlt : c.val < 0x110000 := c.isLt
  -- All but the last two cases are about code points of the first plane.
  have hfirst : c.val < 0x10000 → halves c = [c] := fun h => if_pos h
  unfold escape
  by_cases hmark : (decide (c = '"') || decide (c = '\\')) = true
  · rw [if_pos hmark]
    rw [Bool.or_eq_true, decide_eq_true_eq, decide_eq_true_eq] at hmark
    rcases hmark with rfl | rfl
    · exact units_letter (by decide) (by decide) s
    · exact units_letter (by decide) (by decide) s
  rw [if_neg hmark]
  rw [Bool.or_eq_true, decide_eq_true_eq, decide_eq_true_eq, not_or] at hmark
  by_cases h8 : c.val = 8
  · obtain rfl : c = CodePoint.ofNat 8 := Fin.ext h8
    exact units_letter (by decide) (by decide) s
  rw [if_neg h8]
  by_cases h12 : c.val = 12
  · obtain rfl : c = CodePoint.ofNat 12 := Fin.ext h12
    exact units_letter (by decide) (by decide) s
  rw [if_neg h12]
  by_cases hn : c = '\n'
  · subst hn
    exact units_letter (by decide) (by decide) s
  rw [if_neg hn]
  by_cases hr : c = '\r'
  · subst hr
    exact units_letter (by decide) (by decide) s
  rw [if_neg hr]
  by_cases ht : c = '\t'
  · subst ht
    exact units_letter (by decide) (by decide) s
  rw [if_neg ht]
  by_cases hprint : (decide (0x20 ≤ c.val) && decide (c.val ≤ 0x7E)) = true
  · rw [if_pos hprint]
    rw [Bool.and_eq_true, decide_eq_true_eq, decide_eq_true_eq] at hprint
    rw [hfirst (by omega)]
    exact units_plain hmark.1 hmark.2 hprint.1 s
  rw [if_neg hprint]
  by_cases hplane : c.val < 0x10000
  · rw [if_pos hplane, hfirst hplane, units_unitEscape hplane hs, CodePoint.ofNat_val]
  · rw [if_neg hplane, List.append_assoc,
      units_unitEscape (by omega) (List.append_ne_nil_of_right_ne_nil _ hs),
      units_unitEscape (by omega) hs, halves, if_neg hplane]
    cases units start s with
    | error e => rfl
    | ok read => rfl

/-- The code points of a string up to its closing quote are read as their units. -/
theorem units_quoted (t s : Text) :
    units start (t.flatMap escape ++ CodePoint.ofChar '"' :: s) = .ok (t.flatMap halves, s) := by
  induction t with
  | nil => exact units_quote s
  | cons c r ih =>
    rw [List.flatMap_cons, List.append_assoc,
      units_escape c (List.append_ne_nil_of_right_ne_nil _ (List.cons_ne_nil _ _)), ih,
      List.flatMap_cons]
    rfl

end Escapes

/-! ## Joining halves -/

/-- Joined halves lie beyond the first plane. -/
theorem joined_val {high low : CodePoint} (hhigh : high.isHighSurrogate = true)
    (hlow : low.isLowSurrogate = true) :
    (joined high low).val = 0x10000 + (high.val - 0xD800) * 0x400 + (low.val - 0xDC00) := by
  rw [CodePoint.isHighSurrogate, Bool.and_eq_true, decide_eq_true_eq, decide_eq_true_eq] at hhigh
  rw [CodePoint.isLowSurrogate, Bool.and_eq_true, decide_eq_true_eq, decide_eq_true_eq] at hlow
  exact CodePoint.val_ofNat (by omega)

theorem not_isLowSurrogate_of_le {c : CodePoint} (h : 0x10000 ≤ c.val) :
    c.isLowSurrogate = false := by
  rw [CodePoint.isLowSurrogate, Bool.and_eq_false_iff]
  exact Or.inr (decide_eq_false (by omega))

/-- The halves of a code point beyond the first plane make a pair, and joining
them gives the code point back. -/
theorem halves_of_le {c : CodePoint} (h : 0x10000 ≤ c.val) :
    ∃ high low, halves c = [high, low] ∧ high.isHighSurrogate = true ∧
      low.isLowSurrogate = true ∧ joined high low = c := by
  have hlt : c.val < 0x110000 := c.isLt
  have hhighVal : (CodePoint.ofNat (0xD800 + (c.val - 0x10000) / 0x400)).val =
      0xD800 + (c.val - 0x10000) / 0x400 := CodePoint.val_ofNat (by omega)
  have hlowVal : (CodePoint.ofNat (0xDC00 + (c.val - 0x10000) % 0x400)).val =
      0xDC00 + (c.val - 0x10000) % 0x400 := CodePoint.val_ofNat (by omega)
  have hhigh : (CodePoint.ofNat (0xD800 + (c.val - 0x10000) / 0x400)).isHighSurrogate = true := by
    rw [CodePoint.isHighSurrogate, hhighVal, Bool.and_eq_true, decide_eq_true_eq, decide_eq_true_eq]
    omega
  have hlow : (CodePoint.ofNat (0xDC00 + (c.val - 0x10000) % 0x400)).isLowSurrogate = true := by
    rw [CodePoint.isLowSurrogate, hlowVal, Bool.and_eq_true, decide_eq_true_eq, decide_eq_true_eq]
    omega
  refine ⟨_, _, if_neg (by omega), hhigh, hlow, ?_⟩
  apply Fin.ext
  rw [joined_val hhigh hlow, hhighVal, hlowVal]
  omega

/-- The first unit of a text is a low half only if its first code point is. -/
theorem head_flatMap_halves {t : Text} {u : CodePoint} (hu : u ∈ (t.flatMap halves).head?)
    (hlow : u.isLowSurrogate = true) : ∃ d ∈ t.head?, d.isLowSurrogate = true := by
  cases t with
  | nil => cases hu
  | cons d r =>
    refine ⟨d, rfl, ?_⟩
    rw [List.flatMap_cons] at hu
    by_cases hplane : d.val < 0x10000
    · rw [halves, if_pos hplane] at hu
      obtain rfl : d = u := Option.some.inj hu
      exact hlow
    · -- The first of two halves is a high one.
      obtain ⟨high, low, hhalves, hhigh, -, -⟩ := halves_of_le (c := d) (by omega)
      rw [hhalves] at hu
      obtain rfl : high = u := Option.some.inj hu
      rw [CodePoint.isHighSurrogate, Bool.and_eq_true, decide_eq_true_eq,
        decide_eq_true_eq] at hhigh
      rw [CodePoint.isLowSurrogate, Bool.and_eq_true, decide_eq_true_eq, decide_eq_true_eq] at hlow
      omega

/-- A code point that makes no pair with the next one stays as it is. -/
theorem joinHalves_cons {c : CodePoint} {us : Text}
    (h : ∀ u ∈ us.head?, ¬ (c.isHighSurrogate = true ∧ u.isLowSurrogate = true)) :
    joinHalves (c :: us) = c :: joinHalves us := by
  cases us with
  | nil => rfl
  | cons u r =>
    have hpair : ¬ (c.isHighSurrogate && u.isLowSurrogate) = true := by
      rw [Bool.and_eq_true]
      exact h u rfl
    rw [joinHalves, if_neg hpair]

/-- **Joining inverts splitting** for texts that hold no pair already. -/
theorem joinHalves_flatMap_halves {t : Text} (ht : t.Unpaired) :
    joinHalves (t.flatMap halves) = t := by
  induction t with
  | nil => rfl
  | cons c r ih =>
    obtain ⟨hnext, hrest⟩ := List.isChain_cons.mp ht
    rw [List.flatMap_cons]
    by_cases hplane : c.val < 0x10000
    · have hkeep : ∀ u ∈ (r.flatMap halves).head?,
          ¬ (c.isHighSurrogate = true ∧ u.isLowSurrogate = true) := by
        rintro u hu ⟨hhigh, hlow⟩
        obtain ⟨d, hd, hdlow⟩ := head_flatMap_halves hu hlow
        exact hnext d hd ⟨hhigh, hdlow⟩
      rw [halves, if_pos hplane, List.singleton_append, joinHalves_cons hkeep, ih hrest]
    · obtain ⟨high, low, hhalves, hhigh, hlow, hjoined⟩ := halves_of_le (c := c) (by omega)
      rw [hhalves, List.cons_append, List.cons_append, List.nil_append, joinHalves, hhigh, hlow,
        Bool.and_self, if_pos rfl, hjoined, ih hrest]

/-- The first code point after joining is a low half only if it was one before. -/
theorem head_joinHalves {us : Text} {u : CodePoint} (hu : u ∈ (joinHalves us).head?)
    (hlow : u.isLowSurrogate = true) : u ∈ us.head? := by
  cases us with
  | nil => cases hu
  | cons c r =>
    cases r with
    | nil => exact hu
    | cons d r =>
      rw [joinHalves] at hu
      split at hu
      case isTrue hpair =>
        obtain ⟨hchigh, hdlow⟩ := Bool.and_eq_true_iff.mp hpair
        obtain rfl : joined c d = u := Option.some.inj hu
        rw [not_isLowSurrogate_of_le (by rw [joined_val hchigh hdlow]; omega)] at hlow
        cases hlow
      case isFalse => exact hu

/-- **What was joined holds no pair.** -/
theorem unpaired_joinHalves (us : Text) : (joinHalves us).Unpaired := by
  unfold Text.Unpaired
  fun_induction joinHalves us with
  | case1 => exact List.isChain_nil
  | case2 c => exact List.isChain_singleton c
  | case3 c d r hpair ih =>
    obtain ⟨hhigh, hlow⟩ := Bool.and_eq_true_iff.mp hpair
    refine List.isChain_cons.mpr ⟨?_, ih⟩
    -- What the two halves make is no half any more.
    rintro u - ⟨hu, -⟩
    rw [CodePoint.isHighSurrogate, joined_val hhigh hlow, Bool.and_eq_true, decide_eq_true_eq,
      decide_eq_true_eq] at hu
    omega
  | case4 c d r hpair ih =>
    refine List.isChain_cons.mpr ⟨?_, ih⟩
    rintro u hu ⟨hhigh, hlow⟩
    obtain rfl : d = u := Option.some.inj (head_joinHalves hu hlow)
    exact hpair (Bool.and_eq_true_iff.mpr ⟨hhigh, hlow⟩)

/-! ## Whole strings -/

/-- **Reading inverts writing** for the strings that hold no pair. -/
theorem string_quoted {t : Text} (ht : t.Unpaired) (s : Text) :
    string (t.flatMap escape ++ CodePoint.ofChar '"' :: s) = .ok (t, s) := by
  rw [string, units_quoted]
  simp only [joinHalves_flatMap_halves ht]

/-- A string that was read holds no pair. -/
theorem unpaired_of_string {s t rest : Text} (h : string s = .ok (t, rest)) : t.Unpaired := by
  unfold string at h
  split at h
  · cases h
  · cases h
    exact unpaired_joinHalves _

/-! ## Strings are written in ASCII -/

theorem unitEscape_isAscii (n : Nat) : ∀ c ∈ unitEscape n, c.isAscii = true := by
  intro c hc
  rcases List.mem_cons.mp hc with rfl | hc
  · rfl
  rcases List.mem_cons.mp hc with rfl | hc
  · rfl
  · exact hex_isAscii 4 n c hc

theorem escape_isAscii (c : CodePoint) : ∀ d ∈ escape c, d.isAscii = true := by
  unfold escape
  split
  case isTrue hmark =>
    rw [Bool.or_eq_true, decide_eq_true_eq, decide_eq_true_eq] at hmark
    rcases hmark with rfl | rfl
    · exact List.all_eq_true.mp rfl
    · exact List.all_eq_true.mp rfl
  iterate 5
    split
    · exact List.all_eq_true.mp rfl
  split
  case isTrue hprint =>
    rw [Bool.and_eq_true, decide_eq_true_eq, decide_eq_true_eq] at hprint
    intro d hd
    obtain rfl := List.mem_singleton.mp hd
    exact decide_eq_true (by omega)
  split
  · exact unitEscape_isAscii _
  · intro d hd
    rcases List.mem_append.mp hd with hd | hd
    · exact unitEscape_isAscii _ d hd
    · exact unitEscape_isAscii _ d hd

theorem quote_isAscii (t : Text) : ∀ c ∈ quote t, c.isAscii = true := by
  intro c hc
  rcases List.mem_append.mp hc with hc | hc
  · rcases List.mem_cons.mp hc with rfl | hc
    · rfl
    · obtain ⟨d, -, hd⟩ := List.mem_flatMap.mp hc
      exact escape_isAscii d c hd
  · obtain rfl := List.mem_singleton.mp hc
    rfl

end Json

end SynthDesk
