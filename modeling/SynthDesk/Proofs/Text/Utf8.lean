/-
UTF-8 there and back.

A text without surrogates is read from its own octets, by either reading. The
machine is followed octet by octet: what a lead octet leaves pending, what a
continuation adds, and what the last one puts out. Followed the other way, it tells
that the strict reading accepts no other octets. A text of ASCII alone is the
plainest case, one octet for each code point.
-/
import SynthDesk.Text.Utf8

set_option autoImplicit false

namespace SynthDesk

namespace CodePoint

theorem val_ofNat {n : Nat} (h : n < 0x110000) : (ofNat n).val = n := Nat.mod_eq_of_lt h

theorem ofNat_val (c : CodePoint) : ofNat c.val = c := Fin.ext (val_ofNat c.isLt)

/-- Half of a surrogate pair. -/
def isSurrogate (c : CodePoint) : Bool := 0xD800 ≤ c.val && c.val ≤ 0xDFFF

/-- The halves are of two kinds. -/
theorem isHighSurrogate_or_isLowSurrogate (c : CodePoint) :
    (c.isHighSurrogate || c.isLowSurrogate) = c.isSurrogate := by
  rw [Bool.eq_iff_iff, Bool.or_eq_true]
  unfold isHighSurrogate isLowSurrogate isSurrogate
  simp only [Bool.and_eq_true, decide_eq_true_eq]
  omega

/-- A code point of the ASCII range. -/
def isAscii (c : CodePoint) : Bool := c.val < 0x80

theorem not_isSurrogate_of_isAscii {c : CodePoint} (h : c.isAscii = true) :
    c.isSurrogate = false := by
  have hlt : c.val < 0x80 := of_decide_eq_true h
  rw [isSurrogate, Bool.and_eq_false_iff]
  exact Or.inl (decide_eq_false (by omega))

end CodePoint

namespace Utf8

theorem octet_val {n : Nat} (h : n < 256) : (octet n).val = n := Nat.mod_eq_of_lt h

/-! ## What an octet does to the machine -/

section Machine

variable {b value n low high : Nat} (r : List Octet)

/-- A lead octet of the ASCII range is a code point by itself. -/
theorem run_lead_one (hb : b < 0x80) :
    run none (octet b :: r) = some (CodePoint.ofNat b) :: run none r := by
  have hval : (octet b).val = b := octet_val (by omega)
  rw [run, step, start, hval, if_pos hb]
  rfl

/-- A lead octet that announces one more. -/
theorem run_lead_two (hlow : 0xC2 ≤ b) (hhigh : b < 0xE0) :
    run none (octet b :: r) = run (some ⟨b - 0xC0, 0, 0x80, 0xBF⟩) r := by
  have hval : (octet b).val = b := octet_val (by omega)
  rw [run, step, start, hval, if_neg (by omega), if_neg (by omega), if_pos hhigh]
  rfl

/-- A lead octet that announces two more: after the first of them the range is
narrower, and so it is after the one that could begin a surrogate. -/
theorem run_lead_three (hlow : 0xE0 ≤ b) (hhigh : b < 0xF0) :
    run none (octet b :: r) =
      run (some ⟨b - 0xE0, 1, if b = 0xE0 then 0xA0 else 0x80,
        if b = 0xED then 0x9F else 0xBF⟩) r := by
  have hval : (octet b).val = b := octet_val (by omega)
  rw [run, step, start, hval, if_neg (by omega), if_neg (by omega), if_neg (by omega)]
  by_cases hfirst : b = 0xE0
  · subst hfirst
    rfl
  · rw [if_neg hfirst, if_neg hfirst]
    by_cases hsurrogate : b = 0xED
    · subst hsurrogate
      rfl
    · rw [if_neg hsurrogate, if_neg hsurrogate, if_pos hhigh]
      rfl

/-- A lead octet that announces three more: the range is narrower after the first
and after the last of them. -/
theorem run_lead_four (hlow : 0xF0 ≤ b) (hhigh : b ≤ 0xF4) :
    run none (octet b :: r) =
      run (some ⟨b - 0xF0, 2, if b = 0xF0 then 0x90 else 0x80,
        if b = 0xF4 then 0x8F else 0xBF⟩) r := by
  have hval : (octet b).val = b := octet_val (by omega)
  rw [run, step, start, hval, if_neg (by omega), if_neg (by omega), if_neg (by omega),
    if_neg (by omega), if_neg (by omega), if_neg (by omega)]
  by_cases hfirst : b = 0xF0
  · subst hfirst
    rfl
  · rw [if_neg hfirst, if_neg hfirst]
    by_cases hlast : b = 0xF4
    · subst hlast
      rfl
    · rw [if_pos (by omega), if_neg hlast]
      rfl

/-- A continuation that is not the last adds its bits. -/
theorem run_continued (hlow : low ≤ b) (hhigh : b ≤ high) (hb : b < 256) :
    run (some ⟨value, n + 1, low, high⟩) (octet b :: r) =
      run (some ⟨value * 0x40 + (b - 0x80), n, 0x80, 0xBF⟩) r := by
  have hval : (octet b).val = b := octet_val hb
  rw [run, step, hval, if_pos ⟨hlow, hhigh⟩]
  rfl

/-- The last continuation completes the code point. -/
theorem run_completed (hlow : low ≤ b) (hhigh : b ≤ high) (hb : b < 256) :
    run (some ⟨value, 0, low, high⟩) (octet b :: r) =
      some (CodePoint.ofNat (value * 0x40 + (b - 0x80))) :: run none r := by
  have hval : (octet b).val = b := octet_val hb
  rw [run, step, hval, if_pos ⟨hlow, hhigh⟩]
  rfl

end Machine

/-! ## Reading what was written -/

/-- **One code point is read back**, whatever comes after it. -/
theorem run_encodePoint {c : CodePoint} (hc : c.isSurrogate = false) (r : List Octet) :
    run none (encodePoint c ++ r) = some c :: run none r := by
  have hlt : c.val < 0x110000 := c.isLt
  have hsurrogate : c.val < 0xD800 ∨ 0xDFFF < c.val := by
    rw [CodePoint.isSurrogate, Bool.and_eq_false_iff, decide_eq_false_iff_not,
      decide_eq_false_iff_not] at hc
    omega
  by_cases h1 : c.val < 0x80
  · have hread := run_lead_one r h1
    rw [CodePoint.ofNat_val] at hread
    simpa only [encodePoint, if_pos h1, List.cons_append, List.nil_append] using hread
  by_cases h2 : c.val < 0x800
  · have hvalue : (0xC0 + c.val / 0x40 - 0xC0) * 0x40 + (0x80 + c.val % 0x40 - 0x80) = c.val := by
      omega
    simp only [encodePoint, if_neg h1, if_pos h2, List.cons_append, List.nil_append]
    rw [run_lead_two _ (by omega) (by omega), run_completed _ (by omega) (by omega) (by omega),
      hvalue, CodePoint.ofNat_val]
  by_cases h3 : c.val < 0x10000
  · -- The narrow ranges hold because the code point is not below 0x800, and no surrogate.
    have hlow : (if 0xE0 + c.val / 0x1000 = 0xE0 then 0xA0 else 0x80) ≤
        0x80 + c.val / 0x40 % 0x40 := by
      split <;> omega
    have hhigh : 0x80 + c.val / 0x40 % 0x40 ≤
        (if 0xE0 + c.val / 0x1000 = 0xED then 0x9F else 0xBF) := by
      split <;> omega
    have hvalue : ((0xE0 + c.val / 0x1000 - 0xE0) * 0x40 + (0x80 + c.val / 0x40 % 0x40 - 0x80)) *
        0x40 + (0x80 + c.val % 0x40 - 0x80) = c.val := by
      omega
    simp only [encodePoint, if_neg h1, if_neg h2, if_pos h3, List.cons_append, List.nil_append]
    rw [run_lead_three _ (by omega) (by omega), run_continued _ hlow hhigh (by omega),
      run_completed _ (by omega) (by omega) (by omega), hvalue, CodePoint.ofNat_val]
  · have hlow : (if 0xF0 + c.val / 0x40000 = 0xF0 then 0x90 else 0x80) ≤
        0x80 + c.val / 0x1000 % 0x40 := by
      split <;> omega
    have hhigh : 0x80 + c.val / 0x1000 % 0x40 ≤
        (if 0xF0 + c.val / 0x40000 = 0xF4 then 0x8F else 0xBF) := by
      split <;> omega
    have hvalue : (((0xF0 + c.val / 0x40000 - 0xF0) * 0x40 +
        (0x80 + c.val / 0x1000 % 0x40 - 0x80)) * 0x40 + (0x80 + c.val / 0x40 % 0x40 - 0x80)) *
        0x40 + (0x80 + c.val % 0x40 - 0x80) = c.val := by
      omega
    simp only [encodePoint, if_neg h1, if_neg h2, if_neg h3, List.cons_append, List.nil_append]
    rw [run_lead_four _ (by omega) (by omega), run_continued _ hlow hhigh (by omega),
      run_continued _ (by omega) (by omega) (by omega),
      run_completed _ (by omega) (by omega) (by omega), hvalue, CodePoint.ofNat_val]

/-- The octets of a text without surrogates are read as its code points. -/
theorem points_encode {t : Text} (ht : ∀ c ∈ t, c.isSurrogate = false) :
    points (encode t) = t.map some := by
  induction t with
  | nil => rfl
  | cons c r ih =>
    have hrest : points (encode r) = r.map some :=
      ih fun d hd => ht d (List.mem_cons_of_mem c hd)
    rw [points] at hrest ⊢
    rw [encode, List.flatMap_cons, run_encodePoint (ht c List.mem_cons_self), List.map_cons,
      ← hrest, encode]

/-- Where nothing is missing the strict reading is complete. -/
theorem complete_map_some (t : Text) : complete (t.map some) = some t := by
  induction t with
  | nil => rfl
  | cons c r ih => rw [List.map_cons, complete, ih, Option.map_some]

/-- **Strict reading inverts writing** for texts without surrogates. -/
theorem decode?_encode {t : Text} (ht : ∀ c ∈ t, c.isSurrogate = false) :
    decode? (encode t) = some t := by
  rw [decode?, points_encode ht, complete_map_some]

/-- **Lenient reading inverts writing** just so. -/
theorem decodeLossy_encode {t : Text} (ht : ∀ c ∈ t, c.isSurrogate = false) :
    decodeLossy (encode t) = t := by
  have hsome : (fun c : Option CodePoint => c.getD CodePoint.replacement) ∘ some = id := rfl
  rw [decodeLossy, points_encode ht, List.map_map, hsome, List.map_id]

theorem encodePoint_ne_nil (c : CodePoint) : encodePoint c ≠ [] := by
  unfold encodePoint
  dsimp only
  intro h
  repeat' split at h
  all_goals cases h

theorem encode_eq_nil_iff {t : Text} : encode t = [] ↔ t = [] := by
  constructor
  · intro h
    cases t with
    | nil => rfl
    | cons c r =>
      rw [encode, List.flatMap_cons, List.append_eq_nil_iff] at h
      exact absurd h.1 (encodePoint_ne_nil c)
  · rintro rfl
    rfl

/-! ## Only what was written is read -/

theorem octet_of_val (b : Octet) : octet b.val = b := Fin.ext (octet_val b.isLt)

section Complete

variable {value n low high : Nat} {bs : List Octet} {t : Text}

/-- In a complete reading what is pending is continued. -/
theorem exists_octet_of_pending {p : Pending} (h : complete (run (some p) bs) = some t) :
    ∃ b r, bs = octet b :: r ∧ p.low ≤ b ∧ b ≤ p.high ∧ b < 256 := by
  cases bs with
  | nil => cases h
  | cons b r =>
    refine ⟨b.val, r, by rw [octet_of_val], ?_⟩
    by_cases hrange : p.low ≤ b.val ∧ b.val ≤ p.high
    · exact ⟨hrange.1, hrange.2, b.isLt⟩
    · rw [run, step, if_neg hrange] at h
      cases h

/-- What continues carries six bits. -/
theorem exists_continued (h : complete (run (some ⟨value, n + 1, low, high⟩) bs) = some t)
    (hlow : 0x80 ≤ low) (hhigh : high ≤ 0xBF) :
    ∃ b < 0x40, ∃ r, bs = octet (0x80 + b) :: r ∧ low ≤ 0x80 + b ∧ 0x80 + b ≤ high ∧
      complete (run (some ⟨value * 0x40 + b, n, 0x80, 0xBF⟩) r) = some t := by
  obtain ⟨b, r, rfl, hle, hge, hb⟩ := exists_octet_of_pending h
  obtain ⟨b, rfl⟩ := Nat.exists_eq_add_of_le (Nat.le_trans hlow hle)
  have hsix : 0x80 + b ≤ 0xBF := Nat.le_trans hge hhigh
  rw [run_continued r hle hge hb, Nat.add_sub_cancel_left] at h
  exact ⟨b, by omega, r, rfl, hle, hge, h⟩

/-- So does what comes last. -/
theorem exists_completed (h : complete (run (some ⟨value, 0, low, high⟩) bs) = some t)
    (hlow : 0x80 ≤ low) (hhigh : high ≤ 0xBF) :
    ∃ b < 0x40, ∃ r later, bs = octet (0x80 + b) :: r ∧ low ≤ 0x80 + b ∧ 0x80 + b ≤ high ∧
      t = CodePoint.ofNat (value * 0x40 + b) :: later ∧ complete (run none r) = some later := by
  obtain ⟨b, r, rfl, hle, hge, hb⟩ := exists_octet_of_pending h
  obtain ⟨b, rfl⟩ := Nat.exists_eq_add_of_le (Nat.le_trans hlow hle)
  have hsix : 0x80 + b ≤ 0xBF := Nat.le_trans hge hhigh
  rw [run_completed r hle hge hb, Nat.add_sub_cancel_left, complete] at h
  obtain ⟨later, hlater, rfl⟩ := Option.map_eq_some_iff.mp h
  exact ⟨b, by omega, r, later, rfl, hle, hge, rfl, hlater⟩

end Complete

/-! Code points by the bits that their octets carry. -/

theorem encodePoint_one {a : Nat} (ha : a < 0x80) :
    encodePoint (CodePoint.ofNat a) = [octet a] := by
  rw [encodePoint, CodePoint.val_ofNat (by omega), if_pos ha]

theorem encodePoint_two {a b : Nat} (hb : b < 0x40) (hlow : 0x80 ≤ a * 0x40 + b)
    (hhigh : a * 0x40 + b < 0x800) :
    encodePoint (CodePoint.ofNat (a * 0x40 + b)) = [octet (0xC0 + a), octet (0x80 + b)] := by
  have hfirst : (a * 0x40 + b) / 0x40 = a := by omega
  have hlast : (a * 0x40 + b) % 0x40 = b := by omega
  rw [encodePoint, CodePoint.val_ofNat (by omega), if_neg (by omega), if_pos hhigh, hfirst, hlast]

theorem encodePoint_three {a b c : Nat} (hb : b < 0x40) (hc : c < 0x40)
    (hlow : 0x800 ≤ (a * 0x40 + b) * 0x40 + c) (hhigh : (a * 0x40 + b) * 0x40 + c < 0x10000) :
    encodePoint (CodePoint.ofNat ((a * 0x40 + b) * 0x40 + c)) =
      [octet (0xE0 + a), octet (0x80 + b), octet (0x80 + c)] := by
  have hfirst : ((a * 0x40 + b) * 0x40 + c) / 0x1000 = a := by omega
  have hsecond : ((a * 0x40 + b) * 0x40 + c) / 0x40 % 0x40 = b := by omega
  have hlast : ((a * 0x40 + b) * 0x40 + c) % 0x40 = c := by omega
  rw [encodePoint, CodePoint.val_ofNat (by omega), if_neg (by omega), if_neg (by omega),
    if_pos hhigh, hfirst, hsecond, hlast]

theorem encodePoint_four {a b c d : Nat} (hb : b < 0x40) (hc : c < 0x40) (hd : d < 0x40)
    (hlow : 0x10000 ≤ ((a * 0x40 + b) * 0x40 + c) * 0x40 + d)
    (hhigh : ((a * 0x40 + b) * 0x40 + c) * 0x40 + d < 0x110000) :
    encodePoint (CodePoint.ofNat (((a * 0x40 + b) * 0x40 + c) * 0x40 + d)) =
      [octet (0xF0 + a), octet (0x80 + b), octet (0x80 + c), octet (0x80 + d)] := by
  have hfirst : (((a * 0x40 + b) * 0x40 + c) * 0x40 + d) / 0x40000 = a := by omega
  have hsecond : (((a * 0x40 + b) * 0x40 + c) * 0x40 + d) / 0x1000 % 0x40 = b := by omega
  have hthird : (((a * 0x40 + b) * 0x40 + c) * 0x40 + d) / 0x40 % 0x40 = c := by omega
  have hlast : (((a * 0x40 + b) * 0x40 + c) * 0x40 + d) % 0x40 = d := by omega
  rw [encodePoint, CodePoint.val_ofNat hhigh, if_neg (by omega), if_neg (by omega),
    if_neg (by omega), hfirst, hsecond, hthird, hlast]

theorem isSurrogate_ofNat {v : Nat} (h : v < 0x110000) (hv : v < 0xD800 ∨ 0xDFFF < v) :
    (CodePoint.ofNat v).isSurrogate = false := by
  rw [CodePoint.isSurrogate, CodePoint.val_ofNat h, Bool.and_eq_false_iff, decide_eq_false_iff_not,
    decide_eq_false_iff_not]
  omega

/-- **The first code point of a complete reading** stands there as it is written, and
the rest is read completely. -/
theorem exists_first {b : Octet} {r : List Octet} {t : Text}
    (h : complete (run none (b :: r)) = some t) :
    ∃ c later r', t = c :: later ∧ b :: r = encodePoint c ++ r' ∧ c.isSurrogate = false ∧
      complete (run none r') = some later := by
  obtain ⟨n, hn, rfl⟩ : ∃ n < 256, b = octet n := ⟨b.val, b.isLt, (octet_of_val b).symm⟩
  by_cases h1 : n < 0x80
  · rw [run_lead_one r h1, complete] at h
    obtain ⟨later, hlater, rfl⟩ := Option.map_eq_some_iff.mp h
    refine ⟨_, later, r, rfl, ?_, isSurrogate_ofNat (by omega) (by omega), hlater⟩
    rw [encodePoint_one h1]
    rfl
  by_cases h2 : n < 0xC2
  · rw [run, step, start, octet_val hn, if_neg h1, if_pos h2] at h
    cases h
  by_cases h3 : n < 0xE0
  · obtain ⟨a, rfl⟩ := Nat.exists_eq_add_of_le (show 0xC0 ≤ n by omega)
    rw [run_lead_two r (by omega) h3, Nat.add_sub_cancel_left] at h
    obtain ⟨b, hb, r, later, rfl, -, -, rfl, hlater⟩ := exists_completed h (by decide) (by decide)
    refine ⟨_, later, r, rfl, ?_, isSurrogate_ofNat (by omega) (by omega), hlater⟩
    rw [encodePoint_two hb (by omega) (by omega)]
    rfl
  by_cases h4 : n < 0xF0
  · -- The narrow ranges keep out what is written in two octets, and the surrogates.
    obtain ⟨a, rfl⟩ := Nat.exists_eq_add_of_le (show 0xE0 ≤ n by omega)
    rw [run_lead_three r (by omega) h4, Nat.add_sub_cancel_left] at h
    obtain ⟨b, hb, r, rfl, hlow, hhigh, h⟩ := exists_continued h (by split <;> decide)
      (by split <;> decide)
    obtain ⟨c, hc, r, later, rfl, -, -, rfl, hlater⟩ := exists_completed h (by decide) (by decide)
    have hshort : a = 0 → 0x20 ≤ b := by split at hlow <;> omega
    have hsurrogate : a = 0xD → b < 0x20 := by split at hhigh <;> omega
    refine ⟨_, later, r, rfl, ?_, isSurrogate_ofNat (by omega) (by omega), hlater⟩
    rw [encodePoint_three hb hc (by omega) (by omega)]
    rfl
  by_cases h5 : n ≤ 0xF4
  · obtain ⟨a, rfl⟩ := Nat.exists_eq_add_of_le (show 0xF0 ≤ n by omega)
    rw [run_lead_four r (by omega) h5, Nat.add_sub_cancel_left] at h
    obtain ⟨b, hb, r, rfl, hlow, hhigh, h⟩ := exists_continued h (by split <;> decide)
      (by split <;> decide)
    obtain ⟨c, hc, r, rfl, -, -, h⟩ := exists_continued h (by decide) (by decide)
    obtain ⟨d, hd, r, later, rfl, -, -, rfl, hlater⟩ := exists_completed h (by decide) (by decide)
    have hshort : a = 0 → 0x10 ≤ b := by split at hlow <;> omega
    have hlast : a = 4 → b < 0x10 := by split at hhigh <;> omega
    refine ⟨_, later, r, rfl, ?_, isSurrogate_ofNat (by omega) (by omega), hlater⟩
    rw [encodePoint_four hb hc hd (by omega) (by omega)]
    rfl
  · rw [run, step, start, octet_val hn, if_neg h1, if_neg h2, if_neg h3, if_neg (by omega),
      if_neg (by omega), if_neg h4, if_neg (by omega), if_neg (by omega), if_neg (by omega)] at h
    cases h

/-- **The strict reading accepts the octets of texts without surrogates**, and no
others. -/
theorem decode?_eq_some_iff {bs : List Octet} {t : Text} :
    decode? bs = some t ↔ bs = encode t ∧ ∀ c ∈ t, c.isSurrogate = false := by
  constructor
  · intro h
    have hall : ∀ {bs t}, complete (run none bs) = some t →
        bs = encode t ∧ ∀ c ∈ t, c.isSurrogate = false := by
      intro bs t
      induction t generalizing bs with
      | nil =>
        intro h
        cases bs with
        | nil => exact ⟨rfl, List.forall_mem_nil _⟩
        | cons b r =>
          obtain ⟨c, later, r', hnil, -⟩ := exists_first h
          cases hnil
      | cons c t ih =>
        intro h
        cases bs with
        | nil => cases h
        | cons b r =>
          obtain ⟨c', later, r', heq, hwritten, hc, hlater⟩ := exists_first h
          cases heq
          obtain ⟨hr, ht⟩ := ih hlater
          refine ⟨?_, List.forall_mem_cons.mpr ⟨hc, ht⟩⟩
          rw [hwritten, hr]
          rfl
    exact hall h
  · rintro ⟨rfl, ht⟩
    exact decode?_encode ht

/-! ## ASCII -/

/-- A text of ASCII is written in octets of ASCII. -/
theorem encode_ascii {t : Text} (ht : ∀ c ∈ t, c.isAscii = true) :
    ∀ b ∈ encode t, b.val < 0x80 := by
  intro b hb
  obtain ⟨c, hc, hbc⟩ := List.mem_flatMap.mp hb
  have hlt : c.val < 0x80 := of_decide_eq_true (ht c hc)
  rw [encodePoint, if_pos hlt, List.mem_singleton] at hbc
  rw [hbc, octet_val (by omega)]
  exact hlt

end Utf8

end SynthDesk
