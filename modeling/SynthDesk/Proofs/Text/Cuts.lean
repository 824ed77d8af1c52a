/-
Encoded text in pieces.

A piece of an encoded text that is decoded by itself comes out without a mark
exactly if it is the encoding of a part of the text. So if a text is cut into
pieces, and each of them is decoded by itself, no mark appears exactly if every cut
lies between two code points: the octets up to it are those of a beginning of the
text. What makes this so is that no encoding begins another one.
-/
import SynthDesk.Proofs.Text.Listing
import SynthDesk.Proofs.Text.Utf8

set_option autoImplicit false

namespace SynthDesk

/-! ## The mark -/

/-- The mark is no blank, so trimming cannot take it away. -/
theorem Text.replacement_mem_strip_iff {t : Text} :
    CodePoint.replacement ∈ t.strip ↔ CodePoint.replacement ∈ t := by
  constructor
  · intro h
    exact mem_of_mem_strip h
  · intro h
    have hblank : ∀ blanks : Text, blanks.isBlank = true → CodePoint.replacement ∉ blanks := by
      intro blanks hall hmem
      rw [isBlank, List.all_eq_true] at hall
      exact absurd (hall _ hmem) (by decide)
    obtain ⟨before, after, hsplit, hbefore, hafter⟩ := exists_blanks_strip t
    rw [hsplit, List.mem_append, List.mem_append] at h
    rcases h with (h | h) | h
    · exact absurd h (hblank before hbefore)
    · exact h
    · exact absurd h (hblank after hafter)

/-- **A clean text** has an encoding, and does not hold the mark itself. -/
structure Text.Clean (t : Text) : Prop where
  scalar : ∀ c ∈ t, c.isSurrogate = false
  markless : CodePoint.replacement ∉ t

theorem Text.clean_append_iff {t u : Text} : (t ++ u).Clean ↔ t.Clean ∧ u.Clean := by
  constructor
  · intro h
    have hscalar := List.forall_mem_append.mp h.scalar
    have hmarkless := h.markless
    rw [List.mem_append, not_or] at hmarkless
    exact ⟨⟨hscalar.1, hmarkless.1⟩, ⟨hscalar.2, hmarkless.2⟩⟩
  · rintro ⟨ht, hu⟩
    refine ⟨List.forall_mem_append.mpr ⟨ht.scalar, hu.scalar⟩, ?_⟩
    rw [List.mem_append, not_or]
    exact ⟨ht.markless, hu.markless⟩

namespace Utf8

/-- Where nothing is missing there is a text. -/
theorem exists_complete {ps : List (Option CodePoint)} (h : none ∉ ps) :
    ∃ t, complete ps = some t := by
  induction ps with
  | nil => exact ⟨[], rfl⟩
  | cons p r ih =>
    rw [List.mem_cons, not_or] at h
    obtain ⟨c, rfl⟩ := Option.ne_none_iff_exists'.mp (Ne.symm h.1)
    obtain ⟨t, ht⟩ := ih h.2
    refine ⟨c :: t, ?_⟩
    rw [complete, ht]
    rfl

/-- **Octets that are decoded without a mark** are those of a clean text. -/
theorem replacement_not_mem_decodeLossy_iff {bs : List Octet} :
    CodePoint.replacement ∉ decodeLossy bs ↔ ∃ t : Text, t.Clean ∧ bs = encode t := by
  constructor
  · intro h
    have hpresent : none ∉ points bs := by
      intro hnone
      apply h
      rw [decodeLossy, List.mem_map]
      exact ⟨none, hnone, rfl⟩
    obtain ⟨t, ht⟩ := exists_complete hpresent
    obtain ⟨rfl, hscalar⟩ := decode?_eq_some_iff.mp ht
    rw [decodeLossy_encode hscalar] at h
    exact ⟨t, ⟨hscalar, h⟩, rfl⟩
  · rintro ⟨t, ht, rfl⟩
    rw [decodeLossy_encode ht.scalar]
    exact ht.markless

/-! ## Beginnings -/

/-- **No encoding begins another**: where the octets of one text begin those of a
second, the first begins the second. -/
theorem exists_rest_of_encode {u t : Text} {bs : List Octet} (hu : ∀ c ∈ u, c.isSurrogate = false)
    (ht : ∀ c ∈ t, c.isSurrogate = false) (h : encode t = encode u ++ bs) :
    ∃ r, t = u ++ r ∧ bs = encode r := by
  induction u generalizing t with
  | nil => exact ⟨t, rfl, h.symm⟩
  | cons c u ih =>
    have hfirst : encode (c :: u) = encodePoint c ++ encode u := rfl
    rw [hfirst, List.append_assoc] at h
    cases t with
    | nil =>
      have hempty := (List.append_eq_nil_iff.mp h.symm).1
      exact absurd hempty (encodePoint_ne_nil c)
    | cons d t =>
      have hc := hu c List.mem_cons_self
      have hd := ht d List.mem_cons_self
      have hboth : encodePoint d ++ encode t = encodePoint c ++ (encode u ++ bs) := h
      -- Read by the machine, the two sides put out the same code point first.
      have hsame : d = c := by
        have hread := congrArg (run none) hboth
        rw [run_encodePoint hd, run_encodePoint hc] at hread
        exact Option.some.inj (List.cons.inj hread).1
      rw [hsame, List.append_cancel_left_eq] at hboth
      obtain ⟨r, rfl, hr⟩ := ih (fun e he => hu e (List.mem_cons_of_mem c he))
        (fun e he => ht e (List.mem_cons_of_mem d he)) hboth
      exact ⟨r, by rw [hsame, List.cons_append], hr⟩

end Utf8

/-! ## Cuts -/

/-- **Between two code points**: the octets up to there are those of a beginning of
the text. -/
def Text.CutAt (t : Text) (n : Nat) : Prop := ∃ v w, t = v ++ w ∧ (Utf8.encode v).length = n

namespace Text

variable {t u w : Text} {n : Nat}

theorem cutAt_zero (t : Text) : t.CutAt 0 := ⟨[], t, rfl, rfl⟩

/-- A cut behind a beginning is one of the rest. -/
theorem cutAt_append_iff (h : (u ++ w).Clean) :
    (u ++ w).CutAt ((Utf8.encode u).length + n) ↔ w.CutAt n := by
  constructor
  · rintro ⟨v, w', hsplit, hlen⟩
    -- The octets of `v` go on behind those of `u`, so `v` goes on behind `u`.
    have hoctets : Utf8.encode u ++ Utf8.encode w = Utf8.encode v ++ Utf8.encode w' := by
      rw [← Utf8.encode_append, ← Utf8.encode_append, hsplit]
    have hbegins : Utf8.encode u <+: Utf8.encode v := by
      apply List.prefix_of_prefix_length_le (List.prefix_append _ (Utf8.encode w))
      · rw [hoctets]
        exact List.prefix_append _ _
      · omega
    obtain ⟨bs, hbs⟩ := hbegins
    have hclean := clean_append_iff.mp h
    have hv : v.Clean := by
      rw [hsplit] at h
      exact (clean_append_iff.mp h).1
    obtain ⟨r, rfl, rfl⟩ := Utf8.exists_rest_of_encode hclean.1.scalar hv.scalar hbs.symm
    rw [List.append_assoc, List.append_cancel_left_eq] at hsplit
    rw [Utf8.encode_append, List.length_append] at hlen
    exact ⟨r, w', hsplit, by omega⟩
  · rintro ⟨v, w', rfl, hlen⟩
    refine ⟨u ++ v, w', by rw [List.append_assoc], ?_⟩
    rw [Utf8.encode_append, List.length_append, hlen]

end Text

/-- **Pieces decoded one by one** are free of the mark exactly if every cut lies
between two code points of the text. -/
theorem Utf8.markless_pieces_iff {t : Text} (ht : t.Clean) {ps : List (List Octet)}
    (hps : ps.flatten <+: encode t) :
    (∀ p ∈ ps, CodePoint.replacement ∉ decodeLossy p) ↔
      ∀ n, t.CutAt (ps.take n).flatten.length := by
  -- One piece after another is taken off, and the text it encodes off the text.
  induction ps generalizing t with
  | nil =>
    constructor
    · intro _ n
      rw [List.take_nil]
      exact t.cutAt_zero
    · intro _ p hp
      cases hp
  | cons p r ih =>
    obtain ⟨bs, hbs⟩ := hps
    rw [List.flatten_cons, List.append_assoc] at hbs
    -- Either side tells that the first piece encodes a beginning of the text.
    have hrest : ∀ {u w : Text}, t = u ++ w → p = encode u → w.Clean ∧ r.flatten <+: encode w := by
      rintro u w rfl rfl
      rw [encode_append, List.append_cancel_left_eq] at hbs
      exact ⟨(Text.clean_append_iff.mp ht).2, ⟨bs, hbs⟩⟩
    constructor
    · intro hmarkless n
      obtain ⟨u, hu, rfl⟩ :=
        replacement_not_mem_decodeLossy_iff.mp (hmarkless p List.mem_cons_self)
      obtain ⟨w, rfl, -⟩ := exists_rest_of_encode hu.scalar ht.scalar hbs.symm
      obtain ⟨hw, hr⟩ := hrest rfl rfl
      cases n with
      | zero => exact Text.cutAt_zero _
      | succ n =>
        rw [List.take_succ_cons, List.flatten_cons, List.length_append, Text.cutAt_append_iff ht]
        exact (ih hw hr).mp (fun q hq => hmarkless q (List.mem_cons_of_mem _ hq)) n
    · intro hcut
      obtain ⟨u, w, rfl, hlen⟩ := hcut 1
      have hp : p = encode u := by
        rw [encode_append] at hbs
        have hlength : p.length = (encode u).length := by
          rw [hlen]
          simp
        exact (List.append_inj hbs hlength).1
      obtain ⟨hw, hr⟩ := hrest rfl hp
      have hlater : ∀ q ∈ r, CodePoint.replacement ∉ decodeLossy q := by
        apply (ih hw hr).mpr
        intro n
        have hnext := hcut (n + 1)
        rw [List.take_succ_cons, List.flatten_cons, List.length_append, hp,
          Text.cutAt_append_iff ht] at hnext
        exact hnext
      intro q hq
      rcases List.mem_cons.mp hq with rfl | hq
      · exact replacement_not_mem_decodeLossy_iff.mpr ⟨u, (Text.clean_append_iff.mp ht).1, hp⟩
      · exact hlater q hq

end SynthDesk
