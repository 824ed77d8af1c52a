/-
The reader accepts the documents, and nothing else.

For each part of the reader there are two facts. It is sound: what it has read is
written as the grammar says. And it finds what is written, wherever that stands
before something that ends it. Here the depth of the reader comes in: with fewer
levels to open than there are, the reading may break off for them, and for no
other cause.

Both facts pass from the items to the brackets around them, and then, by induction
on the levels, to values.
-/
import SynthDesk.Proofs.Json.Scanning

set_option autoImplicit false

namespace SynthDesk.Json

/-! ## What was read -/

/-- **A sound scanner**: what it reads is written so. -/
def Sound {α : Type} (item : Scanner α) (R : Text → α → Prop) : Prop :=
  ∀ {s a rest}, item s = .ok (a, rest) → ∃ w, s = w ++ rest ∧ R w a

section Sound

variable {α : Type} {item : Scanner α} {R : Text → α → Prop} {close : CodePoint}

/-- Blanks before items belong to the first of them. -/
theorem Listed.blanks {b w : Text} {as : List α} (hb : Blanks b) (h : Listed R w as) :
    Listed R (b ++ w) as := by
  have hspaced : ∀ {w a}, Spaced R w a → Spaced R (b ++ w) a := by
    rintro w a ⟨before, u, after, rfl, hbefore, hafter, hu⟩
    refine ⟨b ++ before, u, after, (List.append_assoc ..).symm, ?_, hafter, hu⟩
    exact List.forall_mem_append.mpr ⟨hb, hbefore⟩
  cases h with
  | one h => exact .one (hspaced h)
  | more h hr =>
    rw [← List.append_assoc]
    exact .more (hspaced h) hr

theorem members_sound (hitem : Sound item R) {n : Nat} {s rest : Text} {as : List α}
    (h : members item close n s = .ok (as, rest)) :
    ∃ w, s = w ++ close :: rest ∧ Listed R w as := by
  induction n generalizing s as with
  | zero => cases h
  | succ n ih =>
    rw [members] at h
    obtain ⟨⟨a, r⟩, hread, h⟩ := bind_eq_ok.mp h
    obtain ⟨w, hs, hw⟩ := hitem hread
    obtain ⟨b, hb, hr⟩ := exists_blanks r
    have hspaced : Spaced R (w ++ b) a := ⟨[], w, b, rfl, List.forall_mem_nil _, hb, hw⟩
    -- What comes after the item and its blanks decides whether it was the last.
    dsimp only at h
    split at h
    · cases h
    · next c r' hskip =>
      rw [hskip] at hr
      split at h
      · next hclose =>
        cases h
        refine ⟨w ++ b, ?_, .one hspaced⟩
        rw [hs, hr, hclose, List.append_assoc]
      · split at h
        · next hcomma =>
          obtain ⟨⟨as', rest'⟩, hmore, h⟩ := bind_eq_ok.mp h
          cases h
          obtain ⟨w', hr', hlisted⟩ := ih hmore
          obtain ⟨b', hb', hskipped⟩ := exists_blanks r'
          have hlater := hlisted.blanks hb'
          refine ⟨w ++ b ++ CodePoint.ofChar ',' :: (b' ++ w'), ?_, .more hspaced hlater⟩
          rw [hs, hr, hcomma, hskipped, hr']
          simp only [List.append_assoc, List.cons_append]
        · cases h

theorem bracketed_sound (hitem : Sound item R) (missing : Complaint) :
    Sound (bracketed item missing close) (Bracketed R close) := by
  intro s as rest h
  obtain ⟨b, hb, hs⟩ := exists_blanks s
  unfold bracketed at h
  split at h
  · cases h
  · next c r hskip =>
    rw [hskip] at hs
    split at h
    · next hclose =>
      cases h
      refine ⟨b ++ [close], ?_, .empty hb⟩
      rw [hs, hclose, List.append_assoc]
      rfl
    · obtain ⟨w, hw, hlisted⟩ := members_sound hitem h
      refine ⟨b ++ w ++ [close], ?_, .listed (hlisted.blanks hb)⟩
      rw [hs, hw]
      simp only [List.append_assoc, List.singleton_append]

theorem field_sound {value : Scanner Value} {R : Text → Value → Prop} (hvalue : Sound value R) :
    Sound (field value) (Field R) := by
  intro s f rest h
  unfold field at h
  split at h
  · cases h
  · next q s =>
    split at h
    · next hquote =>
      obtain ⟨⟨name, r⟩, hname, h⟩ := bind_eq_ok.mp h
      obtain ⟨n, hn, hstring⟩ := string_sound hname
      obtain ⟨b, hb, hr⟩ := exists_blanks r
      dsimp only at h
      split at h
      · cases h
      · next c r' hskip =>
        rw [hskip] at hr
        split at h
        · next hcolon =>
          obtain ⟨⟨v, rest'⟩, hread, h⟩ := bind_eq_ok.mp h
          cases h
          obtain ⟨w, hw, hwritten⟩ := hvalue hread
          obtain ⟨b', hb', hr'⟩ := exists_blanks r'
          refine ⟨_, ?_, .mk hstring hb hb' hwritten⟩
          rw [hquote, hn, hr, hcolon, hr', hw]
          simp only [List.append_assoc, List.cons_append]
        · cases h
    · cases h

/-- What opens a level. -/
theorem eq_of_opening? {c : CodePoint} {n : Nesting} (h : opening? c = some n) :
    c = match n with | .array => CodePoint.ofChar '[' | .object => CodePoint.ofChar '\x7b' := by
  unfold opening? at h
  split at h
  · next hc =>
    cases h
    exact hc
  · split at h
    · next hc =>
      cases h
      exact hc
    · cases h

/-- **Values are read as they are written.** -/
theorem value_sound (depth : Nat) : Sound (value depth) (Written depth) := by
  induction depth with
  | zero =>
    intro s v rest h
    cases s with
    | nil => cases h
    | cons c r =>
      rw [value] at h
      split at h
      · cases h
      · exact scalar_sound h
  | succ depth ih =>
    intro s v rest h
    cases s with
    | nil => cases h
    | cons c r =>
      rw [value] at h
      split at h
      · next hopening =>
        obtain ⟨⟨items, rest'⟩, hread, h⟩ := bind_eq_ok.mp h
        cases h
        obtain ⟨w, hr, hitems⟩ := bracketed_sound ih _ hread
        rw [eq_of_opening? hopening, hr]
        exact ⟨_, rfl, .list hitems⟩
      · next hopening =>
        obtain ⟨⟨pairs, rest'⟩, hread, h⟩ := bind_eq_ok.mp h
        cases h
        obtain ⟨w, hr, hpairs⟩ := bracketed_sound (field_sound ih) _ hread
        rw [eq_of_opening? hopening, hr]
        exact ⟨_, rfl, .object hpairs⟩
      · obtain ⟨w, hw, hscalar⟩ := scalar_sound h
        exact ⟨w, hw, .scalar hscalar⟩

end Sound

/-! ## What is found -/

/-- A reading comes to an item and to what follows it. Only if it is not shallow may
it break off for too many levels instead. -/
def Gives {α : Type} (shallow : Prop) (x : Except ReadError (α × Text)) (a : α) (rest : Text) :
    Prop :=
  x = .ok (a, rest) ∨ ¬ shallow ∧ ∃ n, x = .error (.tooDeep n)

/-- **A scanner finds what is written**, where something follows that ends it. An
item begins with nothing that would end it. -/
structure Finds {α : Type} (shallow : Prop) (item : Scanner α) (R : Text → α → Prop) : Prop where
  gives : ∀ {w a rest}, R w a → Stops rest → Gives shallow (item (w ++ rest)) a rest
  head : ∀ {w a}, R w a → ∃ c r, w = c :: r ∧ isStop c = false

section Finds

variable {α β : Type} {shallow : Prop} {item : Scanner α} {R : Text → α → Prop}
  {close : CodePoint}

/-- Readings come to what their steps come to. -/
theorem Gives.bind {x : Except ReadError (α × Text)} {a : α} {r : Text} (h : Gives shallow x a r)
    {f : α × Text → Except ReadError (β × Text)} {b : β} {rest : Text}
    (hf : Gives shallow (f (a, r)) b rest) : Gives shallow (x >>= f) b rest := by
  rcases h with rfl | ⟨hdeep, n, rfl⟩
  · exact hf
  · exact Or.inr ⟨hdeep, n, rfl⟩

theorem Gives.map {x : Except ReadError (α × Text)} {a : α} {rest : Text}
    (h : Gives shallow x a rest) (f : α → β) :
    Gives shallow (x >>= fun read => .ok (f read.1, read.2)) (f a) rest :=
  h.bind (Or.inl rfl)

theorem isStop_of_isBlank {c : CodePoint} (h : isBlank c = true) : isStop c = true := by
  rw [isStop, h]
  rfl

theorem isBlank_of_isStop {c : CodePoint} (h : isStop c = false) : isBlank c = false := by
  cases hblank : isBlank c with
  | false => rfl
  | true =>
    rw [isStop_of_isBlank hblank] at h
    cases h

/-- An item among blanks is found, and after it the blanks end where they end. -/
theorem Finds.spaced (h : Finds shallow item R) {w : Text} {a : α} (hs : Spaced R w a)
    {rest : Text} (hrest : Stops rest) :
    ∃ r, Gives shallow (item (skipBlanks (w ++ rest))) a r ∧ skipBlanks r = skipBlanks rest ∧
      ∃ d s, skipBlanks (w ++ rest) = d :: s ∧ isStop d = false := by
  obtain ⟨before, u, after, rfl, hbefore, hafter, hu⟩ := hs
  obtain ⟨d, s, rfl, hd⟩ := h.head hu
  have hskip : skipBlanks (before ++ (d :: s ++ after) ++ rest) = d :: s ++ (after ++ rest) := by
    rw [List.append_assoc, skipBlanks_append hbefore, List.append_assoc, List.cons_append,
      skipBlanks_cons (isBlank_of_isStop hd)]
  rw [hskip]
  exact ⟨after ++ rest, h.gives hu (hafter.stops_append hrest), skipBlanks_append hafter rest, d, _,
    rfl, hd⟩

/-- Items that are listed begin with the first of them. -/
theorem Finds.head_of_listed (h : Finds shallow item R) {w : Text} {as : List α}
    (hl : Listed R w as) {rest : Text} (hrest : Stops rest) :
    ∃ d s, skipBlanks (w ++ rest) = d :: s ∧ isStop d = false := by
  cases hl with
  | one hs =>
    obtain ⟨-, -, -, hhead⟩ := h.spaced hs hrest
    exact hhead
  | more hs hr =>
    rw [List.append_assoc]
    obtain ⟨-, -, -, hhead⟩ := h.spaced hs (stops_cons (c := CodePoint.ofChar ',') rfl _)
    exact hhead

/-- There are no more items than code points. -/
theorem Finds.length_le (h : Finds shallow item R) {w : Text} {as : List α}
    (hl : Listed R w as) : as.length ≤ w.length := by
  induction hl with
  | @one w a hs =>
    obtain ⟨before, u, after, rfl, -, -, hu⟩ := hs
    obtain ⟨d, s, rfl, -⟩ := h.head hu
    simp only [List.length_append, List.length_cons, List.length_nil]
    omega
  | more hs hr ih =>
    simp only [List.length_append, List.length_cons]
    omega

/-- **Members are found** up to the closing bracket. -/
theorem Finds.members (h : Finds shallow item R) (hclose : isStop close = true)
    (hblank : isBlank close = false) (hcomma : close ≠ ',') {w : Text} {as : List α}
    (hl : Listed R w as) {n : Nat} (hn : as.length ≤ n) (rest : Text) :
    Gives shallow (Json.members item close n (skipBlanks (w ++ close :: rest))) as rest := by
  have hclosing : skipBlanks (close :: rest) = close :: rest := skipBlanks_cons hblank rest
  induction hl generalizing n with
  | @one w a hs =>
    obtain ⟨m, rfl⟩ : ∃ m, n = m + 1 := ⟨n - 1, by rw [List.length_singleton] at hn; omega⟩
    obtain ⟨r, hgives, hskip, -⟩ := h.spaced hs (stops_cons hclose rest)
    rw [Json.members]
    refine hgives.bind (Or.inl ?_)
    simp only [hskip, hclosing, if_pos]
    rfl
  | @more w r' a as hs hr ih =>
    obtain ⟨m, rfl⟩ : ∃ m, n = m + 1 := ⟨n - 1, by rw [List.length_cons] at hn; omega⟩
    have hlater := ih (n := m) (by rw [List.length_cons] at hn; omega)
    have hcommaBlank : isBlank (CodePoint.ofChar ',') = false := by decide
    rw [List.append_assoc, List.cons_append]
    obtain ⟨r, hgives, hskip, -⟩ :=
      h.spaced hs (stops_cons (c := CodePoint.ofChar ',') rfl (r' ++ close :: rest))
    rw [Json.members]
    refine hgives.bind ?_
    simp only [hskip, skipBlanks_cons hcommaBlank, if_neg hcomma.symm, if_pos]
    exact hlater.map (a :: ·)

/-- **Brackets are found** with their members. -/
theorem Finds.bracketed (h : Finds shallow item R) (hclose : isStop close = true)
    (hblank : isBlank close = false) (hcomma : close ≠ ',') {w : Text} {as : List α}
    (hb : Bracketed R close w as) (missing : Complaint) (rest : Text) :
    Gives shallow (Json.bracketed item missing close (w ++ rest)) as rest := by
  cases hb with
  | @empty b hblanks =>
    have hskip : skipBlanks (b ++ [close] ++ rest) = close :: rest := by
      rw [List.append_assoc, skipBlanks_append hblanks, List.singleton_append,
        skipBlanks_cons hblank]
    refine Or.inl ?_
    simp only [Json.bracketed, hskip, if_pos]
  | @listed w as hl =>
    obtain ⟨d, s, hskip, hd⟩ := h.head_of_listed hl (stops_cons hclose rest)
    have hne : d ≠ close := fun heq => ne_of_test hclose hd heq.symm
    -- The count is never short: each item takes one code point at least.
    have hcount : as.length ≤ (w ++ [close] ++ rest).length + 1 := by
      have hle := h.length_le hl
      rw [List.length_append, List.length_append]
      omega
    have hmembers := h.members hclose hblank hcomma hl hcount rest
    rw [List.append_assoc, List.singleton_append] at hmembers ⊢
    rw [hskip] at hmembers
    simp only [Json.bracketed, hskip, if_neg hne]
    exact hmembers

/-- A field is found where its value is. -/
theorem Finds.field {value : Scanner Value} {R : Text → Value → Prop} (h : Finds shallow value R) :
    Finds shallow (Json.field value) (Field R) where
  gives := by
    intro w f rest hf hrest
    cases hf with
    | @mk n b b' w name v hn hb hb' hv =>
      cases hn with
      | @quoted body us hbody =>
        obtain ⟨d, s, rfl, hd⟩ := h.head hv
        have hcolonBlank : isBlank (CodePoint.ofChar ':') = false := by decide
        simp only [List.cons_append, List.append_assoc, List.nil_append, Json.field, if_pos,
          string_append hbody]
        refine Gives.bind (Or.inl rfl) ?_
        simp only [skipBlanks_append hb, skipBlanks_cons hcolonBlank, if_pos,
          skipBlanks_append hb', skipBlanks_cons (isBlank_of_isStop hd)]
        exact (h.gives hv hrest).map fun v => (joinHalves us, v)
  head := by
    intro w f hf
    cases hf with
    | mk hn hb hb' hv =>
      cases hn with
      | quoted hbody => exact ⟨_, _, rfl, by decide⟩

theorem Gives.mono {shallow' : Prop} {x : Except ReadError (α × Text)} {a : α} {rest : Text}
    (h : Gives shallow x a rest) (himp : shallow' → shallow) : Gives shallow' x a rest :=
  h.imp_right fun hdeep => ⟨mt himp hdeep.1, hdeep.2⟩

/-- Values begin with nothing that would end them. -/
theorem Written.exists_head {levels : Nat} {w : Text} {v : Value} (h : Written levels w v) :
    ∃ c r, w = c :: r ∧ isStop c = false := by
  have hscalar : ∀ {w v}, Scalar w v → ∃ c r, w = c :: r ∧ isStop c = false := by
    intro w v hs
    obtain ⟨c, r, hw, hc, -⟩ := hs.exists_head
    exact ⟨c, r, hw, hc⟩
  cases levels with
  | zero => exact hscalar h
  | succ levels =>
    cases h with
    | scalar hs => exact hscalar hs
    | list hb => exact ⟨_, _, rfl, by decide⟩
    | object hb => exact ⟨_, _, rfl, by decide⟩

/-- Scalars are found at any depth. -/
theorem value_scalar (depth : Nat) {w rest : Text} {v : Value} (h : Scalar w v)
    (hrest : Stops rest) : value depth (w ++ rest) = .ok (v, rest) := by
  have hread := scalar_append h hrest
  obtain ⟨c, r, rfl, -, hopening⟩ := h.exists_head
  rw [List.cons_append] at hread ⊢
  cases depth with
  | zero => simpa only [value, hopening] using hread
  | succ depth => simpa only [value, hopening] using hread

/-- **Values are found**, and those of not too many levels for certain. -/
theorem value_finds (levels depth : Nat) :
    Finds (levels ≤ depth) (value depth) (Written levels) := by
  refine ⟨?_, Written.exists_head⟩
  induction levels generalizing depth with
  | zero =>
    intro w v rest h hrest
    exact Or.inl (value_scalar depth h hrest)
  | succ levels ih =>
    intro w v rest h hrest
    cases h with
    | scalar hs => exact Or.inl (value_scalar depth hs hrest)
    | list hb =>
      -- Without a level left the bracket itself is refused.
      cases depth with
      | zero => exact Or.inr ⟨Nat.not_succ_le_zero _, .array, rfl⟩
      | succ depth =>
        have hfinds : Finds (levels ≤ depth) (value depth) (Written levels) :=
          ⟨ih depth, Written.exists_head⟩
        have hitems := hfinds.bracketed (by decide) (by decide) (by decide) hb .noValue rest
        exact (hitems.map Value.list).mono Nat.le_of_succ_le_succ
    | object hb =>
      cases depth with
      | zero => exact Or.inr ⟨Nat.not_succ_le_zero _, .object, rfl⟩
      | succ depth =>
        have hfinds : Finds (levels ≤ depth) (value depth) (Written levels) :=
          ⟨ih depth, Written.exists_head⟩
        have hpairs :=
          hfinds.field.bracketed (by decide) (by decide) (by decide) hb .noName rest
        exact (hpairs.map fun pairs => Value.object (Keyed.ofPairs pairs)).mono
          Nat.le_of_succ_le_succ

end Finds

/-! ## Documents -/

theorem document_sound {limit : Nat} {t : Text} {v : Value} (h : document limit t = .ok v) :
    IsDocument limit t v := by
  rw [document] at h
  obtain ⟨⟨v', rest⟩, hread, h⟩ := bind_eq_ok.mp h
  obtain ⟨b, hb, ht⟩ := exists_blanks t
  obtain ⟨w, hw, hwritten⟩ := value_sound limit hread
  obtain ⟨b', hb', hrest⟩ := exists_blanks rest
  dsimp only at h
  split at h
  · next hend =>
    cases h
    rw [List.isEmpty_iff.mp hend, List.append_nil] at hrest
    rw [hw, hrest] at ht
    exact ⟨b, w, b', ht, hb, hb', hwritten⟩
  · cases h

/-- **The documents of not too many levels are accepted**, and others for no cause but
their levels refused. -/
theorem document_finds {levels : Nat} {t : Text} {v : Value} (h : IsDocument levels t v)
    (limit : Nat) :
    document limit t = .ok v ∨ limit < levels ∧ ∃ n, document limit t = .error (.tooDeep n) := by
  obtain ⟨r, hgives, hskip, -⟩ := (value_finds levels limit).spaced h stops_nil
  rw [List.append_nil] at hgives
  rw [document]
  rcases hgives with hread | ⟨hdeep, n, hread⟩
  · refine Or.inl ?_
    rw [hread]
    simp only [bind, Except.bind, hskip]
    rfl
  · exact Or.inr ⟨Nat.lt_of_not_le hdeep, n, by rw [hread]; rfl⟩

/-- **The reader accepts exactly the documents** within its depth. -/
theorem document_eq_ok_iff {limit : Nat} {t : Text} {v : Value} :
    document limit t = .ok v ↔ IsDocument limit t v := by
  refine ⟨document_sound, fun h => ?_⟩
  rcases document_finds h limit with hread | ⟨hdeep, -⟩
  · exact hread
  · exact absurd hdeep (Nat.lt_irrefl _)

/-! ## Objects -/

theorem IsObject.isDocument {levels : Nat} {t : Text} {pairs : List (Text × Value)}
    (h : IsObject levels t pairs) : IsDocument (levels + 1) t (.object (Keyed.ofPairs pairs)) := by
  obtain ⟨before, w, after, ht, hbefore, hafter, hw⟩ := h
  cases hw with
  | mk hpairs => exact ⟨before, _, after, ht, hbefore, hafter, .object hpairs⟩

theorem exists_isObject {levels : Nat} {t : Text} {fields : List (Text × Value)}
    (h : IsDocument levels t (.object fields)) :
    ∃ levels' pairs, IsObject levels' t pairs ∧ fields = Keyed.ofPairs pairs := by
  have hscalar : ∀ {w}, ¬ Scalar w (.object fields) := by
    intro w hw
    cases hw with
    | word hmem => simp [words] at hmem
    | number hnumber => cases hnumber
  obtain ⟨before, w, after, ht, hbefore, hafter, hw⟩ := h
  cases levels with
  | zero => exact absurd hw hscalar
  | succ levels =>
    cases hw with
    | scalar hw => exact absurd hw hscalar
    | object hpairs => exact ⟨levels, _, ⟨before, _, after, ht, hbefore, hafter, .mk hpairs⟩, rfl⟩

end SynthDesk.Json
