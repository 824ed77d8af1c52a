/-
Documents there and back.

The reader of a part is said to read a written text as an item when it gives
the item and whatever follows the text, for every continuation. This is shown
for strings, and carried from the members of an array or object to the whole,
so that a document of texts, lists and objects is read as what was written.

The other direction asks nothing of the document: whatever the reader makes of
any text at all, the strings in it hold no pair of halves.
-/
import SynthDesk.Proofs.Json.Strings

set_option autoImplicit false

namespace SynthDesk

/-- All texts that a value holds are without a pair of halves; what its fields
are called does not matter. -/
inductive Value.Unpaired : Value → Prop
  | null : Unpaired .null
  | bool (b : Bool) : Unpaired (.bool b)
  | int (i : Int) : Unpaired (.int i)
  | float (x : Binary64) : Unpaired (.float x)
  | text {t : Text} (h : t.Unpaired) : Unpaired (.text t)
  | list {items : List Value} (h : ∀ v ∈ items, Unpaired v) : Unpaired (.list items)
  | object {fields : List (Text × Value)} (h : ∀ f ∈ fields, Unpaired f.2) :
    Unpaired (.object fields)

namespace Json

/-! ## Blanks -/

theorem skipBlanks_cons {c : CodePoint} (h : isBlank c = false) (s : Text) :
    skipBlanks (c :: s) = c :: s := by
  rw [skipBlanks, List.dropWhile_cons, h]
  rfl

theorem skipBlanks_fill (n : Nat) (s : Text) :
    skipBlanks (Text.fill n ' ' ++ s) = skipBlanks s := by
  induction n with
  | zero => rfl
  | succ n ih =>
    rw [Text.fill, List.replicate_succ, List.cons_append, skipBlanks, List.dropWhile_cons]
    exact ih

/-- Line ends and indentation are skipped. -/
theorem skipBlanks_newLine (level : Nat) (s : Text) :
    skipBlanks (newLine level ++ s) = skipBlanks s := by
  rw [newLine, List.cons_append, skipBlanks, List.dropWhile_cons]
  exact skipBlanks_fill (2 * level) s

/-! ## Members -/

/-- **A scanner reads a text as an item**, and stops where the text ends. The
text begins with a code point that is no blank and does not close the brackets
that the item may stand in. -/
structure Reads {α : Type} (item : Scanner α) (close : CodePoint) (text : Text) (a : α) :
    Prop where
  read : ∀ rest, item (text ++ rest) = .ok (a, rest)
  head : ∃ c r, text = c :: r ∧ isBlank c = false ∧ c ≠ close

section Members

variable {α : Type} {item : Scanner α} {close : CodePoint} {text : Text} {a : α}

theorem Reads.skipBlanks (h : Reads item close text a) (rest : Text) :
    skipBlanks (text ++ rest) = text ++ rest := by
  obtain ⟨c, r, rfl, hc, -⟩ := h.head
  exact skipBlanks_cons hc _

/-- Members on lines of their own are read one after another, up to the bracket
that closes them. -/
theorem members_join (hblank : isBlank close = false) (hcomma : close ≠ ',') (inner outer : Nat)
    {texts : List Text} {items : List α} (h : List.Forall₂ (Reads item close) texts items)
    (hne : texts ≠ []) (rest : Text) {n : Nat} (hn : texts.length ≤ n) :
    members item close n
      (Text.join (CodePoint.ofChar ',' :: newLine inner) texts ++
        (newLine outer ++ close :: rest)) = .ok (items, rest) := by
  induction h generalizing n with
  | nil => exact absurd rfl hne
  | @cons t a texts items ht hrest ih =>
    obtain ⟨n, rfl⟩ : ∃ m, n = m + 1 := ⟨n - 1, by rw [List.length_cons] at hn; omega⟩
    cases hrest with
    | nil =>
      -- The last member: after it comes the closing bracket.
      have hend : Json.skipBlanks (newLine outer ++ close :: rest) = close :: rest := by
        rw [skipBlanks_newLine, skipBlanks_cons hblank]
      rw [Text.join, members, ht.read]
      simp only [bind, Except.bind, hend, if_pos]
      rfl
    | @cons u b texts items hu hmore =>
      have htail := ih (List.cons_ne_nil _ _) (n := n) (by simpa using hn)
      obtain ⟨v, hv⟩ : ∃ v, Text.join (CodePoint.ofChar ',' :: newLine inner) (u :: texts) =
          u ++ v := by
        cases texts with
        | nil => exact ⟨[], (List.append_nil u).symm⟩
        | cons w texts => exact ⟨_, List.append_assoc _ _ _⟩
      -- The next member begins with no blank, so the line end is all that is skipped.
      have hskip : ∀ s, Json.skipBlanks (newLine inner ++ (u ++ v ++ s)) = u ++ v ++ s := by
        intro s
        rw [skipBlanks_newLine, List.append_assoc, hu.skipBlanks]
      have hcons : Json.skipBlanks (CodePoint.ofChar ',' :: (newLine inner ++
          (u ++ v ++ (newLine outer ++ close :: rest)))) = CodePoint.ofChar ',' ::
          (newLine inner ++ (u ++ v ++ (newLine outer ++ close :: rest))) :=
        skipBlanks_cons (by decide) _
      rw [hv] at htail
      rw [Text.join, hv, List.append_assoc, List.append_assoc, List.cons_append, members, ht.read]
      simp only [bind, Except.bind, hcons, if_neg hcomma.symm, if_pos, hskip, htail]
      rfl

/-- Texts that begin with something are no more than what they make together. -/
theorem length_le_length_join (sep : Text) {texts : List Text} (h : ∀ t ∈ texts, t ≠ []) :
    texts.length ≤ (Text.join sep texts).length := by
  induction texts with
  | nil => exact Nat.le_refl 0
  | cons t r ih =>
    have ht : 0 < t.length := List.length_pos_of_ne_nil (h t List.mem_cons_self)
    cases r with
    | nil =>
      rw [Text.join, List.length_singleton]
      exact ht
    | cons u r =>
      have hr := ih fun x hx => h x (List.mem_cons_of_mem t hx)
      rw [Text.join, List.length_append, List.length_append, List.length_cons]
      omega

theorem ne_nil_of_forall₂_reads {texts : List Text} {items : List α}
    (h : List.Forall₂ (Reads item close) texts items) : ∀ t ∈ texts, t ≠ [] := by
  induction h with
  | nil =>
    intro t ht
    cases ht
  | cons hr _ ih =>
    intro t ht
    rcases List.mem_cons.mp ht with rfl | ht
    · obtain ⟨c, r, hc, -⟩ := hr.head
      rw [hc]
      exact List.cons_ne_nil c r
    · exact ih t ht

/-- **Brackets are read as their members.** -/
theorem bracketed_bracket (opening closing : Char) (missing : Complaint) (level : Nat)
    (hblank : isBlank (CodePoint.ofChar closing) = false) (hcomma : CodePoint.ofChar closing ≠ ',')
    {texts : List Text} {items : List α}
    (h : List.Forall₂ (Reads item (CodePoint.ofChar closing)) texts items) :
    ∃ body, bracket opening closing level texts = CodePoint.ofChar opening :: body ∧
      ∀ rest, bracketed item missing (CodePoint.ofChar closing) (body ++ rest) =
        .ok (items, rest) := by
  cases h with
  | nil =>
    refine ⟨[CodePoint.ofChar closing], rfl, fun rest => ?_⟩
    rw [bracketed, List.cons_append, skipBlanks_cons hblank]
    exact if_pos rfl
  | @cons t a texts items ht hrest =>
    have hall := List.Forall₂.cons ht hrest
    refine ⟨newLine (level + 1) ++ (Text.join (CodePoint.ofChar ',' :: newLine (level + 1))
      (t :: texts) ++ (newLine level ++ [CodePoint.ofChar closing])), ?_, fun rest => ?_⟩
    · rw [bracket, List.cons_append, List.cons_append, List.cons_append, List.append_assoc,
        List.append_assoc]
      intro hnil
      cases hnil
    · -- The first member begins with what is neither a blank nor the closing bracket.
      obtain ⟨c, r, rfl, hc, hne⟩ := ht.head
      obtain ⟨v, hv⟩ : ∃ v, Text.join (CodePoint.ofChar ',' :: newLine (level + 1))
          ((c :: r) :: texts) = c :: v := by
        cases texts with
        | nil => exact ⟨r, rfl⟩
        | cons w texts => exact ⟨_, rfl⟩
      have hlength := length_le_length_join (CodePoint.ofChar ',' :: newLine (level + 1))
        (ne_nil_of_forall₂_reads hall)
      have hmembers := members_join hblank hcomma (level + 1) level hall (List.cons_ne_nil _ _) rest
        (n := ((newLine (level + 1) ++
          (Text.join (CodePoint.ofChar ',' :: newLine (level + 1)) ((c :: r) :: texts) ++
            (newLine level ++ [CodePoint.ofChar closing]))) ++ rest).length + 1)
        (by simp only [List.length_append]; omega)
      rw [hv] at hmembers
      simp only [bracketed, hv, List.append_assoc, skipBlanks_newLine, List.cons_append,
        List.nil_append, skipBlanks_cons hc, if_neg hne] at hmembers ⊢
      exact hmembers

end Members

/-! ## Values -/

/-- A string is read as its text, at any depth. -/
theorem reads_quote {close : CodePoint} (hclose : CodePoint.ofChar '"' ≠ close) (depth : Nat)
    {t : Text} (ht : t.Unpaired) : Reads (value depth) close (quote t) (.text t) := by
  refine ⟨fun rest => ?_, _, _, rfl, by decide, hclose⟩
  have hopening : opening? (CodePoint.ofChar '"') = none := by decide
  have hscalar : scalar (CodePoint.ofChar '"' ::
      (t.flatMap escape ++ CodePoint.ofChar '"' :: rest)) = .ok (.text t, rest) := by
    rw [scalar, if_pos rfl, string_quoted ht]
    rfl
  have hquote : quote t ++ rest =
      CodePoint.ofChar '"' :: (t.flatMap escape ++ CodePoint.ofChar '"' :: rest) := by
    rw [quote, List.append_assoc]
    rfl
  rw [hquote]
  cases depth with
  | zero => simpa only [value, hopening] using hscalar
  | succ n => simpa only [value, hopening] using hscalar

/-- A list is read as its items, one level deeper than they are. -/
theorem reads_list {close : CodePoint} (hclose : CodePoint.ofChar '[' ≠ close) (level : Nat)
    {depth : Nat} {texts : List Text} {items : List Value}
    (h : List.Forall₂ (Reads (value depth) (CodePoint.ofChar ']')) texts items) :
    Reads (value (depth + 1)) close (bracket '[' ']' level texts) (.list items) := by
  obtain ⟨body, hbody, hread⟩ := bracketed_bracket '[' ']' .noValue level (by decide) (by decide) h
  have hopening : opening? (CodePoint.ofChar '[') = some .array := by decide
  refine ⟨fun rest => ?_, _, _, hbody, by decide, hclose⟩
  rw [hbody, List.cons_append, value]
  simp only [hopening, hread]
  rfl

/-- A field: a name, a colon, a value. -/
theorem reads_field {depth : Nat} {k : Text} (hk : k.Unpaired) {close : CodePoint} {shown : Text}
    {v : Value} (h : Reads (value depth) close shown v) :
    Reads (field (value depth)) (CodePoint.ofChar '\x7d')
      (quote k ++ Text.ofString ": " ++ shown) (k, v) := by
  refine ⟨fun rest => ?_, _, _, rfl, by decide, by decide⟩
  have hquote : quote k ++ Text.ofString ": " ++ shown ++ rest =
      CodePoint.ofChar '"' :: (k.flatMap escape ++ CodePoint.ofChar '"' ::
        CodePoint.ofChar ':' :: CodePoint.ofChar ' ' :: (shown ++ rest)) := by
    rw [quote, List.append_assoc, List.append_assoc, List.append_assoc]
    rfl
  have hcolon : skipBlanks (CodePoint.ofChar ':' :: CodePoint.ofChar ' ' :: (shown ++ rest)) =
      CodePoint.ofChar ':' :: CodePoint.ofChar ' ' :: (shown ++ rest) :=
    skipBlanks_cons (by decide) _
  have hvalue : skipBlanks (CodePoint.ofChar ' ' :: (shown ++ rest)) = shown ++ rest :=
    (skipBlanks_fill 1 _).trans (h.skipBlanks rest)
  rw [hquote, field, if_pos rfl, string_quoted hk]
  simp only [bind, Except.bind, hcolon, if_pos, hvalue, h.read]
  rfl

/-- An object is read as its fields, one level deeper than their values are. -/
theorem reads_object {close : CodePoint} (hclose : CodePoint.ofChar '\x7b' ≠ close) (level : Nat)
    {depth : Nat} {texts : List Text} {pairs : List (Text × Value)}
    (h : List.Forall₂ (Reads (field (value depth)) (CodePoint.ofChar '\x7d')) texts pairs) :
    Reads (value (depth + 1)) close (bracket '\x7b' '\x7d' level texts)
      (.object (Keyed.ofPairs pairs)) := by
  obtain ⟨body, hbody, hread⟩ :=
    bracketed_bracket '\x7b' '\x7d' .noName level (by decide) (by decide) h
  have hopening : opening? (CodePoint.ofChar '\x7b') = some .object := by decide
  refine ⟨fun rest => ?_, _, _, hbody, by decide, hclose⟩
  rw [hbody, List.cons_append, value]
  simp only [hopening, hread]
  rfl

/-- **A text that is read as a value is a document.** -/
theorem document_of_reads {close : CodePoint} {text : Text} {v : Value}
    {levels : Nat} (h : Reads (value levels) close text v) : document levels text = .ok v := by
  have hread := h.read []
  have hskip := h.skipBlanks []
  rw [List.append_nil] at hread hskip
  rw [document, hskip, hread]
  rfl

/-! ## Strings that were read -/

/-- Two steps succeed when the first does, and the second on what it gives. -/
theorem bind_eq_ok {ε α β : Type} {x : Except ε α} {f : α → Except ε β} {b : β} :
    (x >>= f) = .ok b ↔ ∃ a, x = .ok a ∧ f a = .ok b := by
  cases x with
  | error e =>
    constructor
    · intro h
      cases h
    · rintro ⟨a, ha, -⟩
      cases ha
  | ok a =>
    constructor
    · intro h
      exact ⟨a, rfl, h⟩
    · rintro ⟨a, ha, h⟩
      cases ha
      exact h

/-- What holds of every item that is read holds of all members. -/
theorem forall_mem_members {α : Type} {item : Scanner α} {P : α → Prop}
    (hitem : ∀ s a rest, item s = .ok (a, rest) → P a) (close : CodePoint) {n : Nat} {s : Text}
    {as : List α} {rest : Text} (h : members item close n s = .ok (as, rest)) : ∀ a ∈ as, P a := by
  induction n generalizing s as rest with
  | zero => cases h
  | succ n ih =>
    rw [members] at h
    obtain ⟨⟨v, r⟩, hv, h⟩ := bind_eq_ok.mp h
    have hfirst : P v := hitem s v r hv
    dsimp only at h
    split at h
    · cases h
    · split at h
      · cases h
        intro a ha
        obtain rfl := List.mem_singleton.mp ha
        exact hfirst
      · split at h
        · obtain ⟨⟨vs, rest'⟩, hvs, h⟩ := bind_eq_ok.mp h
          cases h
          intro a ha
          rcases List.mem_cons.mp ha with rfl | ha
          · exact hfirst
          · exact ih hvs a ha
        · cases h

theorem forall_mem_bracketed {α : Type} {item : Scanner α} {P : α → Prop}
    (hitem : ∀ s a rest, item s = .ok (a, rest) → P a) {missing : Complaint} {close : CodePoint}
    {s : Text} {as : List α} {rest : Text} (h : bracketed item missing close s = .ok (as, rest)) :
    ∀ a ∈ as, P a := by
  unfold bracketed at h
  split at h
  · cases h
  · split at h
    · cases h
      intro a ha
      cases ha
    · exact forall_mem_members hitem close h

/-- The value of a field is what the scanner of values gives. -/
theorem field_value {item : Scanner Value} {P : Value → Prop}
    (hitem : ∀ s v rest, item s = .ok (v, rest) → P v) {s : Text} {f : Text × Value} {rest : Text}
    (h : field item s = .ok (f, rest)) : P f.2 := by
  unfold field at h
  split at h
  · cases h
  · split at h
    · obtain ⟨⟨name, r⟩, -, h⟩ := bind_eq_ok.mp h
      dsimp only at h
      split at h
      · cases h
      · split at h
        · obtain ⟨⟨v, rest'⟩, hv, h⟩ := bind_eq_ok.mp h
          cases h
          exact hitem _ _ _ hv
        · cases h
    · cases h

/-- Words hold no text. -/
theorem unpaired_of_word? {s : Text} {v : Value} {rest : Text} (h : word? s = some (v, rest)) :
    v.Unpaired := by
  obtain ⟨⟨w, v'⟩, hmem, hfound⟩ := List.exists_of_findSome?_eq_some h
  obtain ⟨r, -, heq⟩ := Option.map_eq_some_iff.mp hfound
  cases heq
  simp only [words, List.mem_cons, Prod.mk.injEq, List.not_mem_nil, or_false] at hmem
  rcases hmem with ⟨-, rfl⟩ | ⟨-, rfl⟩ | ⟨-, rfl⟩ | ⟨-, rfl⟩ | ⟨-, rfl⟩ | ⟨-, rfl⟩
  · exact .null
  · exact .bool true
  · exact .bool false
  · exact .float _
  · exact .float _
  · exact .float _

/-- Numbers hold no text. -/
theorem unpaired_of_number {s : Text} {v : Value} {rest : Text} (h : number s = .ok (v, rest)) :
    v.Unpaired := by
  unfold number at h
  -- Sign and whole part are cut off before the first decision, decimals and power before
  -- the second.
  split at h
  split at h
  split at h
  · cases h
  · split at h
    split at h
    split at h
    · split at h
      · cases h
      · cases h
        exact .int _
    · cases h
      exact .float _

theorem unpaired_of_scalar {s : Text} {v : Value} {rest : Text} (h : scalar s = .ok (v, rest)) :
    v.Unpaired := by
  unfold scalar at h
  split at h
  · cases h
  · split at h
    · obtain ⟨⟨t, r⟩, ht, h⟩ := bind_eq_ok.mp h
      cases h
      exact .text (unpaired_of_string ht)
    · split at h
      · next found hfound =>
        cases h
        exact unpaired_of_word? hfound
      · exact unpaired_of_number h

/-- Putting a value under a name adds no value but this one. -/
theorem forall_mem_put {α : Type} {P : α → Prop} {k : Text} {v : α} {m : Keyed α} (hv : P v)
    (hm : ∀ f ∈ m, P f.2) : ∀ f ∈ Keyed.put k v m, P f.2 := by
  induction m with
  | nil =>
    intro f hf
    obtain rfl := List.mem_singleton.mp hf
    exact hv
  | cons p r ih =>
    obtain ⟨n, w⟩ := p
    have hr := ih fun f hf => hm f (List.mem_cons_of_mem _ hf)
    intro f hf
    unfold Keyed.put at hf
    split at hf
    · rcases List.mem_cons.mp hf with rfl | hf
      · exact hv
      · exact hm f (List.mem_cons_of_mem _ hf)
    · rcases List.mem_cons.mp hf with rfl | hf
      · exact hm _ List.mem_cons_self
      · exact hr f hf

theorem forall_mem_ofPairs {α : Type} {P : α → Prop} {pairs : List (Text × α)}
    (h : ∀ f ∈ pairs, P f.2) : ∀ f ∈ Keyed.ofPairs pairs, P f.2 := by
  -- The pairs are put one after another into what is there already.
  have hput : ∀ (pairs : List (Text × α)) (m : Keyed α), (∀ f ∈ pairs, P f.2) →
      (∀ f ∈ m, P f.2) → ∀ f ∈ pairs.foldl (fun m p => Keyed.put p.1 p.2 m) m, P f.2 := by
    intro pairs
    induction pairs with
    | nil =>
      intro m _ hm
      exact hm
    | cons p r ih =>
      intro m hall hm
      refine ih _ (fun f hf => hall f (List.mem_cons_of_mem p hf)) ?_
      exact forall_mem_put (hall p List.mem_cons_self) hm
  refine hput pairs [] h ?_
  intro f hf
  cases hf

/-- **Whatever was read is without pairs of halves**, at every depth. -/
theorem unpaired_of_value {depth : Nat} {s : Text} {v : Value} {rest : Text}
    (h : value depth s = .ok (v, rest)) : v.Unpaired := by
  induction depth generalizing s v rest with
  | zero =>
    cases s with
    | nil => cases h
    | cons c r =>
      rw [value] at h
      split at h
      · cases h
      · exact unpaired_of_scalar h
  | succ depth ih =>
    have hitem : ∀ s v rest, value depth s = .ok (v, rest) → v.Unpaired := fun s v rest h => ih h
    cases s with
    | nil => cases h
    | cons c r =>
      rw [value] at h
      split at h
      · obtain ⟨⟨items, r'⟩, hitems, h⟩ := bind_eq_ok.mp h
        cases h
        exact .list (forall_mem_bracketed hitem hitems)
      · obtain ⟨⟨pairs, r'⟩, hpairs, h⟩ := bind_eq_ok.mp h
        cases h
        have hfields := forall_mem_bracketed (P := fun f : Text × Value => f.2.Unpaired)
          (fun s f rest hf => field_value hitem hf) hpairs
        exact .object (forall_mem_ofPairs hfields)
      · exact unpaired_of_scalar h

theorem unpaired_of_document {levels : Nat} {s : Text} {v : Value}
    (h : document levels s = .ok v) : v.Unpaired := by
  unfold document at h
  obtain ⟨⟨w, rest⟩, hw, h⟩ := bind_eq_ok.mp h
  dsimp only at h
  split at h
  · cases h
    exact unpaired_of_value hw
  · cases h

/-! ## Brackets are written in ASCII -/

theorem newLine_isAscii (level : Nat) : ∀ c ∈ newLine level, c.isAscii = true := by
  intro c hc
  rcases List.mem_cons.mp hc with rfl | hc
  · rfl
  · obtain rfl := List.eq_of_mem_replicate hc
    rfl

theorem join_isAscii {sep : Text} (hsep : ∀ c ∈ sep, c.isAscii = true) {texts : List Text}
    (h : ∀ t ∈ texts, ∀ c ∈ t, c.isAscii = true) : ∀ c ∈ Text.join sep texts, c.isAscii = true := by
  induction texts with
  | nil =>
    intro c hc
    cases hc
  | cons t r ih =>
    have ht := h t List.mem_cons_self
    cases r with
    | nil => exact ht
    | cons u r =>
      have hr := ih fun x hx => h x (List.mem_cons_of_mem t hx)
      intro c hc
      rw [Text.join, List.append_assoc] at hc
      rcases List.mem_append.mp hc with hc | hc
      · exact ht c hc
      rcases List.mem_append.mp hc with hc | hc
      · exact hsep c hc
      · exact hr c hc

/-- Members in ASCII make a whole in ASCII. -/
theorem bracket_isAscii {opening closing : Char}
    (hopening : (CodePoint.ofChar opening).isAscii = true)
    (hclosing : (CodePoint.ofChar closing).isAscii = true) (level : Nat) {texts : List Text}
    (h : ∀ t ∈ texts, ∀ c ∈ t, c.isAscii = true) :
    ∀ c ∈ bracket opening closing level texts, c.isAscii = true := by
  have hsep : ∀ c ∈ CodePoint.ofChar ',' :: newLine (level + 1), c.isAscii = true := by
    intro c hc
    rcases List.mem_cons.mp hc with rfl | hc
    · rfl
    · exact newLine_isAscii _ c hc
  intro c hc
  unfold bracket at hc
  split at hc
  · simp only [List.mem_cons, List.not_mem_nil, or_false] at hc
    rcases hc with rfl | rfl
    · exact hopening
    · exact hclosing
  · simp only [List.cons_append, List.append_assoc, List.mem_cons, List.mem_append,
      List.not_mem_nil, or_false] at hc
    rcases hc with rfl | hc | hc | hc | rfl
    · exact hopening
    · exact newLine_isAscii _ c hc
    · exact join_isAscii hsep h c hc
    · exact newLine_isAscii _ c hc
    · exact hclosing

end Json

end SynthDesk
