/-
When a reading breaks off for too many levels.

A text can be refused without being read to its end: where a bracket would open
one level more than there may be, nothing after it is looked at. So the texts that
are too deep are told by what comes before that bracket. It stands inside as many
brackets as levels may be open, none of them closed, and in each of them what comes
before it is complete items with a comma after every one. That is a grammar of
beginnings, and it mentions the reader as little as the grammar of documents does.

The reader breaks off exactly for these texts, and it says which bracket it was.
For that no text needs to be read: one with as many opening brackets as levels may
be open, or fewer, is not among them.
-/
import SynthDesk.Proofs.Json.Acceptance

set_option autoImplicit false

namespace SynthDesk.Json

/-! ## Beginnings that are too deep -/

/-- The bracket that opens a level. -/
def Nesting.bracket : Nesting → CodePoint
  | .array => '['
  | .object => '\x7b'

/-- What comes after complete items: one that has begun, and goes on as told. -/
inductive Resumed {α : Type} (item : Text → α → Prop) (next : Text → Prop) : Text → Prop
  | here {b s : Text} (hb : Blanks b) (h : next s) : Resumed item next (b ++ s)
  | after {w s : Text} {a : α} (h : Spaced item w a) (hs : Resumed item next s) :
    Resumed item next (w ++ CodePoint.ofChar ',' :: s)

/-- A name and a colon, and a value that has begun. -/
inductive FieldResumed (next : Text → Prop) : Text → Prop
  | mk {n b b' s name : Text} (hn : IsString n name) (hb : Blanks b) (hb' : Blanks b')
    (h : next s) : FieldResumed next (n ++ (b ++ CodePoint.ofChar ':' :: (b' ++ s)))

/-- A bracket that is not closed, and inside it a value that has begun. -/
inductive Deepened (value : Text → Value → Prop) (next : Text → Prop) : Text → Prop
  | list {s : Text} (h : Resumed value next s) : Deepened value next (Nesting.array.bracket :: s)
  | object {s : Text} (h : Resumed (Field value) (FieldResumed next) s) :
    Deepened value next (Nesting.object.bracket :: s)

/-- **Texts that open one level more** than there may be: so many brackets that are not
closed, and then another one. -/
def Exceeds (n : Nesting) : Nat → Text → Prop
  | 0 => fun s => ∃ r, s = n.bracket :: r
  | levels + 1 => Deepened (Written levels) (Exceeds n levels)

/-- **Texts that no document reader of so many levels reads on**, and the bracket where
it stops. -/
def Overnested (limit : Nat) (n : Nesting) (t : Text) : Prop :=
  ∃ b s, t = b ++ s ∧ Blanks b ∧ Exceeds n limit s

theorem opening?_bracket (n : Nesting) : opening? n.bracket = some n := by
  cases n <;> decide

theorem opening?_eq_some_iff {c : CodePoint} {n : Nesting} :
    opening? c = some n ↔ c = n.bracket := by
  refine ⟨fun h => ?_, fun h => h ▸ opening?_bracket n⟩
  rw [eq_of_opening? h]
  cases n <;> rfl

/-- Opening brackets end no value. -/
theorem isStop_bracket (n : Nesting) : isStop n.bracket = false := by
  cases n <;> decide

/-! ## What makes the reader stop -/

/-- **A scanner stops only** where an item goes on as told. -/
def StopsOnly {α : Type} (n : Nesting) (item : Scanner α) (next : Text → Prop) : Prop :=
  ∀ {s}, item s = .error (.tooDeep n) → next s

section StopsOnly

variable {α : Type} {n : Nesting} {item : Scanner α} {R : Text → α → Prop} {next : Text → Prop}
  {close : CodePoint}

/-- Two steps fail when the first does, or the second on what the first gives. -/
theorem bind_eq_error {ε β γ : Type} {x : Except ε β} {f : β → Except ε γ} {e : ε} :
    (x >>= f) = .error e ↔ x = .error e ∨ ∃ b, x = .ok b ∧ f b = .error e := by
  cases x with
  | error e' =>
    constructor
    · intro h
      cases h
      exact Or.inl rfl
    · rintro (h | ⟨b, hb, -⟩)
      · cases h
        rfl
      · cases hb
  | ok b =>
    constructor
    · intro h
      exact Or.inr ⟨b, rfl, h⟩
    · rintro (h | ⟨b', hb, h⟩)
      · cases h
      · cases hb
        exact h

/-- Blanks before items belong to the first of them. -/
theorem Resumed.blanks {b s : Text} (hb : Blanks b) (h : Resumed R next s) :
    Resumed R next (b ++ s) := by
  cases h with
  | here hb' h =>
    rw [← List.append_assoc]
    exact .here (List.forall_mem_append.mpr ⟨hb, hb'⟩) h
  | after h hs =>
    obtain ⟨before, u, after, rfl, hbefore, hafter, hu⟩ := h
    rw [← List.append_assoc]
    refine .after ⟨b ++ before, u, after, (List.append_assoc ..).symm, ?_, hafter, hu⟩ hs
    exact List.forall_mem_append.mpr ⟨hb, hbefore⟩

theorem members_stopsOnly (hitem : Sound item R) (hstop : StopsOnly n item next) {k : Nat}
    {s : Text} (h : members item close k s = .error (.tooDeep n)) : Resumed R next s := by
  induction k generalizing s with
  | zero => cases h
  | succ k ih =>
    rw [members] at h
    rcases bind_eq_error.mp h with h | ⟨⟨a, r⟩, hread, h⟩
    · exact .here (List.forall_mem_nil _) (hstop h)
    · -- One item is complete; the reader stopped in a later one.
      obtain ⟨w, hs, hw⟩ := hitem hread
      obtain ⟨b, hb, hr⟩ := exists_blanks r
      dsimp only at h
      split at h
      · cases h
      · next c r' hskip =>
        rw [hskip] at hr
        split at h
        · cases h
        · split at h
          · next hcomma =>
            rcases bind_eq_error.mp h with h | ⟨_, -, h⟩
            · obtain ⟨b', hb', hskipped⟩ := exists_blanks r'
              have hspaced : Spaced R (w ++ b) a := ⟨[], w, b, rfl, List.forall_mem_nil _, hb, hw⟩
              have hlater : Resumed R next r' := by
                rw [hskipped]
                exact (ih h).blanks hb'
              rw [hs, hr, hcomma, ← List.append_assoc]
              exact .after hspaced hlater
            · cases h
          · cases h

theorem bracketed_stopsOnly (hitem : Sound item R) (hstop : StopsOnly n item next)
    (missing : Complaint) :
    StopsOnly n (bracketed item missing close) (Resumed R next) := by
  intro s h
  obtain ⟨b, hb, hs⟩ := exists_blanks s
  unfold bracketed at h
  split at h
  · cases h
  · next c r hskip =>
    rw [hskip] at hs
    split at h
    · cases h
    · rw [hs]
      exact (members_stopsOnly hitem hstop h).blanks hb

/-- What a string is refused for is never its levels. -/
theorem units_ne_tooDeep {start s : Text} : units start s ≠ .error (.tooDeep n) := by
  intro h
  fun_induction units start s with
  | case6 _ _ _ _ _ _ _ _ _ _ ih =>
    rcases bind_eq_error.mp h with h | ⟨_, -, h⟩
    · exact ih h
    · cases h
  | case9 _ _ _ _ _ _ _ ih =>
    rcases bind_eq_error.mp h with h | ⟨_, -, h⟩
    · exact ih h
    · cases h
  | case10 _ _ _ _ _ ih =>
    rcases bind_eq_error.mp h with h | ⟨_, -, h⟩
    · exact ih h
    · cases h
  | _ => cases h

theorem string_ne_tooDeep {s : Text} : string s ≠ .error (.tooDeep n) := by
  intro h
  unfold string at h
  split at h
  · next e hunits =>
    cases h
    exact units_ne_tooDeep hunits
  · cases h

theorem field_stopsOnly {value : Scanner Value} (hstop : StopsOnly n value next) :
    StopsOnly n (field value) (FieldResumed next) := by
  intro s h
  unfold field at h
  split at h
  · cases h
  · next q s =>
    split at h
    · next hquote =>
      rcases bind_eq_error.mp h with h | ⟨⟨name, r⟩, hname, h⟩
      · exact absurd h string_ne_tooDeep
      · obtain ⟨w, hw, hstring⟩ := string_sound hname
        obtain ⟨b, hb, hr⟩ := exists_blanks r
        dsimp only at h
        split at h
        · cases h
        · next c r' hskip =>
          rw [hskip] at hr
          split at h
          · next hcolon =>
            rcases bind_eq_error.mp h with h | ⟨_, -, h⟩
            · obtain ⟨b', hb', hr'⟩ := exists_blanks r'
              rw [hquote, hw, hr, hcolon, hr']
              exact .mk hstring hb hb' (hstop h)
            · cases h
          · cases h
    · cases h

theorem number_ne_tooDeep {s : Text} : number s ≠ .error (.tooDeep n) := by
  obtain ⟨negative, s', -, hsign⟩ := exists_sign s
  rw [hsign, afterSign]
  intro h
  dsimp only at h
  split at h
  · cases h
  · split at h
    · split at h <;> cases h
    · cases h

/-- No scalar opens a level. -/
theorem scalar_ne_tooDeep {s : Text} : scalar s ≠ .error (.tooDeep n) := by
  intro h
  unfold scalar at h
  split at h
  · cases h
  · split at h
    · rcases bind_eq_error.mp h with h | ⟨_, -, h⟩
      · exact string_ne_tooDeep h
      · cases h
    · split at h
      · cases h
      · exact number_ne_tooDeep h

/-- **Values stop the reader only where they go too deep.** -/
theorem value_stopsOnly (depth : Nat) : StopsOnly n (value depth) (Exceeds n depth) := by
  induction depth with
  | zero =>
    intro s h
    cases s with
    | nil => cases h
    | cons c r =>
      rw [value] at h
      split at h
      · next hopening =>
        cases h
        exact ⟨r, congrArg (· :: r) (opening?_eq_some_iff.mp hopening)⟩
      · exact absurd h scalar_ne_tooDeep
  | succ depth ih =>
    intro s h
    cases s with
    | nil => cases h
    | cons c r =>
      rw [value] at h
      split at h
      · next hopening =>
        rcases bind_eq_error.mp h with h | ⟨_, -, h⟩
        · rw [opening?_eq_some_iff.mp hopening]
          exact .list (bracketed_stopsOnly (value_sound depth) ih _ h)
        · cases h
      · next hopening =>
        rcases bind_eq_error.mp h with h | ⟨_, -, h⟩
        · rw [opening?_eq_some_iff.mp hopening]
          exact .object (bracketed_stopsOnly (field_sound (value_sound depth))
            (field_stopsOnly ih) _ h)
        · cases h
      · exact absurd h scalar_ne_tooDeep

end StopsOnly

/-! ## Where the reader stops -/

/-- **A scanner stops** wherever an item goes on as told. Such an item begins with
nothing that would end it. -/
structure StopsAt {α : Type} (n : Nesting) (item : Scanner α) (next : Text → Prop) : Prop where
  stops : ∀ {s}, next s → item s = .error (.tooDeep n)
  head : ∀ {s}, next s → ∃ c r, s = c :: r ∧ isStop c = false

section StopsAt

variable {α : Type} {n : Nesting} {item : Scanner α} {R : Text → α → Prop} {next : Text → Prop}
  {close : CodePoint}

theorem StopsAt.skipBlanks_append (h : StopsAt n item next) {b s : Text} (hb : Blanks b)
    (hs : next s) : skipBlanks (b ++ s) = s := by
  obtain ⟨c, r, rfl, hc⟩ := h.head hs
  rw [Json.skipBlanks_append hb, skipBlanks_cons (isBlank_of_isStop hc)]

/-- Complete items are found, and then the reader stops in the next one. The count is
long enough, since each item takes one code point at least. -/
theorem StopsAt.members (h : StopsAt n item next) (hfinds : Finds True item R)
    (hcomma : close ≠ ',') {s : Text} (hs : Resumed R next s) {k : Nat} (hk : s.length < k) :
    Json.members item close k (skipBlanks s) = .error (.tooDeep n) := by
  induction hs generalizing k with
  | @here b s hb hs =>
    obtain ⟨k, rfl⟩ : ∃ m, k = m + 1 := ⟨k - 1, by omega⟩
    rw [h.skipBlanks_append hb hs, Json.members, h.stops hs]
    rfl
  | @after w s a hw hs ih =>
    obtain ⟨k, rfl⟩ : ∃ m, k = m + 1 := ⟨k - 1, by omega⟩
    have hlater := ih (k := k) (by rw [List.length_append, List.length_cons] at hk; omega)
    have hcommaBlank : isBlank (CodePoint.ofChar ',') = false := by decide
    obtain ⟨r, hgives, hskip, -⟩ := hfinds.spaced hw (stops_cons (c := CodePoint.ofChar ',') rfl s)
    have hread : item (skipBlanks (w ++ CodePoint.ofChar ',' :: s)) = .ok (a, r) :=
      hgives.resolve_right fun hdeep => hdeep.1 trivial
    rw [Json.members, hread]
    simp only [bind, Except.bind, hskip, skipBlanks_cons hcommaBlank, if_neg hcomma.symm, if_pos,
      hlater]

theorem StopsAt.head_of_resumed (h : StopsAt n item next) (hfinds : Finds True item R) {s : Text}
    (hs : Resumed R next s) : ∃ c r, skipBlanks s = c :: r ∧ isStop c = false := by
  cases hs with
  | here hb hs =>
    rw [h.skipBlanks_append hb hs]
    exact h.head hs
  | after hw hs =>
    obtain ⟨-, -, -, hhead⟩ := hfinds.spaced hw (stops_cons (c := CodePoint.ofChar ',') rfl _)
    exact hhead

/-- **Brackets stop the reader** with one of their members. -/
theorem StopsAt.bracketed (h : StopsAt n item next) (hfinds : Finds True item R)
    (hclose : isStop close = true) (hcomma : close ≠ ',') {s : Text} (hs : Resumed R next s)
    (missing : Complaint) : Json.bracketed item missing close s = .error (.tooDeep n) := by
  obtain ⟨c, r, hskip, hc⟩ := h.head_of_resumed hfinds hs
  have hmembers := h.members hfinds hcomma hs (Nat.lt_succ_self s.length)
  have hne : c ≠ close := fun heq => ne_of_test hclose hc heq.symm
  rw [hskip] at hmembers
  simp only [Json.bracketed, hskip, if_neg hne]
  exact hmembers

theorem StopsAt.field {value : Scanner Value} (h : StopsAt n value next) :
    StopsAt n (Json.field value) (FieldResumed next) where
  stops := by
    intro s hs
    cases hs with
    | @mk w b b' s name hn hb hb' hs =>
      cases hn with
      | @quoted body us hbody =>
        have hcolonBlank : isBlank (CodePoint.ofChar ':') = false := by decide
        simp only [List.cons_append, List.append_assoc, List.nil_append, Json.field, if_pos,
          string_append hbody, bind, Except.bind, Json.skipBlanks_append hb,
          skipBlanks_cons hcolonBlank, h.skipBlanks_append hb' hs, h.stops hs]
  head := by
    intro s hs
    cases hs with
    | mk hn hb hb' hs =>
      cases hn with
      | quoted hbody => exact ⟨_, _, rfl, by decide⟩

/-- **Values that go too deep stop the reader.** -/
theorem value_stopsAt (depth : Nat) : StopsAt n (value depth) (Exceeds n depth) := by
  induction depth with
  | zero =>
    refine ⟨?_, ?_⟩
    · rintro _ ⟨r, rfl⟩
      rw [value, opening?_bracket]
    · rintro _ ⟨r, rfl⟩
      exact ⟨_, r, rfl, isStop_bracket n⟩
  | succ depth ih =>
    -- The items before are complete, of as many levels as are left, and so found for certain.
    have hfinds : Finds True (value depth) (Written depth) := by
      have hlevels := value_finds depth depth
      exact ⟨fun hw hrest => (hlevels.gives hw hrest).mono fun _ => Nat.le_refl depth,
        hlevels.head⟩
    refine ⟨?_, ?_⟩
    · intro s hs
      cases hs with
      | list hs =>
        have hclose : isStop (CodePoint.ofChar ']') = true := by decide
        rw [value, opening?_bracket]
        simp only [ih.bracketed hfinds hclose (by decide) hs, bind, Except.bind]
      | object hs =>
        have hclose : isStop (CodePoint.ofChar '\x7d') = true := by decide
        rw [value, opening?_bracket]
        simp only [ih.field.bracketed hfinds.field hclose (by decide) hs, bind, Except.bind]
    · intro s hs
      cases hs with
      | list hs => exact ⟨_, _, rfl, isStop_bracket _⟩
      | object hs => exact ⟨_, _, rfl, isStop_bracket _⟩

end StopsAt

/-- **The reader breaks off for too many levels** in the texts that open them, and in no
others. -/
theorem document_eq_tooDeep_iff {limit : Nat} {t : Text} {n : Nesting} :
    document limit t = .error (.tooDeep n) ↔ Overnested limit n t := by
  constructor
  · intro h
    rw [document] at h
    rcases bind_eq_error.mp h with h | ⟨⟨v, rest⟩, -, h⟩
    · obtain ⟨b, hb, ht⟩ := exists_blanks t
      exact ⟨b, _, ht, hb, value_stopsOnly limit h⟩
    · dsimp only at h
      split at h <;> cases h
  · rintro ⟨b, s, rfl, hb, hs⟩
    have hstops := value_stopsAt (n := n) limit
    rw [document, hstops.skipBlanks_append hb hs, hstops.stops hs]
    rfl

/-! ## Counting brackets -/

/-- The code point opens a level. -/
def opensLevel (c : CodePoint) : Bool := (opening? c).isSome

theorem opensLevel_bracket (n : Nesting) : opensLevel n.bracket = true := by
  rw [opensLevel, opening?_bracket]
  rfl

theorem Resumed.le_countP {α : Type} {R : Text → α → Prop} {next : Text → Prop} {k : Nat}
    (hnext : ∀ {s}, next s → k ≤ s.countP opensLevel) {s : Text} (h : Resumed R next s) :
    k ≤ s.countP opensLevel := by
  induction h with
  | here hb hs =>
    rw [List.countP_append]
    exact Nat.le_add_left_of_le (hnext hs)
  | after hw hs ih =>
    rw [List.countP_append, List.countP_cons]
    omega

theorem FieldResumed.le_countP {next : Text → Prop} {k : Nat}
    (hnext : ∀ {s}, next s → k ≤ s.countP opensLevel) {s : Text} (h : FieldResumed next s) :
    k ≤ s.countP opensLevel := by
  cases h with
  | mk hn hb hb' hs =>
    have hle := hnext hs
    simp only [List.countP_append, List.countP_cons]
    omega

/-- A text that is too deep has an opening bracket for each level, and one more. -/
theorem Exceeds.lt_countP {n : Nesting} {levels : Nat} {s : Text} (h : Exceeds n levels s) :
    levels < s.countP opensLevel := by
  induction levels generalizing s with
  | zero =>
    obtain ⟨r, rfl⟩ := h
    rw [List.countP_cons_of_pos (opensLevel_bracket n)]
    omega
  | succ levels ih =>
    cases h with
    | list hs =>
      have hle := hs.le_countP ih
      rw [List.countP_cons_of_pos (opensLevel_bracket _)]
      omega
    | object hs =>
      have hle := hs.le_countP fun hs => hs.le_countP ih
      rw [List.countP_cons_of_pos (opensLevel_bracket _)]
      omega

theorem Overnested.lt_countP {limit : Nat} {n : Nesting} {t : Text} (h : Overnested limit n t) :
    limit < t.countP opensLevel := by
  obtain ⟨b, s, rfl, -, hs⟩ := h
  rw [List.countP_append]
  exact Nat.lt_add_left _ hs.lt_countP

/-- Nothing but brackets of an array, one more of them than levels. -/
theorem exceeds_fill (levels : Nat) (r : Text) :
    Exceeds .array levels (Text.fill (levels + 1) '[' ++ r) := by
  induction levels with
  | zero => exact ⟨r, rfl⟩
  | succ levels ih => exact .list (.here (b := []) (List.forall_mem_nil _) ih)

theorem overnested_fill {limit k : Nat} (hk : limit < k) (r : Text) :
    Overnested limit .array (Text.fill k '[' ++ r) := by
  obtain ⟨more, rfl⟩ : ∃ more, k = limit + 1 + more := Nat.exists_eq_add_of_le hk
  have hsplit : Text.fill (limit + 1 + more) '[' ++ r =
      Text.fill (limit + 1) '[' ++ (Text.fill more '[' ++ r) := by
    simp only [Text.fill, List.replicate_add, List.append_assoc]
  rw [hsplit]
  exact ⟨[], _, rfl, List.forall_mem_nil _, exceeds_fill limit _⟩

end SynthDesk.Json
