/-
Scanning what has no parts.

The scanners of numbers, strings and words find what the grammar allows, and all
of it. One half needs nothing: whatever was scanned is written as the grammar
says. The other half depends on what comes next, since a scanner takes as much as
it can; a number has to be followed by something that could not continue it. A
blank, a comma, a closing bracket or the end of the text will do, and after a value
there is nothing else.
-/
import SynthDesk.Proofs.Json.Documents
import SynthDesk.Proofs.Json.Grammar
import Mathlib.Data.List.TakeWhile

set_option autoImplicit false

namespace SynthDesk.Json

/-! ## Blanks and stops -/

/-- Skipping blanks takes blanks away. -/
theorem exists_blanks (s : Text) : ∃ b, Blanks b ∧ s = b ++ skipBlanks s :=
  ⟨s.takeWhile isBlank, fun _ hc => List.mem_takeWhile_imp hc,
    List.takeWhile_append_dropWhile.symm⟩

theorem skipBlanks_append {b : Text} (hb : Blanks b) (s : Text) :
    skipBlanks (b ++ s) = skipBlanks s := List.dropWhile_append_of_pos hb

/-- What ends a value that stands before it. -/
def isStop (c : CodePoint) : Bool := isBlank c || c = ',' || c = ']' || c = '\x7d'

/-- The text goes on with what ends a value, if it goes on at all. -/
def Stops (s : Text) : Prop := ∀ c ∈ s.head?, isStop c = true

theorem stops_nil : Stops [] := fun _ hc => nomatch hc

theorem stops_cons {c : CodePoint} (hc : isStop c = true) (s : Text) : Stops (c :: s) := by
  intro d hd
  obtain rfl : c = d := Option.some.inj hd
  exact hc

/-- Blanks end a value before them. -/
theorem Blanks.stops_append {b s : Text} (hb : Blanks b) (hs : Stops s) : Stops (b ++ s) := by
  cases b with
  | nil => exact hs
  | cons c r =>
    refine stops_cons ?_ _
    rw [isStop, hb c List.mem_cons_self]
    rfl

/-- Code points that differ in a test are different. -/
theorem ne_of_test {test : CodePoint → Bool} {c d : CodePoint} (hc : test c = true)
    (hd : test d = false) : c ≠ d := by
  rintro rfl
  rw [hc] at hd
  cases hd

/-! ## Numbers -/

/-- The text does not go on with a digit. -/
def NoDigit (s : Text) : Prop := ∀ c ∈ s.head?, c.isDigit = false

theorem isDigit_of_isStop {c : CodePoint} (h : isStop c = true) : c.isDigit = false := by
  simp only [isStop, isBlank, Bool.or_eq_true, decide_eq_true_eq] at h
  rcases h with (((((rfl | rfl) | rfl) | rfl) | rfl) | rfl) | rfl <;> rfl

theorem digits_append {ds r : Text} (hds : Digits ds) (hr : NoDigit r) :
    digits (ds ++ r) = (ds, r) := by
  have hnone : r.takeWhile CodePoint.isDigit = [] ∧ r.dropWhile CodePoint.isDigit = r := by
    cases r with
    | nil => exact ⟨rfl, rfl⟩
    | cons c r =>
      have hc : c.isDigit = false := hr c rfl
      rw [List.takeWhile_cons, List.dropWhile_cons, hc]
      exact ⟨rfl, rfl⟩
  rw [digits, List.takeWhile_append_of_pos hds, List.dropWhile_append_of_pos hds, hnone.1, hnone.2,
    List.append_nil]

theorem digits_sound {s ds r : Text} (h : digits s = (ds, r)) : s = ds ++ r ∧ Digits ds := by
  cases h
  exact ⟨List.takeWhile_append_dropWhile.symm, fun _ hc => List.mem_takeWhile_imp hc⟩

theorem whole_append {ds r : Text} (hds : Whole ds) (hr : NoDigit r) :
    whole (ds ++ r) = (ds, r) := by
  cases hds with
  | zero =>
    rw [List.singleton_append, whole]
    exact if_pos rfl
  | @digits c ds hc hzero hds =>
    have hall : Digits (c :: ds) := List.forall_mem_cons.mpr ⟨hc, hds⟩
    rw [List.cons_append, whole, if_neg hzero]
    exact digits_append hall hr

theorem whole_sound {s ds r : Text} (h : whole s = (ds, r)) (hne : ds ≠ []) :
    s = ds ++ r ∧ Whole ds := by
  cases s with
  | nil =>
    cases h
    exact absurd rfl hne
  | cons c s =>
    rw [whole] at h
    split at h
    · next hzero =>
      cases h
      rw [hzero]
      exact ⟨rfl, .zero⟩
    · next hzero =>
      obtain ⟨hs, hds⟩ := digits_sound h
      cases ds with
      | nil => exact absurd rfl hne
      | cons d ds =>
        obtain rfl : c = d := (List.cons.inj hs).1
        obtain ⟨hd, hds⟩ := List.forall_mem_cons.mp hds
        exact ⟨hs, .digits hd hzero hds⟩

theorem fraction_append {f decimals r : Text} (hf : Fraction f decimals)
    (hr : ∀ c ∈ r.head?, c.isDigit = false ∧ c ≠ '.') : fraction (f ++ r) = (decimals, r) := by
  cases hf with
  | absent =>
    cases r with
    | nil => rfl
    | cons c r =>
      have hdot : decide (c = '.') = false := decide_eq_false (hr c rfl).2
      rw [List.nil_append, fraction, hdot]
      rfl
  | decimals hne hds =>
    have hread := digits_append hds fun c hc => (hr c hc).1
    have hsome : decimals.isEmpty = false := List.isEmpty_eq_false_iff.mpr hne
    simp only [List.cons_append, fraction, hread, hsome]
    rfl

theorem fraction_sound {s decimals r : Text} (h : fraction s = (decimals, r)) :
    ∃ f, s = f ++ r ∧ Fraction f decimals := by
  cases s with
  | nil =>
    cases h
    exact ⟨[], rfl, .absent⟩
  | cons c s =>
    rw [fraction] at h
    split at h
    · next hpoint =>
      rw [Bool.and_eq_true, decide_eq_true_eq] at hpoint
      obtain ⟨rfl, hsome⟩ := hpoint
      rw [h] at hsome
      obtain ⟨hs, hds⟩ := digits_sound h
      refine ⟨CodePoint.ofChar '.' :: decimals, congrArg _ hs, .decimals ?_ hds⟩
      rintro rfl
      cases hsome
    · cases h
      exact ⟨[], rfl, .absent⟩

/-- What may stand after the letter of an exponent before its digits, read. -/
def powerSign (r : Text) : Bool × Text :=
  match r with
  | [] => (false, r)
  | x :: r' => if x = '-' then (true, r') else if x = '+' then (false, r') else (false, r)

theorem exponent_cons {e : CodePoint} (he : e = 'e' ∨ e = 'E') (r : Text) :
    exponent (e :: r) =
      if (digits (powerSign r).2).1.isEmpty then (none, e :: r)
      else (some (signed (powerSign r).1 (Text.natOfDigits (digits (powerSign r).2).1)),
        (digits (powerSign r).2).2) := by
  have hletter : (decide (e = 'e') || decide (e = 'E')) = true := by
    rw [Bool.or_eq_true, decide_eq_true_eq, decide_eq_true_eq]
    exact he
  simp only [exponent, if_pos hletter]
  rfl

theorem powerSign_append {s ds r : Text} {negative : Bool} (hs : PowerSign s negative)
    (hne : ds ≠ []) (hds : Digits ds) : powerSign (s ++ (ds ++ r)) = (negative, ds ++ r) := by
  cases hs with
  | absent =>
    cases ds with
    | nil => exact absurd rfl hne
    | cons d ds =>
      have hd : d.isDigit = true := hds d List.mem_cons_self
      rw [List.nil_append, List.cons_append, powerSign, if_neg (ne_of_test hd rfl),
        if_neg (ne_of_test hd rfl)]
  | plus => rfl
  | minus => rfl

theorem powerSign_sound (r : Text) :
    ∃ s, r = s ++ (powerSign r).2 ∧ PowerSign s (powerSign r).1 := by
  cases r with
  | nil => exact ⟨[], rfl, .absent⟩
  | cons x r =>
    rw [powerSign]
    split
    · next hx =>
      rw [hx]
      exact ⟨_, rfl, .minus⟩
    · split
      · next hx =>
        rw [hx]
        exact ⟨_, rfl, .plus⟩
      · exact ⟨[], rfl, .absent⟩

theorem exponent_append {e r : Text} {power : Option Int} (he : Exponent e power)
    (hr : ∀ c ∈ r.head?, c.isDigit = false ∧ c ≠ 'e' ∧ c ≠ 'E') :
    exponent (e ++ r) = (power, r) := by
  cases he with
  | absent =>
    cases r with
    | nil => rfl
    | cons c r =>
      obtain ⟨-, hsmall, hlarge⟩ := hr c rfl
      have hletter : (decide (c = 'e') || decide (c = 'E')) = false := by
        rw [decide_eq_false hsmall, decide_eq_false hlarge]
        rfl
      simp only [List.nil_append, exponent, hletter]
      rfl
  | @power letter s ds negative hletter hs hne hds =>
    have hread := digits_append hds fun c hc => (hr c hc).1
    have hsome : ds.isEmpty = false := List.isEmpty_eq_false_iff.mpr hne
    rw [List.cons_append, List.append_assoc, exponent_cons hletter, powerSign_append hs hne hds,
      hread, hsome]
    rfl

theorem exponent_sound {s r : Text} {power : Option Int} (h : exponent s = (power, r)) :
    ∃ e, s = e ++ r ∧ Exponent e power := by
  cases s with
  | nil =>
    cases h
    exact ⟨[], rfl, .absent⟩
  | cons c s =>
    by_cases hletter : c = 'e' ∨ c = 'E'
    · rw [exponent_cons hletter] at h
      obtain ⟨w, hs, hsign⟩ := powerSign_sound s
      split at h
      · cases h
        exact ⟨[], rfl, .absent⟩
      · next hsome =>
        cases h
        obtain ⟨hrest, hds⟩ : (powerSign s).2 = (digits (powerSign s).2).1 ++
            (digits (powerSign s).2).2 ∧ Digits (digits (powerSign s).2).1 := digits_sound rfl
        refine ⟨c :: (w ++ (digits (powerSign s).2).1), ?_, .power hletter hsign ?_ hds⟩
        · rw [List.cons_append, List.append_assoc, ← hrest, ← hs]
        · exact List.isEmpty_eq_false_iff.mp (Bool.not_eq_true _ ▸ hsome)
    · have hother : (decide (c = 'e') || decide (c = 'E')) = false := by
        rw [decide_eq_false fun hc => hletter (Or.inl hc),
          decide_eq_false fun hc => hletter (Or.inr hc)]
        rfl
      simp only [exponent, hother] at h
      cases h
      exact ⟨[], rfl, .absent⟩

/-- A number after its sign, which is refused as a whole. -/
def afterSign (negative : Bool) (s : Text) : Except ReadError (Value × Text) :=
  let (ds, r) := whole s
  if ds.isEmpty then .error (.malformed .noValue (sign negative ++ s)) else
  let (decimals, r) := fraction r
  let (power, r) := exponent r
  if decimals.isEmpty && power.isNone then
    if Value.digitLimit < ds.length then .error (.tooManyDigits ds.length)
    else .ok (.int (signed negative (Text.natOfDigits ds)), r)
  else
    .ok (.float (Binary64.ofDecimal negative (Text.natOfDigits (ds ++ decimals))
      (power.getD 0 - decimals.length)), r)

theorem number_sign (negative : Bool) {s : Text} (hs : ∀ c ∈ s.head?, c ≠ '-') :
    number (sign negative ++ s) = afterSign negative s := by
  cases negative with
  | true => rfl
  | false =>
    cases s with
    | nil => rfl
    | cons c r =>
      have hminus : c ≠ '-' := hs c rfl
      simp only [sign, Bool.false_eq_true, if_false, List.nil_append, number, if_neg hminus]
      rfl

/-- Every number is scanned after its sign. -/
theorem exists_sign (s : Text) : ∃ negative s', s = sign negative ++ s' ∧
    number s = afterSign negative s' := by
  cases s with
  | nil => exact ⟨false, [], rfl, rfl⟩
  | cons c r =>
    by_cases hc : c = '-'
    · rw [hc]
      exact ⟨true, r, rfl, rfl⟩
    · refine ⟨false, c :: r, rfl, number_sign false ?_⟩
      intro d hd
      obtain rfl : c = d := Option.some.inj hd
      exact hc

theorem Whole.exists_head {ds : Text} (h : Whole ds) :
    ∃ c r, ds = c :: r ∧ c.isDigit = true := by
  cases h with
  | zero => exact ⟨_, _, rfl, rfl⟩
  | digits hc hzero hds => exact ⟨_, _, rfl, hc⟩

/-- Whether there is neither a fraction nor an exponent can be seen in what they write. -/
theorem isEmpty_and_isNone_iff {f decimals e : Text} {power : Option Int}
    (hf : Fraction f decimals) (he : Exponent e power) :
    (decimals.isEmpty && power.isNone) = true ↔ f ++ e = [] := by
  cases hf with
  | absent =>
    cases he with
    | absent => exact iff_of_true rfl rfl
    | power hletter hs hne hds => exact iff_of_false Bool.false_ne_true (List.cons_ne_nil _ _)
  | decimals hne hds =>
    have hsome : decimals.isEmpty = false := List.isEmpty_eq_false_iff.mpr hne
    rw [hsome]
    exact iff_of_false Bool.false_ne_true (List.cons_ne_nil _ _)

/-- After the whole part there is no digit. -/
theorem Exponent.head {e r : Text} {power : Option Int} (he : Exponent e power) (hr : Stops r) :
    ∀ c ∈ (e ++ r).head?, c.isDigit = false ∧ c ≠ '.' := by
  intro c hc
  cases he with
  | absent => exact ⟨isDigit_of_isStop (hr c hc), ne_of_test (hr c hc) rfl⟩
  | @power letter s ds negative hletter hs hne hds =>
    obtain rfl : letter = c := Option.some.inj hc
    rcases hletter with rfl | rfl
    · exact ⟨rfl, by decide⟩
    · exact ⟨rfl, by decide⟩

theorem Fraction.head {f decimals r : Text} (hf : Fraction f decimals) (hr : NoDigit r) :
    NoDigit (f ++ r) := by
  cases hf with
  | absent => exact hr
  | decimals hne hds =>
    intro c hc
    obtain rfl : CodePoint.ofChar '.' = c := Option.some.inj hc
    rfl

/-- The parts of a number are found one after another. -/
theorem afterSign_append (negative : Bool) {ds f decimals e r : Text} {power : Option Int}
    (hds : Whole ds) (hf : Fraction f decimals) (he : Exponent e power) (hr : Stops r) :
    afterSign negative (ds ++ (f ++ (e ++ r))) =
      if decimals.isEmpty && power.isNone then
        if Value.digitLimit < ds.length then .error (.tooManyDigits ds.length)
        else .ok (.int (signed negative (Text.natOfDigits ds)), r)
      else
        .ok (.float (Binary64.ofDecimal negative (Text.natOfDigits (ds ++ decimals))
          (power.getD 0 - decimals.length)), r) := by
  have hnodot := he.head hr
  have hwhole := whole_append hds (hf.head fun c hc => (hnodot c hc).1)
  have hfraction := fraction_append hf hnodot
  have hexponent : exponent (e ++ r) = (power, r) := exponent_append he fun c hc =>
    ⟨isDigit_of_isStop (hr c hc), ne_of_test (hr c hc) rfl, ne_of_test (hr c hc) rfl⟩
  have hsome : ds.isEmpty = false := by
    obtain ⟨d, ds, rfl, -⟩ := hds.exists_head
    rfl
  simp only [afterSign, hwhole, hsome, hfraction, hexponent, Bool.false_eq_true, if_false]

theorem number_append {w r : Text} {v : Value} (h : Number w v) (hr : Stops r) :
    number (w ++ r) = .ok (v, r) := by
  have hdigit : ∀ {ds : Text}, Whole ds → ∀ s, ∀ c ∈ (ds ++ s).head?, c ≠ '-' := by
    intro ds hds s c hc
    obtain ⟨d, ds, rfl, hd⟩ := hds.exists_head
    obtain rfl : d = c := Option.some.inj hc
    exact ne_of_test hd rfl
  cases h with
  | @whole negative ds hds hlimit =>
    have hread := afterSign_append negative hds .absent .absent hr
    rw [List.append_assoc, number_sign negative (hdigit hds r)]
    exact hread.trans (if_neg (Nat.not_lt.mpr hlimit))
  | @double negative ds f decimals e power hds hf he hne =>
    have hread := afterSign_append negative hds hf he hr
    have hpart := mt (isEmpty_and_isNone_iff hf he).mp hne
    rw [List.append_assoc, List.append_assoc, List.append_assoc,
      number_sign negative (hdigit hds _), hread, if_neg hpart]

theorem number_sound {s r : Text} {v : Value} (h : number s = .ok (v, r)) :
    ∃ w, s = w ++ r ∧ Number w v := by
  obtain ⟨negative, s, rfl, hsign⟩ := exists_sign s
  rw [hsign, afterSign] at h
  -- The parts are cut off one by one before anything is decided.
  obtain ⟨ds, s₁, hwhole⟩ : ∃ ds s₁, whole s = (ds, s₁) := ⟨_, _, rfl⟩
  obtain ⟨decimals, s₂, hfraction⟩ : ∃ decimals s₂, fraction s₁ = (decimals, s₂) := ⟨_, _, rfl⟩
  obtain ⟨power, s₃, hexponent⟩ : ∃ power s₃, exponent s₂ = (power, s₃) := ⟨_, _, rfl⟩
  simp only [hwhole, hfraction, hexponent] at h
  split at h
  · cases h
  next hsome =>
  obtain ⟨rfl, hds⟩ := whole_sound hwhole fun hnil => hsome (List.isEmpty_iff.mpr hnil)
  obtain ⟨f, rfl, hf⟩ := fraction_sound hfraction
  obtain ⟨e, rfl, he⟩ := exponent_sound hexponent
  have hparts := isEmpty_and_isNone_iff hf he
  split at h
  · next hint =>
    split at h
    · cases h
    · next hlimit =>
      cases h
      obtain ⟨rfl, rfl⟩ : f = [] ∧ e = [] := List.append_eq_nil_iff.mp (hparts.mp hint)
      exact ⟨sign negative ++ ds, (List.append_assoc ..).symm, .whole negative hds
        (Nat.le_of_not_lt hlimit)⟩
  · next hdouble =>
    cases h
    have hne : f ++ e ≠ [] := mt hparts.mpr hdouble
    refine ⟨sign negative ++ (ds ++ (f ++ e)), ?_, .double negative hds hf he hne⟩
    simp only [List.append_assoc]

/-! ## Strings -/

theorem units_append {start body us : Text} (h : StringBody body us) (r : Text) :
    units start (body ++ CodePoint.ofChar '"' :: r) = .ok (us, r) := by
  induction h with
  | nil => exact units_quote r
  | plain hlow hquote hblack _ ih =>
    rw [List.cons_append, units_plain hquote hblack hlow, ih]
    rfl
  | @letter e u w us he _ ih =>
    have hu : e ≠ 'u' := by
      rintro rfl
      cases he
    rw [List.cons_append, List.cons_append, units_letter hu he, ih]
    rfl
  | unit hu _ ih =>
    simp only [List.cons_append]
    rw [units_unit hu (List.append_ne_nil_of_right_ne_nil _ (List.cons_ne_nil _ _)), ih]
    rfl

theorem units_sound {start s us r : Text} (h : units start s = .ok (us, r)) :
    ∃ body, s = body ++ CodePoint.ofChar '"' :: r ∧ StringBody body us := by
  fun_induction units start s generalizing us r with
  | case1 => cases h
  | case2 r' =>
    cases h
    exact ⟨[], rfl, .nil⟩
  | case3 => cases h
  | case4 => cases h
  | case5 => cases h
  | case6 w x y z next r' u hu _ _ ih =>
    obtain ⟨⟨us', rest⟩, hread, h⟩ := bind_eq_ok.mp h
    cases h
    obtain ⟨body, hrest, hbody⟩ := ih hread
    refine ⟨_, ?_, .unit hu hbody⟩
    simp only [List.cons_append, hrest]
  | case7 => cases h
  | case8 => cases h
  | case9 e r' _ u he _ _ ih =>
    obtain ⟨⟨us', rest⟩, hread, h⟩ := bind_eq_ok.mp h
    cases h
    obtain ⟨body, rfl, hbody⟩ := ih hread
    exact ⟨_, rfl, .letter he hbody⟩
  | case10 c r' hquote hlow hblack ih =>
    obtain ⟨⟨us', rest⟩, hread, h⟩ := bind_eq_ok.mp h
    cases h
    obtain ⟨body, rfl, hbody⟩ := ih hread
    exact ⟨_, rfl, .plain (Nat.le_of_not_lt hlow) hquote hblack hbody⟩

/-- A string is scanned after its opening quote, up to the closing one. -/
theorem string_append {body us : Text} (h : StringBody body us) (r : Text) :
    string (body ++ CodePoint.ofChar '"' :: r) = .ok (joinHalves us, r) := by
  rw [string, units_append h]

theorem string_sound {s t r : Text} (h : string s = .ok (t, r)) :
    ∃ w, CodePoint.ofChar '"' :: s = w ++ r ∧ IsString w t := by
  rw [string] at h
  split at h
  · cases h
  · next us rest hread =>
    cases h
    obtain ⟨body, rfl, hbody⟩ := units_sound hread
    refine ⟨_, ?_, .quoted hbody⟩
    simp only [List.cons_append, List.append_assoc, List.nil_append]

/-! ## Words -/

theorem word?_sound {s r : Text} {v : Value} (h : word? s = some (v, r)) :
    ∃ w, s = w ++ r ∧ (w, v) ∈ words := by
  obtain ⟨⟨w, v'⟩, hmem, hfound⟩ := List.exists_of_findSome?_eq_some h
  obtain ⟨r', hafter, heq⟩ := Option.map_eq_some_iff.mp hfound
  cases heq
  exact ⟨w, Text.after?_eq_some_iff.mp hafter, hmem⟩

/-- No word begins another. -/
theorem word?_append {w : Text} {v : Value} (h : (w, v) ∈ words) (r : Text) :
    word? (w ++ r) = some (v, r) := by
  simp only [words, List.mem_cons, Prod.mk.injEq, List.not_mem_nil, or_false] at h
  rcases h with ⟨rfl, rfl⟩ | ⟨rfl, rfl⟩ | ⟨rfl, rfl⟩ | ⟨rfl, rfl⟩ | ⟨rfl, rfl⟩ | ⟨rfl, rfl⟩
  all_goals rfl

/-- A word begins with a letter, or with a minus that a letter follows. -/
theorem head_of_mem_words {w : Text} {v : Value} (h : (w, v) ∈ words) :
    ∃ c d r, w = c :: d :: r ∧ isStop c = false ∧ opening? c = none ∧ c ≠ '"' ∧
      c.isDigit = false ∧ d.isDigit = false := by
  simp only [words, List.mem_cons, Prod.mk.injEq, List.not_mem_nil, or_false] at h
  rcases h with ⟨rfl, -⟩ | ⟨rfl, -⟩ | ⟨rfl, -⟩ | ⟨rfl, -⟩ | ⟨rfl, -⟩ | ⟨rfl, -⟩
  all_goals exact ⟨_, _, _, rfl, by decide, by decide, by decide, by decide, by decide⟩

/-- A number begins with a digit, or with a minus that a digit follows. -/
theorem Number.exists_head {w : Text} {v : Value} (h : Number w v) :
    ∃ negative c r, w = sign negative ++ c :: r ∧ c.isDigit = true := by
  cases h with
  | whole negative hds hlimit =>
    obtain ⟨c, r, rfl, hc⟩ := hds.exists_head
    exact ⟨negative, c, r, rfl, hc⟩
  | double negative hds hf he hne =>
    obtain ⟨c, r, rfl, hc⟩ := hds.exists_head
    exact ⟨negative, c, _, rfl, hc⟩

/-- No word begins a number. -/
theorem word?_number {w : Text} {v : Value} (h : Number w v) (r : Text) :
    word? (w ++ r) = none := by
  obtain ⟨negative, d, w', rfl, hd⟩ := h.exists_head
  rw [Option.eq_none_iff_forall_ne_some]
  rintro ⟨v', r'⟩ hword
  obtain ⟨u, heq, hmem⟩ := word?_sound hword
  obtain ⟨c, c', u', rfl, -, -, -, hc, hc'⟩ := head_of_mem_words hmem
  cases negative with
  | false =>
    obtain rfl : d = c := (List.cons.inj heq).1
    exact ne_of_test hd hc rfl
  | true =>
    obtain rfl : d = c' := (List.cons.inj (List.cons.inj heq).2).1
    exact ne_of_test hd hc' rfl

/-! ## Scalars -/

theorem opening?_of_isDigit {c : CodePoint} (hc : c.isDigit = true) : opening? c = none := by
  have harray : c ≠ '[' := ne_of_test hc rfl
  have hobject : c ≠ '\x7b' := ne_of_test hc rfl
  rw [opening?, if_neg harray, if_neg hobject]

/-- A scalar begins with what ends no value and opens no level. -/
theorem Scalar.exists_head {w : Text} {v : Value} (h : Scalar w v) :
    ∃ c r, w = c :: r ∧ isStop c = false ∧ opening? c = none := by
  cases h with
  | text h =>
    cases h with
    | quoted h => exact ⟨_, _, rfl, by decide, by decide⟩
  | word h =>
    obtain ⟨c, d, r, rfl, hstop, hopening, -⟩ := head_of_mem_words h
    exact ⟨c, _, rfl, hstop, hopening⟩
  | number h =>
    obtain ⟨negative, c, r, rfl, hc⟩ := h.exists_head
    cases negative with
    | true => exact ⟨_, _, rfl, by decide, by decide⟩
    | false =>
      refine ⟨c, r, rfl, ?_, opening?_of_isDigit hc⟩
      cases hstop : isStop c with
      | false => rfl
      | true => exact absurd rfl (ne_of_test hc (isDigit_of_isStop hstop))

/-- **Scalars are found.** -/
theorem scalar_append {w r : Text} {v : Value} (h : Scalar w v) (hr : Stops r) :
    scalar (w ++ r) = .ok (v, r) := by
  cases h with
  | text h =>
    cases h with
    | quoted h =>
      rw [List.cons_append, scalar, if_pos rfl, List.append_assoc, List.singleton_append,
        string_append h]
      rfl
  | word h =>
    have hread := word?_append h r
    obtain ⟨c, d, w, rfl, -, -, hquote, -⟩ := head_of_mem_words h
    rw [List.cons_append] at hread ⊢
    rw [scalar, if_neg hquote, hread]
  | number h =>
    have hword := word?_number h r
    have hread := number_append h hr
    have hhead : ∃ c s, w ++ r = c :: s ∧ c ≠ '"' := by
      obtain ⟨negative, c, w, rfl, hc⟩ := h.exists_head
      cases negative with
      | true => exact ⟨_, _, rfl, by decide⟩
      | false => exact ⟨c, _, rfl, ne_of_test hc rfl⟩
    obtain ⟨c, s, heq, hquote⟩ := hhead
    rw [heq] at hword hread ⊢
    rw [scalar, if_neg hquote, hword]
    exact hread

/-- **What was scanned is a scalar.** -/
theorem scalar_sound {s r : Text} {v : Value} (h : scalar s = .ok (v, r)) :
    ∃ w, s = w ++ r ∧ Scalar w v := by
  unfold scalar at h
  split at h
  · cases h
  · next c s =>
    split at h
    · next hquote =>
      obtain ⟨⟨t, rest⟩, hread, h⟩ := bind_eq_ok.mp h
      cases h
      obtain ⟨w, hw, hstring⟩ := string_sound hread
      rw [hquote]
      exact ⟨w, hw, .text hstring⟩
    · split at h
      · next found hword =>
        cases h
        obtain ⟨w, hw, hmem⟩ := word?_sound hword
        exact ⟨w, hw, .word hmem⟩
      · obtain ⟨w, hw, hnumber⟩ := number_sound h
        exact ⟨w, hw, .number hnumber⟩

end SynthDesk.Json
