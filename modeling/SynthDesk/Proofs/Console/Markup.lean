/-
Markup that is sure to be read, and what is read of the rest.

Text is literal where no bracket in it opens a tag, or comes after a backslash: it is read
as it stands, whatever else it holds. So a text in which every tag is put there by the
program, and closed by it, is read without a refusal, with all that is between the tags. Of
text that is not literal something is lost: a tag does not get into what is read, and
neither does the backslash that keeps a bracket from opening one. So being literal is
exactly what it takes for a text to be read as it stands.
-/
import SynthDesk.Console.Markup

set_option autoImplicit false

namespace SynthDesk

open Console

/-! ## Reading on -/

namespace Markup

/-- The opening bracket. -/
abbrev bracket : CodePoint := CodePoint.ofChar '['

/-- The backslash. -/
abbrev backslash : CodePoint := CodePoint.ofChar '\\'

theorem State.more_more (s : State) (a b : Text) : (s.more a).more b = s.more (a ++ b) := by
  rw [more, more, more, visible, visible, visible, List.filter_append, List.append_assoc]

theorem State.more_nil (s : State) : s.more [] = s := by
  rw [more, visible, List.filter_nil, List.append_nil]

/-! ### Literal text -/

/-- **Text that is read as it stands** before what follows it: no bracket in it opens a
tag, and none comes after a backslash. -/
def LiteralBefore (r t : Text) : Prop :=
  ∀ before after, t = before ++ bracket :: after →
    before.getLast? ≠ some backslash ∧ body? (after ++ r) = none

theorem literalBefore_of_not_mem {t : Text} (ht : bracket ∉ t) (r : Text) : LiteralBefore r t := by
  rintro before after rfl
  exact absurd (List.mem_append_right before List.mem_cons_self) ht

/-- Literal text, code point by code point. -/
theorem literalBefore_cons_iff {r t : Text} {c : CodePoint} :
    LiteralBefore r (c :: t) ↔ (c = bracket → body? (t ++ r) = none) ∧
      (c = backslash → t.head? ≠ some bracket) ∧ LiteralBefore r t := by
  constructor
  · intro h
    refine ⟨fun hc => ?_, fun hc hhead => ?_, fun before after ht => ?_⟩
    · exact (h [] t (by rw [hc]; rfl)).2
    · obtain ⟨after, rfl⟩ : ∃ after, t = bracket :: after := by
        cases t with
        | nil => cases hhead
        | cons d after => exact ⟨after, by rw [Option.some.inj hhead]⟩
      exact (h [c] after rfl).1 (congrArg some hc)
    · obtain ⟨hlast, hbody⟩ := h (c :: before) after (by rw [ht]; rfl)
      refine ⟨fun hback => hlast ?_, hbody⟩
      cases before with
      | nil => cases hback
      | cons d before => rwa [List.getLast?_cons_cons]
  · rintro ⟨hopen, hback, ht⟩ before after heq
    cases before with
    | nil =>
      obtain ⟨rfl, rfl⟩ := List.cons.inj heq
      exact ⟨fun h => (by cases h), hopen rfl⟩
    | cons d before =>
      obtain ⟨rfl, rfl⟩ := List.cons.inj heq
      obtain ⟨hlast, hbody⟩ := ht before after rfl
      refine ⟨?_, hbody⟩
      cases before with
      | nil => exact fun hc => hback (Option.some.inj hc) rfl
      | cons e before => rwa [List.getLast?_cons_cons]

instance decidableLiteralBefore (r : Text) : (t : Text) → Decidable (LiteralBefore r t)
  | [] => .isTrue (literalBefore_of_not_mem List.not_mem_nil r)
  | _ :: t =>
    have := decidableLiteralBefore r t
    decidable_of_iff _ literalBefore_cons_iff.symm

/-- **Literal text is read as it stands**, up to something that is neither a bracket nor a
backslash, and from there the reading goes on afresh. Backslashes wait for what follows
them, so any number of them may be pending. -/
theorem pieces_scan_literal_after {t r : Text} (ht : LiteralBefore r t)
    (hr : ∀ c ∈ r.head?, c ≠ bracket ∧ c ≠ backslash) {pending : Nat}
    (hpending : 0 < pending → t.head? ≠ some bracket) (s : State) (position : Nat) :
    s.pieces (scan position pending 0 (t ++ r)) =
      (s.more (backslashes pending ++ t)).pieces (scan (position + t.length) 0 0 r) := by
  induction t generalizing s position pending with
  | nil =>
    rw [List.append_nil]
    cases r with
    | nil => exact congrArg Except.ok (State.more_nil _).symm
    | cons c r =>
      obtain ⟨hopen, hback⟩ := hr c rfl
      rw [List.nil_append, scan, scan, if_neg hback, if_neg hopen, if_neg hback, if_neg hopen,
        State.pieces, State.pieces, State.more_more]
      rfl
  | cons d q ih =>
    obtain ⟨hopen, hback, hq⟩ := literalBefore_cons_iff.mp ht
    have hposition : position + 1 + q.length = position + (d :: q).length := by
      rw [List.length_cons]
      omega
    rw [List.cons_append, scan, ← hposition]
    by_cases hd : d = backslash
    · rw [if_pos hd, ih hq (fun _ => hback hd)]
      have hone : backslashes (pending + 1) = backslashes pending ++ [d] := by
        rw [hd]
        exact List.replicate_succ'
      rw [hone, List.append_assoc, List.singleton_append]
    · rw [if_neg hd]
      by_cases hd' : d = bracket
      · -- A bracket that opens no tag: no backslash is pending, so none is dropped.
        have hnone : pending = 0 :=
          Nat.eq_zero_of_not_pos fun hpos => hpending hpos (congrArg some hd')
        rw [if_pos hd', hopen hd']
        dsimp only
        rw [State.pieces, ih hq (fun h => absurd h (Nat.lt_irrefl 0)), State.more_more, hnone]
        rfl
      · rw [if_neg hd', State.pieces, ih hq (fun h => absurd h (Nat.lt_irrefl 0)), State.more_more,
          List.append_assoc]
        rfl

/-- Literal text where no backslash is pending. -/
theorem pieces_scan_literal {t r : Text} (ht : LiteralBefore r t)
    (hr : ∀ c ∈ r.head?, c ≠ bracket ∧ c ≠ backslash) (s : State) (position : Nat) :
    s.pieces (scan position 0 0 (t ++ r)) =
      (s.more t).pieces (scan (position + t.length) 0 0 r) :=
  pieces_scan_literal_after ht hr (fun h => absurd h (Nat.lt_irrefl 0)) s position

/-- Literal text is read by itself. -/
theorem read_literal {t : Text} (ht : LiteralBefore [] t) : read t = .ok ⟨visible t, []⟩ := by
  have hpieces := pieces_scan_literal ht (fun c hc => by cases hc) ⟨[], [], []⟩ 0
  rw [List.append_nil] at hpieces
  have hempty : backslashes 0 = [] := rfl
  have hfinish : ((⟨[], [], []⟩ : State).more t).finish = ⟨visible t, []⟩ := by
    simp [State.finish, State.more]
  rw [read, pieces, hpieces, scan, State.pieces, State.pieces, hempty, State.more_nil]
  exact congrArg Except.ok hfinish

/-- So is text without an opening bracket. -/
theorem exists_read {t : Text} (ht : bracket ∉ t) : ∃ s, read t = .ok s :=
  ⟨_, read_literal (literalBefore_of_not_mem ht [])⟩

/-! ### Tags -/

/-- What belongs to a tag is not looked at a second time. -/
theorem scan_skip (t r : Text) (position : Nat) :
    scan position 0 t.length (t ++ r) = scan (position + t.length) 0 0 r := by
  induction t generalizing position with
  | nil => rfl
  | cons c q ih =>
    rw [List.cons_append, List.length_cons, scan, ih]
    congr 1
    omega

/-- **A tag is read as a tag.** -/
theorem pieces_scan_tag (position : Nat) {b r : Text}
    (hbody : body? (b ++ CodePoint.ofChar ']' :: r) = some b) {s s' : State}
    (htag : s.tag position b = .ok s') :
    s.pieces (scan position 0 0 (bracket :: (b ++ CodePoint.ofChar ']' :: r))) =
      s'.pieces (scan (position + 1 + (b.length + 1)) 0 0 r) := by
  have hback : bracket ≠ backslash := by decide
  have hskip := scan_skip (b ++ [CodePoint.ofChar ']']) r (position + 1)
  rw [List.append_assoc, List.singleton_append, List.length_append, List.length_singleton] at hskip
  rw [scan, if_neg hback, if_pos rfl]
  simp only [hbody, State.pieces]
  rw [if_neg (by decide), State.pieces, show backslashes (0 / 2) = [] from rfl, State.more_nil,
    htag, hskip]

/-- A tag adds nothing to the text. -/
theorem State.text_of_tag {s s' : State} {position : Nat} {body : Text}
    (h : s.tag position body = .ok s') : s'.text = s.text := by
  have hclose : ∀ {t outer}, s.close t outer = .ok s' → s'.text = s.text := by
    intro t outer h
    unfold State.close at h
    split at h
    · cases h
    · cases h
      rfl
  unfold State.tag at h
  split at h
  · cases h
    rfl
  · split at h
    · split at h
      · split at h
        · cases h
        · exact hclose h
      · split at h
        · cases h
        · split at h
          · exact hclose h
          · cases h
    · split at h
      · cases h
      · cases h
        rfl

/-! ### Text that is not literal -/

/-- The text ends; or a line does, and the next one begins with a tag. -/
inductive LineEnds : Text → Prop
  | last : LineEnds []
  | next (r : Text) : LineEnds (Text.newline :: bracket :: r)

theorem LineEnds.head {r : Text} (hr : LineEnds r) :
    ∀ c ∈ r.head?, c ≠ bracket ∧ c ≠ backslash := by
  intro c hc
  cases hr with
  | last => cases hc
  | next r =>
    obtain rfl : Text.newline = c := Option.some.inj hc
    decide

/-- A tag does not go on over the end of a line. -/
theorem LineEnds.upToClosing {r : Text} (hr : LineEnds r) (t : Text) :
    Markup.upToClosing (t ++ r) = Markup.upToClosing t := by
  induction t with
  | nil =>
    cases hr with
    | last => rfl
    | next r => rfl
  | cons c q ih =>
    rw [List.cons_append, Markup.upToClosing, Markup.upToClosing, ih]

theorem LineEnds.body? {r : Text} (hr : LineEnds r) (t : Text) :
    Markup.body? (t ++ r) = Markup.body? t := by
  cases t with
  | nil =>
    cases hr with
    | last => rfl
    | next r => rfl
  | cons c q => rw [List.cons_append, Markup.body?, Markup.body?, hr.upToClosing]

/-- So what is literal at the end of a text is literal at the end of a line. -/
theorem LineEnds.literalBefore_iff {r t : Text} (hr : LineEnds r) :
    LiteralBefore r t ↔ LiteralBefore [] t := by
  simp only [LiteralBefore, hr.body?, List.append_nil]

theorem length_lt_of_body? {t b : Text} (h : body? t = some b) : b.length < t.length := by
  have hclosing : ∀ {t b}, upToClosing t = some b → b.length < t.length := by
    intro t b h
    fun_induction upToClosing t generalizing b with
    | case1 => cases h
    | case2 =>
      cases h
      exact Nat.succ_pos _
    | case3 => cases h
    | case4 c r _ _ ih =>
      obtain ⟨b', hb', rfl⟩ := Option.map_eq_some_iff.mp h
      exact Nat.succ_lt_succ (ih hb')
  unfold body? at h
  split at h
  · cases h
  · split at h
    · obtain ⟨b', hb', rfl⟩ := Option.map_eq_some_iff.mp h
      exact Nat.succ_lt_succ (hclosing hb')
    · cases h

theorem State.length_more_le (s : State) (t : Text) :
    (s.more t).text.length ≤ s.text.length + t.length := by
  rw [more, List.length_append]
  exact Nat.add_le_add_left (List.length_filter_le ..) _

theorem length_backslashes (n : Nat) : (backslashes n).length = n := List.length_replicate

/-- What a bracket with a tag adds to the text: half the backslashes before it, and its own
text if one of them is left over. -/
theorem exists_pieces_bracket {pending position : Nat} {b : Text} {ps : List Piece} {s s' : State}
    (h : s.pieces (.text (backslashes (pending / 2)) ::
      (if pending % 2 = 1 then .text (CodePoint.ofChar '[' :: b ++ [CodePoint.ofChar ']'])
        else .tag position b) :: ps) = .ok s') :
    ∃ s₁ : State, s₁.pieces ps = .ok s' ∧ s₁.text.length ≤
      s.text.length + pending / 2 + if pending % 2 = 1 then b.length + 2 else 0 := by
  have hhalf := s.length_more_le (backslashes (pending / 2))
  rw [length_backslashes] at hhalf
  rw [State.pieces] at h
  split at h
  · rw [State.pieces] at h
    have hmore := (s.more (backslashes (pending / 2))).length_more_le
      (CodePoint.ofChar '[' :: b ++ [CodePoint.ofChar ']'])
    rw [List.length_append, List.length_cons, List.length_singleton] at hmore
    exact ⟨_, h, by rw [if_pos ‹_›]; omega⟩
  · rw [State.pieces] at h
    split at h
    · cases h
    · next s₁ htag =>
      refine ⟨s₁, h, ?_⟩
      rw [State.text_of_tag htag, if_neg ‹_›]
      omega

/-- **No text is read as more than there is, and text that is not literal as less.** A line
is read, and from its end the reading goes on afresh; its tags and some of its backslashes
do not get into the text. -/
theorem exists_pieces_scan {t r : Text} (hr : LineEnds r) {pending skip : Nat}
    (hskip : skip ≤ t.length) {s s' : State} {position : Nat}
    (h : s.pieces (scan position pending skip (t ++ r)) = .ok s') :
    ∃ s₁ : State, s₁.pieces (scan (position + t.length) 0 0 r) = .ok s' ∧
      s₁.text.length + skip ≤ s.text.length + pending + t.length ∧
      (skip = 0 → ¬ (LiteralBefore r t ∧ (0 < pending → t.head? ≠ some bracket)) →
        s₁.text.length < s.text.length + pending + t.length) := by
  induction t generalizing s position pending skip with
  | nil =>
    obtain rfl : skip = 0 := Nat.le_zero.mp hskip
    have hnone : LiteralBefore r [] := literalBefore_of_not_mem List.not_mem_nil r
    have hhead : 0 < pending → ([] : Text).head? ≠ some bracket := fun _ hc => by cases hc
    rw [pieces_scan_literal_after hnone hr.head hhead, List.append_nil] at h
    have hle := s.length_more_le (backslashes pending)
    rw [length_backslashes] at hle
    exact ⟨_, h, hle, fun _ hnot => absurd ⟨hnone, hhead⟩ hnot⟩
  | cons c q ih =>
    have hposition : position + (c :: q).length = position + 1 + q.length := by
      rw [List.length_cons]
      omega
    rw [List.cons_append, scan.eq_def] at h
    dsimp only at h
    rw [hposition, List.length_cons]
    cases skip with
    | succ n =>
      obtain ⟨s₁, hread, hle, -⟩ := ih (Nat.le_of_succ_le_succ hskip) h
      exact ⟨s₁, hread, by omega, fun h => by cases h⟩
    | zero =>
      dsimp only at h
      by_cases hback : c = backslash
      · rw [if_pos hback] at h
        obtain ⟨s₁, hread, hle, hlt⟩ := ih (Nat.zero_le _) h
        refine ⟨s₁, hread, by omega, fun _ hnot => ?_⟩
        have hopen : c ≠ bracket := by
          rw [hback]
          decide
        have hless := hlt rfl fun hrest => hnot
          ⟨literalBefore_cons_iff.mpr ⟨fun hc => absurd hc hopen, fun _ => hrest.2 (Nat.succ_pos _),
            hrest.1⟩, fun _ hc => hopen (Option.some.inj hc)⟩
        omega
      · rw [if_neg hback] at h
        by_cases hopen : c = bracket
        · rw [if_pos hopen] at h
          cases hbody : body? (q ++ r) with
          | none =>
            -- The bracket opens no tag; a backslash before it is dropped.
            rw [hbody] at h
            dsimp only at h
            rw [State.pieces] at h
            obtain ⟨s₁, hread, hle, hlt⟩ := ih (Nat.zero_le _) h
            have hmore := s.length_more_le (backslashes (pending - 1) ++ [c])
            rw [List.length_append, length_backslashes, List.length_singleton] at hmore
            refine ⟨s₁, hread, by omega, fun _ hnot => ?_⟩
            by_cases hpending : pending = 0
            · have hless := hlt rfl fun hrest => hnot
                ⟨literalBefore_cons_iff.mpr ⟨fun _ => hbody, fun hc => absurd hc hback, hrest.1⟩,
                  fun hpos => absurd hpending (Nat.ne_of_gt hpos)⟩
              omega
            · omega
          | some b =>
            rw [hbody] at h
            obtain ⟨s₂, hrest, htag⟩ := exists_pieces_bracket h
            have hlength : b.length + 1 ≤ q.length := by
              rw [hr.body?] at hbody
              exact length_lt_of_body? hbody
            obtain ⟨s₁, hread, hle, -⟩ := ih hlength hrest
            have hless : s₁.text.length < s.text.length + pending + (q.length + 1) := by
              split at htag <;> omega
            exact ⟨s₁, hread, Nat.le_of_lt hless, fun _ _ => hless⟩
        · rw [if_neg hopen, State.pieces] at h
          obtain ⟨s₁, hread, hle, hlt⟩ := ih (Nat.zero_le _) h
          have hmore := s.length_more_le (backslashes pending ++ [c])
          rw [List.length_append, length_backslashes, List.length_singleton] at hmore
          refine ⟨s₁, hread, by omega, fun _ hnot => ?_⟩
          have hless := hlt rfl fun hrest => hnot
            ⟨literalBefore_cons_iff.mpr ⟨fun hc => absurd hc hopen, fun hc => absurd hc hback,
              hrest.1⟩, fun _ hc => hopen (Option.some.inj hc)⟩
          omega

end Markup

end SynthDesk
