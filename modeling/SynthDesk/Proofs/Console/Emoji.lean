/-
Texts in which no picture is named.

A name of a picture stands between two colons with no blank in it. So a text that is cut at
its blanks is not robbed of such a name, and a text in which none stands keeps none in its
parts. Where no picture is named there is nothing to put in: the text stays as it is, and
markup is shown as it is read.
-/
import SynthDesk.Console.Emoji
import Mathlib.Data.List.Basic
import Mathlib.Data.List.Infix

set_option autoImplicit false

namespace SynthDesk

namespace Emoji

/-! ## Names of pictures -/

/-- A name that the table has a picture for, perhaps with a form, between two colons. -/
inductive IsCode (table : Table) : Text → Prop
  | mk {name form picture : Text} (hpicture : picture? table name = some picture)
    (hname : ∀ c ∈ name, c.isBlank = false) (hform : form ∈ forms.map Prod.fst) :
    IsCode table (colon :: (name ++ form) ++ [colon])

/-- **A picture is named in the text.** -/
def HasCode (table : Table) (t : Text) : Prop := ∃ code, IsCode table code ∧ code <:+: t

variable {table : Table} {t : Text}

theorem IsCode.blankless {code : Text} (h : IsCode table code) :
    ∀ c ∈ code, c.isBlank = false := by
  obtain ⟨-, hname, hform⟩ := h
  have hforms : (forms.map Prod.fst).all (fun form => form.all fun c => !c.isBlank) = true := by
    decide
  simp only [List.all_eq_true, Bool.not_eq_true'] at hforms
  have hcolon : colon.isBlank = false := by decide
  rw [List.cons_append, List.forall_mem_cons, List.forall_mem_append, List.forall_mem_append,
    List.forall_mem_singleton]
  exact ⟨hcolon, ⟨hname, hforms _ hform⟩, hcolon⟩

theorem IsCode.two_le_count {code : Text} (h : IsCode table code) : 2 ≤ code.count colon := by
  obtain ⟨-, -, -⟩ := h
  rw [List.count_append, List.count_cons_self, List.count_singleton_self]
  omega

/-- What is not named in the whole is named in no part of it. -/
theorem not_hasCode_of_infix {part : Text} (h : ¬ HasCode table t) (hpart : part <:+: t) :
    ¬ HasCode table part := by
  rintro ⟨code, hcode, hwithin⟩
  exact h ⟨code, hcode, hwithin.trans hpart⟩

/-- A single colon names nothing. -/
theorem not_hasCode_of_count (h : t.count colon ≤ 1) : ¬ HasCode table t := by
  rintro ⟨code, hcode, hwithin⟩
  exact absurd (Nat.le_trans hcode.two_le_count (hwithin.sublist.count_le colon)) (by omega)

/-- A part without a certain code point lies on one side of it. -/
theorem within_or_within {a b part : Text} {c : CodePoint} (h : part <:+: a ++ c :: b)
    (hc : c ∉ part) : part <:+: a ∨ part <:+: b := by
  obtain ⟨before, after, h⟩ := h
  rcases List.append_eq_append_iff.mp h with ⟨more, hwhole, -⟩ | ⟨more, hwhole, hafter⟩
  · exact .inl ⟨before, more, hwhole.symm⟩
  · rcases List.append_eq_append_iff.mp hwhole with ⟨front, ha, rfl⟩ | ⟨front, -, rfl⟩
    · -- The part begins before the code point, and so it ends before it too.
      cases more with
      | nil => exact .inl ⟨before, [], by rw [ha, List.append_nil, List.append_nil]⟩
      | cons d more =>
        obtain rfl : c = d := (List.cons.inj hafter).1
        exact absurd (List.mem_append_right front List.mem_cons_self) hc
    · cases front with
      | nil =>
        cases part with
        | nil => exact .inl (List.nil_infix)
        | cons d part =>
          obtain rfl : c = d := (List.cons.inj hafter).1
          exact absurd List.mem_cons_self hc
      | cons d front => exact .inr ⟨front, after, (List.cons.inj hafter).2.symm⟩

/-- **Blanks keep names apart.** -/
theorem HasCode.of_append_cons {a b : Text} {c : CodePoint} (hc : c.isBlank = true)
    (h : HasCode table (a ++ c :: b)) : HasCode table a ∨ HasCode table b := by
  obtain ⟨code, hcode, hwithin⟩ := h
  have hnot : c ∉ code := by
    intro hmem
    rw [hcode.blankless c hmem] at hc
    cases hc
  exact (within_or_within hwithin hnot).imp (fun h => ⟨code, hcode, h⟩) (fun h => ⟨code, hcode, h⟩)

/-! ## Nothing to put in -/

theorem ending?_eq_some {code : Code} (h : ending? t = some code) :
    t = code.body ++ colon :: code.rest ∧ code.name = [] ∧ code.form ∈ forms.map Prod.fst := by
  obtain ⟨⟨form, selector⟩, hmem, hfound⟩ := List.exists_of_findSome?_eq_some h
  obtain ⟨rest, hafter, rfl⟩ := Option.map_eq_some_iff.mp hfound
  refine ⟨?_, rfl, List.mem_map_of_mem hmem⟩
  rw [Text.after?_eq_some_iff.mp hafter, List.append_assoc]
  rfl

/-- What is found after a colon stands there, up to a second one. -/
theorem code?_eq_some {code : Code} (h : code? t = some code) :
    t = code.body ++ colon :: code.rest ∧ (∀ c ∈ code.name, c.isBlank = false) ∧
      code.form ∈ forms.map Prod.fst := by
  induction t generalizing code with
  | nil =>
    rw [code?] at h
    split at h
    · next found hending =>
      cases h
      obtain ⟨ht, hname, hform⟩ := ending?_eq_some hending
      exact ⟨ht, by rw [hname]; exact List.forall_mem_nil _, hform⟩
    · cases h
  | cons c r ih =>
    rw [code?] at h
    split at h
    · next found hending =>
      cases h
      obtain ⟨ht, hname, hform⟩ := ending?_eq_some hending
      exact ⟨ht, by rw [hname]; exact List.forall_mem_nil _, hform⟩
    · split at h
      · cases h
      · next hblank =>
        obtain ⟨later, hlater, rfl⟩ := Option.map_eq_some_iff.mp h
        obtain ⟨hr, hname, hform⟩ := ih hlater
        refine ⟨congrArg (c :: ·) hr, List.forall_mem_cons.mpr ⟨?_, hname⟩, hform⟩
        simpa using hblank

/-- Where no picture is named, the rest of the text stays as it is. -/
theorem replaceFrom_eq_drop (skip : Nat) (h : ¬ HasCode table t) :
    replaceFrom table skip t = t.drop skip := by
  induction t generalizing skip with
  | nil => rw [replaceFrom, List.drop_nil]
  | cons c r ih =>
    have hr : ¬ HasCode table r := not_hasCode_of_infix h (List.suffix_cons c r).isInfix
    cases skip with
    | succ n => rw [replaceFrom, ih n hr, List.drop_succ_cons]
    | zero =>
      rw [replaceFrom, List.drop_zero]
      split
      · next hcolon =>
        split
        · next found hfound =>
          obtain ⟨hsplit, hname, hform⟩ := code?_eq_some hfound
          -- The name has no picture, or the text would hold it between its colons.
          have hnone : picture? table found.name = none := by
            cases hpicture : picture? table found.name with
            | none => rfl
            | some picture =>
              refine absurd ⟨_, .mk hpicture hname hform, [], found.rest, ?_⟩ h
              rw [hcolon, hsplit]
              simp [Code.body]
          have hdrop : r.drop (found.body.length + 1) = found.rest := by
            rw [hsplit, ← List.drop_drop, List.drop_left]
            rfl
          rw [Code.shown, hnone, ih _ hr, hdrop, hcolon, hsplit]
          simp
        · rw [ih 0 hr, List.drop_zero]
      · rw [ih 0 hr, List.drop_zero]

/-- **A text in which no picture is named** stays as it is. -/
theorem replace_eq_self (h : ¬ HasCode table t) : replace table t = t := replaceFrom_eq_drop 0 h

end Emoji

namespace Markup

variable {table : Emoji.Table} {t : Text}

/-- What stands before a closing bracket stands there, with the bracket after it. -/
theorem exists_of_upToClosing {b : Text} (h : upToClosing t = some b) :
    ∃ r, t = b ++ CodePoint.ofChar ']' :: r := by
  induction t generalizing b with
  | nil => cases h
  | cons c s ih =>
    rw [upToClosing] at h
    split at h
    · next hc =>
      cases h
      exact ⟨s, congrArg (· :: s) hc⟩
    · split at h
      · cases h
      · obtain ⟨later, hlater, rfl⟩ := Option.map_eq_some_iff.mp h
        obtain ⟨r, rfl⟩ := ih hlater
        exact ⟨r, rfl⟩

/-- A tag stands where it is found. -/
theorem exists_of_body? {b : Text} (h : body? t = some b) :
    ∃ r, t = b ++ CodePoint.ofChar ']' :: r := by
  cases t with
  | nil => cases h
  | cons c s =>
    rw [body?] at h
    split at h
    · obtain ⟨later, hlater, rfl⟩ := Option.map_eq_some_iff.mp h
      obtain ⟨r, rfl⟩ := exists_of_upToClosing hlater
      exact ⟨r, rfl⟩
    · cases h

/-- A run and the tag after it are put back as they were: both are parts of a text in which
no picture is named. -/
theorem tagged_eq {run b rest : Text} {pending : Nat}
    (h : ¬ Emoji.HasCode table (run.reverse ++ backslashes pending ++
      CodePoint.ofChar '[' :: (b ++ CodePoint.ofChar ']' :: rest))) :
    Emoji.replace table run.reverse ++ backslashes pending ++
        (if pending % 2 = 1 then
          Emoji.replace table (CodePoint.ofChar '[' :: b ++ [CodePoint.ofChar ']'])
        else CodePoint.ofChar '[' :: b ++ [CodePoint.ofChar ']']) ++ rest =
      run.reverse ++ backslashes pending ++
        CodePoint.ofChar '[' :: (b ++ CodePoint.ofChar ']' :: rest) := by
  have hrun : ¬ Emoji.HasCode table run.reverse := Emoji.not_hasCode_of_infix h
    ⟨[], backslashes pending ++ CodePoint.ofChar '[' :: (b ++ CodePoint.ofChar ']' :: rest),
      by simp⟩
  have htag : ¬ Emoji.HasCode table (CodePoint.ofChar '[' :: b ++ [CodePoint.ofChar ']']) :=
    Emoji.not_hasCode_of_infix h ⟨run.reverse ++ backslashes pending, rest, by simp⟩
  rw [Emoji.replace_eq_self hrun, Emoji.replace_eq_self htag, ite_self]
  simp

/-- Where no picture is named, markup stays as it is from a place on: the run begun and the
backslashes that wait, and the rest. -/
theorem picturedFrom_eq (run : Text) (pending skip : Nat)
    (hskip : skip ≠ 0 → run = [] ∧ pending = 0)
    (h : ¬ Emoji.HasCode table (run.reverse ++ backslashes pending ++ t)) :
    picturedFrom table run pending skip t = run.reverse ++ backslashes pending ++ t.drop skip := by
  induction t generalizing run pending skip with
  | nil =>
    rw [List.append_nil] at h
    rw [picturedFrom, Emoji.replace_eq_self h, List.drop_nil, List.append_nil]
  | cons c r ih =>
    have hplain : ∀ run' pending', run'.reverse ++ backslashes pending' ++ r =
        run.reverse ++ backslashes pending ++ c :: r →
        picturedFrom table run' pending' 0 r = run.reverse ++ backslashes pending ++ c :: r := by
      intro run' pending' hsame
      rw [ih run' pending' 0 (fun hne => absurd rfl hne) (hsame ▸ h), List.drop_zero, hsame]
    have hread : (c :: (backslashes pending ++ run)).reverse ++ backslashes 0 ++ r =
        run.reverse ++ backslashes pending ++ c :: r := by
      simp [backslashes, Text.fill]
    cases skip with
    | succ n =>
      obtain ⟨rfl, rfl⟩ := hskip (Nat.succ_ne_zero n)
      have hr : ¬ Emoji.HasCode table ([].reverse ++ backslashes 0 ++ r) :=
        Emoji.not_hasCode_of_infix h (List.suffix_cons c r).isInfix
      rw [picturedFrom, ih [] 0 n (fun _ => ⟨rfl, rfl⟩) hr, List.drop_succ_cons]
    | zero =>
      rw [picturedFrom, List.drop_zero]
      dsimp only
      split
      · next hback =>
        refine hplain run (pending + 1) ?_
        rw [hback]
        simp [backslashes, Text.fill, List.replicate_succ']
      · split
        · next hopen =>
          split
          · next b hbody =>
            obtain ⟨rest, rfl⟩ := exists_of_body? hbody
            subst hopen
            have hrest : ¬ Emoji.HasCode table
                ([].reverse ++ backslashes 0 ++ (b ++ CodePoint.ofChar ']' :: rest)) :=
              Emoji.not_hasCode_of_infix h
                ⟨run.reverse ++ backslashes pending ++ [CodePoint.ofChar '['], [],
                  by simp [backslashes, Text.fill]⟩
            have hdrop : (b ++ CodePoint.ofChar ']' :: rest).drop (b.length + 1) = rest := by
              rw [← List.drop_drop, List.drop_left]
              rfl
            rw [ih [] 0 _ (fun _ => ⟨rfl, rfl⟩) hrest, hdrop]
            exact tagged_eq h
          · exact hplain _ 0 hread
        · exact hplain _ 0 hread

/-- **Markup in which no picture is named** stays as it is. -/
theorem pictured_eq_self (h : ¬ Emoji.HasCode table t) : pictured table t = t :=
  picturedFrom_eq [] 0 0 (fun hne => absurd rfl hne) h

/-- **Markup in which no picture is named** is shown as it is read. -/
theorem display_eq_read (h : ¬ Emoji.HasCode table t) : display table t = read t := by
  rw [display, pictured_eq_self h]
  cases read t <;> rfl

end Markup

end SynthDesk
