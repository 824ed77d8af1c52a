/-
What an indicator has been through.

An indicator keeps three things, its text, whether it is active and whether it is drawn,
and the calls that change them look at each other: a success stops first, an update and an
end count only while something is in progress, a start only while nothing is. What comes of
any sequence of calls is said here by the sequence alone, without an indicator. Something is
in progress if it was begun and nothing has ended it since; the text is that of the last
update made meanwhile; and what is printed are the reports that came meanwhile, of which the
first ends the activity that it is about.

The sequences grow at their end, so the induction takes the last call off, and one call
after others that are known is all there is to look at.
-/
import SynthDesk.Console.Indicator
import Mathlib.Data.List.Induction

set_option autoImplicit false

namespace SynthDesk.Indicator

/-! ## Calls and their kinds -/

/-- Asks for an activity. -/
def Call.begins : Call → Bool
  | start | enter => true
  | _ => false

/-- Ends an activity, if there is one. -/
def Call.ends : Call → Bool
  | stop | exit | succeed _ | fail _ => true
  | _ => false

/-- How it went, for the calls that say so. -/
def Call.report? : Call → Option Console.StatusLine
  | succeed m => some ⟨.success, m⟩
  | fail m => some ⟨.error, m⟩
  | _ => none

/-- **Something is in progress** after calls: it was begun, and nothing has ended it since. -/
def InProgress (cs : List Call) : Prop :=
  ∃ before c after, cs = before ++ c :: after ∧ c.begins = true ∧ ∀ d ∈ after, d.ends = false

/-- **The text** after calls: that of the last update that was made while something was in
progress, or the first text if there is none. -/
inductive LastText (first : Text) (cs : List Call) : Text → Prop
  | untouched :
    (∀ before t after, cs = before ++ .update t :: after → ¬ InProgress before) →
      LastText first cs first
  | updated {before after : List Call} {t : Text} :
    cs = before ++ .update t :: after → InProgress before →
      (∀ between u later, after = between ++ .update u :: later →
        ¬ InProgress (before ++ .update t :: between)) →
      LastText first cs t

/-- A call finds something in progress, and says how it went. -/
def Tells (before : List Call) (c : Call) (l : Console.StatusLine) : Prop :=
  InProgress before ∧ c.report? = some l

/-- **The lines that are printed** by calls: one for each call that tells how something went,
and none for the others; and none at all without a console. -/
inductive Printed (console : Bool) : List Call → List Console.StatusLine → Prop
  | nothing : Printed console [] []
  | line {cs : List Call} {ls : List Console.StatusLine} {c : Call} {l : Console.StatusLine} :
    Printed console cs ls → console = true → Tells cs c l → Printed console (cs ++ [c]) (ls ++ [l])
  | silent {cs : List Call} {ls : List Console.StatusLine} {c : Call} :
    Printed console cs ls → (console = true → ∀ l, ¬ Tells cs c l) → Printed console (cs ++ [c]) ls

/-! ## One more call -/

/-- A sequence of calls with one more at its end, cut at a call: the last one, or one before. -/
theorem concat_eq_append_cons {cs before after : List Call} {c d : Call}
    (h : cs ++ [c] = before ++ d :: after) :
    (after = [] ∧ before = cs ∧ d = c) ∨
      ∃ rest, after = rest ++ [c] ∧ cs = before ++ d :: rest := by
  induction after using List.reverseRecOn with
  | nil =>
    obtain ⟨rfl, hlast⟩ := List.append_inj' h rfl
    exact Or.inl ⟨rfl, rfl, (List.cons.inj hlast).1.symm⟩
  | append_singleton rest e _ =>
    have hcut : cs ++ [c] = (before ++ d :: rest) ++ [e] := by
      rw [h, List.append_assoc, List.cons_append]
    obtain ⟨rfl, hlast⟩ := List.append_inj' hcut rfl
    exact Or.inr ⟨rest, by rw [(List.cons.inj hlast).1], rfl⟩

/-- **One more call begins something, or leaves in progress what it does not end.** -/
theorem inProgress_concat_iff {cs : List Call} {c : Call} :
    InProgress (cs ++ [c]) ↔ c.begins = true ∨ InProgress cs ∧ c.ends = false := by
  constructor
  · rintro ⟨before, d, after, hcut, hbegins, hrest⟩
    rcases concat_eq_append_cons hcut with ⟨-, -, rfl⟩ | ⟨rest, rfl, rfl⟩
    · exact Or.inl hbegins
    · obtain ⟨hrest, hlast⟩ := List.forall_mem_append.mp hrest
      exact Or.inr ⟨⟨before, d, rest, rfl, hbegins, hrest⟩, hlast c (List.mem_singleton_self c)⟩
  · rintro (hbegins | ⟨⟨before, d, after, rfl, hbegins, hrest⟩, hends⟩)
    · exact ⟨cs, c, [], rfl, hbegins, List.forall_mem_nil _⟩
    · refine ⟨before, d, after ++ [c], by rw [List.append_assoc, List.cons_append], hbegins, ?_⟩
      exact List.forall_mem_append.mpr ⟨hrest, List.forall_mem_singleton.mpr hends⟩

/-- An update meanwhile gives the text. -/
theorem LastText.concat_update {first t : Text} {cs : List Call} (h : InProgress cs) :
    LastText first (cs ++ [.update t]) t := by
  have hcut : cs ++ [.update t] = cs ++ .update t :: [] := rfl
  apply LastText.updated hcut h
  intro between u later hnil
  exact absurd hnil.symm (List.append_ne_nil_of_right_ne_nil between (List.cons_ne_nil _ later))

/-- Any other call leaves it. -/
theorem LastText.concat {first x : Text} {cs : List Call} {c : Call} (h : LastText first cs x)
    (hc : ∀ t, c = .update t → ¬ InProgress cs) : LastText first (cs ++ [c]) x := by
  cases h with
  | untouched hnone =>
    apply LastText.untouched
    intro before t after hcut
    rcases concat_eq_append_cons hcut with ⟨-, rfl, rfl⟩ | ⟨rest, -, rfl⟩
    · exact hc t rfl
    · exact hnone before t rest rfl
  | @updated before after t hcut hprogress hlater =>
    have hcut' : cs ++ [c] = before ++ .update x :: (after ++ [c]) := by
      rw [hcut, List.append_assoc, List.cons_append]
    apply LastText.updated hcut' hprogress
    intro between u later hafter
    rcases concat_eq_append_cons hafter with ⟨-, rfl, rfl⟩ | ⟨rest, -, rfl⟩
    · rw [← hcut]
      exact hc u rfl
    · exact hlater between u rest rfl

/-! ## One call on an indicator -/

/-- A call begins something, or leaves in progress what it does not end. -/
theorem call_active (i : Indicator) (c : Call) :
    (i.call c).indicator.active = (c.begins || i.active && !c.ends) := by
  cases c <;> simp [call, Call.begins, Call.ends, succeed, fail, finish]

theorem call_console (i : Indicator) (c : Call) : (i.call c).indicator.console = i.console := by
  cases c <;> simp [call, succeed, fail, finish]

/-- Only an update changes the text, and only while something is in progress. -/
theorem call_text {i : Indicator} {c : Call} (h : ∀ t, c = .update t → i.active = false) :
    (i.call c).indicator.text = i.text := by
  cases c with
  | update t =>
    have hidle : i.active = false := h t rfl
    simp [call, update, hidle]
  | _ => simp [call, succeed, fail, finish]

theorem call_update_text {i : Indicator} (h : i.active = true) (t : Text) :
    (i.call (.update t)).indicator.text = t := by
  simp [call, update, h]

/-- What a call prints. -/
theorem call_effects (i : Indicator) (c : Call) :
    (i.call c).effects = if i.active && i.console then
      c.report?.toList.map fun l => .shows (.status l) else [] := by
  cases c <;> simp [call, Call.report?, succeed, fail, finish, Effect.line]

theorem update_spinning (i : Indicator) (t : Text) : (i.update t).spinning = i.spinning := by
  unfold update
  split <;> rfl

/-- **Nothing is drawn but what is active**, after a call as before it. -/
theorem call_spinning_le {i : Indicator} (h : i.spinning = true → i.active = true) (c : Call) :
    (i.call c).indicator.spinning = true → (i.call c).indicator.active = true := by
  have hstop : i.stop.spinning = true → i.stop.active = true := by
    unfold stop
    split
    · exact fun hspin => hspin
    · exact h
  cases c with
  | start => exact fun _ => start_active i
  | enter => exact fun _ => start_active i
  | update t =>
    intro hspin
    exact (update_active i t).trans (h ((update_spinning i t).symm.trans hspin))
  | stop => exact hstop
  | exit => exact hstop
  | succeed m => exact hstop
  | fail m => exact hstop

/-- **An indicator agrees with the calls** that it has been through. -/
structure AgreesWith (console : Bool) (first : Text) (cs : List Call) (i : Indicator) : Prop where
  console_eq : i.console = console
  active_iff : i.active = true ↔ InProgress cs
  text : LastText first cs i.text
  spinning : i.spinning = true → i.active = true

variable {console : Bool} {first : Text}

/-- **One more call keeps the agreement.** -/
theorem AgreesWith.call {cs : List Call} {i : Indicator} (h : AgreesWith console first cs i)
    (c : Call) : AgreesWith console first (cs ++ [c]) (i.call c).indicator where
  console_eq := (call_console i c).trans h.console_eq
  active_iff := by
    rw [call_active, inProgress_concat_iff, ← h.active_iff]
    simp
  text := by
    by_cases hupdate : ∃ t, c = .update t ∧ i.active = true
    · obtain ⟨t, rfl, hactive⟩ := hupdate
      rw [call_update_text hactive]
      exact LastText.concat_update (h.active_iff.mp hactive)
    · have hidle : ∀ t, c = .update t → i.active = false := by
        intro t ht
        rw [← Bool.not_eq_true]
        exact fun hactive => hupdate ⟨t, ht, hactive⟩
      rw [call_text hidle]
      apply h.text.concat
      intro t ht hprogress
      rw [← h.active_iff, hidle t ht] at hprogress
      cases hprogress
  spinning := call_spinning_le h.spinning c

/-- What one more call prints. -/
theorem AgreesWith.printed {cs : List Call} {i : Indicator} (h : AgreesWith console first cs i)
    {ls : List Console.StatusLine} (hls : Printed console cs ls) (c : Call) :
    ∃ more, (i.call c).effects = more.map (fun l => .shows (.status l)) ∧
      Printed console (cs ++ [c]) (ls ++ more) := by
  rw [call_effects, h.console_eq]
  by_cases hheard : i.active = true ∧ console = true
  · obtain ⟨hactive, rfl⟩ := hheard
    have hprogress := h.active_iff.mp hactive
    rw [hactive, Bool.and_true, if_pos rfl]
    refine ⟨c.report?.toList, rfl, ?_⟩
    cases hreport : c.report? with
    | none =>
      rw [Option.toList_none, List.append_nil]
      apply hls.silent
      rintro - l ⟨-, hl⟩
      rw [hreport] at hl
      cases hl
    | some l => exact hls.line rfl ⟨hprogress, hreport⟩
  · have hnone : (i.active && console) = false := by
      rw [← Bool.not_eq_true, Bool.and_eq_true]
      exact hheard
    rw [hnone, if_neg Bool.false_ne_true]
    refine ⟨[], rfl, ?_⟩
    rw [List.append_nil]
    apply hls.silent
    rintro hconsole l ⟨hprogress, -⟩
    exact hheard ⟨h.active_iff.mpr hprogress, hconsole⟩

end SynthDesk.Indicator
