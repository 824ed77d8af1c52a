/-
What arrives whole is told as it was written.

A text that one reading takes is one piece, and decoding gives back what was
encoded. So diagnostics that arrive in one delivery become the reason of the
failure as they stand, line ends included; and progress that arrives so is shown
as it was written, but for the blanks around it. The bound of a reading is
inclusive: 4096 octets are still one piece.
-/
import SynthDesk.Proofs.Engine.OutcomeLaw
import SynthDesk.Proofs.Engine.Pieces
import SynthDesk.Proofs.Text.Utf8

set_option autoImplicit false

namespace SynthDesk.Engine

open Supervisor Executor

/-! ## Instants with little in them -/

/-- Instants that deliver nothing on a stream give nothing to read on it. -/
theorem piecesRead_of_silence {stream : Stream} {h : List Instant}
    (hsilent : ∀ i ∈ h, (arrival stream i).octets = []) : piecesRead stream h = [] := by
  induction h with
  | nil => rfl
  | cons i r ih =>
    have hrest : piecesRead stream r = [] := ih fun j hj => hsilent j (List.mem_cons_of_mem i hj)
    rw [piecesRead, Arrival.pieces_of_nil (hsilent i List.mem_cons_self), hrest, ite_self]
    rfl

/-- An instant of progress alone. -/
def Instant.IsProgress (i : Instant) : Prop := ∀ e ∈ i, ∃ octets, e = .data .out octets

namespace Instant.IsProgress

variable {i : Instant}

/-- It delivers no diagnostics, and does not end their stream. -/
theorem arrival_err (hi : i.IsProgress) : arrival .err i = .nothing := by
  induction i with
  | nil => rfl
  | cons e r ih =>
    obtain ⟨octets, rfl⟩ := hi e List.mem_cons_self
    exact ih fun e he => hi e (List.mem_cons_of_mem _ he)

/-- It ends nothing. -/
theorem ending_eq_none (hi : i.IsProgress) (stream : Stream) :
    (arrival stream i).ending = none := by
  rw [← Option.isNone_iff_eq_none, ← Option.isSome_eq_false_iff, arrival_ending_isSome,
    List.any_eq_false]
  intro e he
  obtain ⟨octets, rfl⟩ := hi e he
  exact Bool.false_ne_true

end Instant.IsProgress

/-- Progress alone settles nothing. -/
theorem rulingOf_concat_of_isProgress {h : List Instant} {i : Instant} (hi : i.IsProgress)
    (ho : hasEnded .out h = false) (hr : rulingOf h = none) : rulingOf (h ++ [i]) = none := by
  rw [rulingOf_eq_none_iff] at hr ⊢
  constructor
  · rw [piecesRead_concat, hr.1, hi.arrival_err]
    exact ite_self _
  · -- The stream of progress is still open.
    rintro ⟨hout, -, -⟩
    rw [hasEnded_concat, ho, hi.ending_eq_none] at hout
    cases hout

/-! ## Texts in one piece -/

section Texts

variable {t : Text} (hne : t ≠ []) (hlen : (Utf8.encode t).length ≤ 4096)
include hne hlen

theorem pieces_of_text {a : Arrival} (ha : a.octets = Utf8.encode t) :
    a.pieces = [Utf8.encode t] := by
  rw [← ha]
  apply Arrival.pieces_of_length_le
  · rwa [ha, ne_eq, Utf8.encode_eq_nil_iff]
  · rwa [ha]

/-- The first diagnostics are the first piece that is read. -/
theorem rulingOf_of_text {before after : List Instant} {i : Instant}
    (hsilent : ∀ j ∈ before, (arrival .err j).octets = []) (ho : hasEnded .err before = false)
    (ha : (arrival .err i).octets = Utf8.encode t) :
    rulingOf (completed (before ++ i :: after)) = some (.diagnosed (Utf8.encode t)) := by
  have hread : piecesRead .err (completed (before ++ i :: after)) =
      Utf8.encode t :: if (arrival .err i).ending.isSome then [] else piecesRead .err after := by
    rw [piecesRead_completed, piecesRead_append, piecesRead_of_silence hsilent, ho, piecesRead,
      pieces_of_text hne hlen ha]
    rfl
  exact rulingOf_of_cons hread

/-- Progress of an instant of its own is the text of an open run after it. -/
theorem textAfter_of_text {h : List Instant} {i : Instant} (start : Text)
    (ho : hasEnded .out h = false) (ha : (arrival .out i).octets = Utf8.encode t) :
    textAfter start (piecesRead .out (h ++ [i])) = (Utf8.decodeLossy (Utf8.encode t)).strip := by
  rw [piecesRead_concat, ho, pieces_of_text hne hlen ha, textAfter_append]
  rfl

end Texts

/-! ## The law -/

/-- **Faithful diagnostics.** A text without surrogates, of no more than 4096 octets:

* as the first delivery of diagnostics, in any run and at any time before their
  stream ends, it is the reason of the failure, letter by letter;
* as a delivery of progress, in an instant of its own, while the run is open and the
  stream too, it becomes the text of the indicator, without the blanks around it. -/
theorem faithful {x : Executor} (hs : x.indicator.start.2 = none) (args : List Text) {t : Text}
    (hne : t ≠ []) (ht : ∀ c ∈ t, c.isSurrogate = false) (hlen : (Utf8.encode t).length ≤ 4096) :
    (∀ before i after, (∀ j ∈ before, (arrival .err j).octets = []) →
      hasEnded .err before = false → (arrival .err i).octets = Utf8.encode t →
      (x.run args (.starts (before ++ i :: after))).2.result = .ok (.failed t none)) ∧
    (∀ before i after m, hasEnded .out before = false → Instant.IsProgress i →
      (arrival .out i).octets = Utf8.encode t →
      (x.run args (.starts (before ++ i :: after))).2.moments[before.length]? = some m →
      m.outcome = none →
      ∃ m', (x.run args (.starts (before ++ i :: after))).2.moments[before.length + 1]? = some m' ∧
        m'.text = t.strip) := by
  constructor
  · intro before i after hsilent ho ha
    have hrule : rulingOf (completed (before ++ i :: after)) = some (.diagnosed (Utf8.encode t)) :=
      rulingOf_of_text hne hlen hsilent ho ha
    have hresult := (run_of_ruling hs args hrule).1
    rw [hresult, Ruling.outcome, Utf8.decodeLossy_encode ht]
  · intro before i after m ho hi ha hm hopen
    have hcompleted : completed (before ++ i :: after) =
        before ++ i :: (after ++ missing (before ++ i :: after)) := by
      rw [completed, List.append_assoc, List.cons_append]
    have hbefore : (completed (before ++ i :: after)).take before.length = before := by
      rw [hcompleted, List.take_left]
    have hwith : (completed (before ++ i :: after)).take (before.length + 1) = before ++ [i] := by
      rw [hcompleted, List.take_length_add_append]
      rfl
    -- The run is open before the instant, and so it is after it.
    obtain ⟨hr, effects, rfl⟩ := reflects_of_moment hs hm
    rw [hbefore] at hr hopen
    have hrule : rulingOf (before ++ [i]) = none :=
      rulingOf_concat_of_isProgress hi ho (hr.rulingOf_eq_none hopen)
    have hlength : before.length + 1 ≤ (completed (before ++ i :: after)).length := by
      rw [hcompleted, List.length_append, List.length_cons]
      omega
    obtain ⟨effects', hm', -⟩ := moment_at hs args hlength
    rw [hwith] at hm'
    refine ⟨_, hm', ?_⟩
    have hr' := reflects_reached x.console x.begun_active (before ++ [i])
    have hopen' : (reached x.console x.begun (before ++ [i])).outcome = none := by
      rw [hr'.outcome, hrule]
      rfl
    calc
      (reached x.console x.begun (before ++ [i])).indicator.text
        = textAfter x.begun.text (piecesRead .out (before ++ [i])) := hr'.text hopen'
      _ = (Utf8.decodeLossy (Utf8.encode t)).strip := textAfter_of_text hne hlen _ ho ha
      _ = t.strip := by rw [Utf8.decodeLossy_encode ht]

/-- A blank, one letter for each number of octets, and a line end. -/
def letters : Text := [0x20, 0xE9, 0x20AC, 0x1D11E, 0x0A].map CodePoint.ofNat

theorem faithful_letters :
    (Executor.ready .standard true).indicator.start.2 = none ∧ letters ≠ [] ∧
      (∀ c ∈ letters, c.isSurrogate = false) ∧ (Utf8.encode letters).length ≤ 4096 ∧
      ((Executor.ready .standard true).run [] (.starts [[.data .out (Utf8.encode letters)],
        [.ended (.status 0)], [.data .err (Utf8.encode letters)]])).2.result =
        .ok (.failed letters none) ∧
      ∃ m, ((Executor.ready .standard true).run [] (.starts [[.data .out (Utf8.encode letters)],
        [.ended (.status 0)], [.data .err (Utf8.encode letters)]])).2.moments[1]? = some m ∧
        m.text = [0xE9, 0x20AC, 0x1D11E].map CodePoint.ofNat := by
  have hlength : (Utf8.encode letters).length = 11 := rfl
  have hlen : (Utf8.encode letters).length ≤ 4096 := by omega
  have hscalar : ∀ c ∈ letters, c.isSurrogate = false := by
    intro c hc
    simp only [letters, List.map_cons, List.map_nil, List.mem_cons, List.not_mem_nil,
      or_false] at hc
    rcases hc with rfl | rfl | rfl | rfl | rfl <;> rfl
  obtain ⟨hreason, hshown⟩ := faithful (x := Executor.ready .standard true) (by decide) []
    (t := letters) (by decide) hscalar hlen
  refine ⟨by decide, by decide, hscalar, hlen, ?_, ?_⟩
  · exact hreason [[.data .out (Utf8.encode letters)], [.ended (.status 0)]]
      [.data .err (Utf8.encode letters)] [] (by decide) (by decide) (by decide)
  · have hprogress : Instant.IsProgress [.data .out (Utf8.encode letters)] := by
      intro e he
      exact ⟨_, List.mem_singleton.mp he⟩
    obtain ⟨m, hm, htext⟩ := hshown [] [.data .out (Utf8.encode letters)]
      [[.ended (.status 0)], [.data .err (Utf8.encode letters)]] _ (by decide) hprogress
      (by decide) rfl rfl
    refine ⟨m, hm, ?_⟩
    rw [htext]
    decide

end SynthDesk.Engine
