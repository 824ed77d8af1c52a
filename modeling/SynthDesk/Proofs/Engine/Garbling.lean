/-
Where text is garbled.

Every piece that is read is decoded by itself, whatever was read before it. A letter
of several octets that falls on two pieces is lost in both, and marks stand in its
place: in the text of the indicator, in the log, in the reason of a failure. Text that
is written by the process is otherwise never marked. So a run is legible exactly if
every piece ends between two letters; and as a reading takes 4096 octets, it does not
even help if the process writes everything at once.
-/
import SynthDesk.Proofs.Engine.Reuse
import SynthDesk.Proofs.Engine.Transcript
import SynthDesk.Proofs.Text.Cuts

set_option autoImplicit false

namespace SynthDesk.Engine

open Supervisor Executor

/-- **A legible report**: the mark of undecodable octets is in no text of the
indicator, in no record of what the process wrote, and not in the reason. -/
structure Report.Legible (r : Report) : Prop where
  texts : ∀ m ∈ r.moments, CodePoint.replacement ∉ m.text
  records : ∀ (k : Entry), ∀ n ∈ k.among r.effects, CodePoint.replacement ∉ n.message
  reason : ∀ reason code, r.result = .ok (.failed reason code) → CodePoint.replacement ∉ reason

/-! ## Where the mark can come from -/

/-- A record holds the mark exactly if its piece is decoded with one. -/
theorem Entry.replacement_mem_record_iff (k : Entry) (piece : List Octet) :
    CodePoint.replacement ∈ (k.record piece).message ↔
      CodePoint.replacement ∈ Utf8.decodeLossy piece := by
  have hopening : CodePoint.replacement ∉ k.opening := by
    cases k <;> decide
  rw [Entry.record, List.mem_append, or_iff_right hopening, Text.replacement_mem_strip_iff]

/-- There is no mark in a number. -/
theorem replacement_not_mem_ofInt (n : Int) : CodePoint.replacement ∉ Text.ofInt n := by
  have hdigits : ∀ m : Nat, CodePoint.replacement ∉ Text.ofNat m := by
    intro m h
    obtain ⟨c, hc, hmark⟩ := List.mem_map.mp h
    have hdigit := Nat.isDigit_of_mem_toDigits (by decide) (by decide) hc
    have hval : c.toNat = 0xFFFD := congrArg Fin.val hmark
    rw [Char.isDigit, Bool.and_eq_true, decide_eq_true_eq, decide_eq_true_eq] at hdigit
    have hle : c.toNat ≤ 57 := hdigit.2
    omega
  unfold Text.ofInt
  split
  · rw [List.mem_cons, not_or]
    exact ⟨by decide, hdigits _⟩
  · exact hdigits _

/-- The end of a whole history, unless it is the orderly one, is in the history itself. -/
theorem processEnd_of_lost {history : List Instant} {f : Mishap}
    (h : processEnd (completed history) = some (.lost f)) :
    processEnd history = some (.lost f) := by
  rw [completed, processEnd_append] at h
  cases hp : processEnd history with
  | some w =>
    rw [hp, Option.some_or] at h
    exact h
  | none =>
    rw [hp, Option.none_or, processEnd_missing hp] at h
    cases h

section Run

variable {x : Executor} (hs : x.indicator.start.2 = none) {args : List Text}
  {history : List Instant}
include hs

/-- The text at a moment is the one before the run, or comes from a piece of progress. -/
theorem exists_piece_of_text {m : Moment} (hm : m ∈ (x.run args (.starts history)).2.moments) :
    m.text = x.indicator.text ∨
      ∃ p ∈ piecesRead .out history, m.text = (Utf8.decodeLossy p).strip := by
  obtain ⟨k, hk⟩ := List.mem_iff_getElem?.mp hm
  obtain ⟨-, effects, rfl⟩ := reflects_of_moment hs hk
  obtain ⟨ps, hps, htext⟩ := (Reflects.started x.console x.begun_active).exists_text_follow
    (List.nil_subset _) rfl ((completed history).take k)
  -- What is read in a part of the history is read in all of it.
  have hall : ps ⊆ piecesRead .out history := by
    rw [← piecesRead_completed, ← List.take_append_drop k (completed history), piecesRead_append]
    exact List.subset_append_of_subset_left _ hps
  have hbegun : x.begun.text = x.indicator.text := Indicator.start_text _
  rw [hbegun] at htext
  rcases textAfter_cases x.indicator.text ps with hsame | ⟨p, hp, hshown⟩
  · exact .inl (htext.trans hsame)
  · exact .inr ⟨p, hall hp, htext.trans hshown⟩

/-- The reason of a failure is a piece of diagnostics, or a status, or the fault of a
wait. -/
theorem exists_piece_of_reason {reason : Text} {code : Option Int}
    (h : (x.run args (.starts history)).2.result = .ok (.failed reason code)) :
    (∃ p ∈ piecesRead .err history, reason = Utf8.decodeLossy p) ∨
      (∃ n, reason = statusReason n) ∨
      ∃ f, processEnd history = some (.lost f) ∧ reason = f.message := by
  cases hp : piecesRead .err (completed history) with
  | cons p r =>
    rw [(run_of_ruling hs args (rulingOf_of_cons hp)).1] at h
    cases h
    refine .inl ⟨p, ?_, rfl⟩
    rw [← piecesRead_completed, hp]
    exact List.mem_cons_self
  | nil =>
    have hc := isComplete_completed history
    obtain ⟨w, hw⟩ := Option.isSome_iff_exists.mp hc.2.2
    rw [(run_of_ruling hs args (rulingOf_of_isComplete hp hc hw)).1] at h
    cases w with
    | status n =>
      rw [Ruling.outcome] at h
      split at h
      · cases h
      · cases h
        exact .inr (.inl ⟨n, rfl⟩)
    | lost f =>
      cases h
      exact .inr (.inr ⟨f, processEnd_of_lost hw, rfl⟩)

/-- **A run is legible exactly if every piece is decoded without a mark**, as long as
no other text brings one in. -/
theorem legible_iff_pieces (htext : CodePoint.replacement ∉ x.indicator.text)
    (hlost : ∀ f, processEnd history = some (.lost f) → CodePoint.replacement ∉ f.message) :
    (x.run args (.starts history)).2.Legible ↔
      ∀ stream, ∀ p ∈ piecesRead stream history, CodePoint.replacement ∉ Utf8.decodeLossy p := by
  constructor
  · intro h stream p hp
    -- The records alone hold every piece.
    have hrecorded : ∀ k : Entry, p ∈ k.due history →
        CodePoint.replacement ∉ Utf8.decodeLossy p := by
      intro k hdue
      rw [← k.replacement_mem_record_iff]
      apply h.records k
      rw [Entry.among_run hs]
      exact List.mem_map_of_mem hdue
    cases stream with
    | out => exact hrecorded .progress hp
    | err =>
      rw [← List.take_append_drop 1 (piecesRead .err history), List.mem_append] at hp
      rcases hp with hp | hp
      · exact hrecorded .diagnosis hp
      · exact hrecorded .late hp
  · intro h
    refine ⟨?_, ?_, ?_⟩
    · intro m hm
      rcases exists_piece_of_text hs hm with hsame | ⟨p, hp, hshown⟩
      · rwa [hsame]
      · rw [hshown, Text.replacement_mem_strip_iff]
        exact h .out p hp
    · intro k n hn
      rw [Entry.among_run hs, List.mem_map] at hn
      obtain ⟨p, hp, rfl⟩ := hn
      rw [k.replacement_mem_record_iff]
      cases k with
      | progress => exact h .out p hp
      | diagnosis => exact h .err p (List.mem_of_mem_take hp)
      | late => exact h .err p (List.mem_of_mem_drop hp)
    · intro reason code hreason
      rcases exists_piece_of_reason hs hreason with ⟨p, hp, rfl⟩ | ⟨n, rfl⟩ | ⟨f, hf, rfl⟩
      · exact h .err p hp
      · rw [statusReason, List.mem_append, not_or]
        exact ⟨by decide, replacement_not_mem_ofInt n⟩
      · exact hlost f hf

end Run

/-! ## The law -/

/-- **Cuts garble text.** The process writes a clean text to each stream, and all of it
is delivered, in whatever portions. Then the run is legible exactly if every piece that
is read ends between two code points of the text. -/
theorem legible_iff_cuts {x : Executor} (hs : x.indicator.start.2 = none) (args : List Text)
    {history : List Instant} {written : Stream → Text} (hclean : ∀ stream, (written stream).Clean)
    (hdelivered : ∀ stream, (deliveries stream history).flatten = Utf8.encode (written stream))
    (htext : CodePoint.replacement ∉ x.indicator.text)
    (hlost : ∀ f, processEnd history = some (.lost f) → CodePoint.replacement ∉ f.message) :
    (x.run args (.starts history)).2.Legible ↔
      ∀ stream n, (written stream).CutAt ((piecesRead stream history).take n).flatten.length := by
  rw [legible_iff_pieces hs htext hlost]
  apply forall_congr'
  intro stream
  apply Utf8.markless_pieces_iff (hclean stream)
  rw [← hdelivered stream]
  exact deliveries_begin_with_piecesRead stream history

/-- As many octets as one reading takes, but for one. -/
def filling : Text := List.replicate 4095 (CodePoint.ofNat 0x61)

/-- A line of progress with a letter on the border of a reading. -/
def longLine : Text := filling ++ [CodePoint.ofNat 0xE9]

theorem length_encode_filling : (Utf8.encode filling).length = 4095 := by
  have hone : (Utf8.encodePoint (CodePoint.ofNat 0x61)).length = 1 := rfl
  rw [filling, Utf8.encode, List.length_flatMap, List.map_replicate, List.sum_replicate_nat, hone]

theorem longLine_clean : longLine.Clean := by
  refine ⟨?_, ?_⟩
  · intro c hc
    rw [longLine, filling, List.mem_append, List.mem_replicate, List.mem_singleton] at hc
    rcases hc with ⟨-, rfl⟩ | rfl <;> rfl
  · rw [longLine, filling, List.mem_append, List.mem_replicate, List.mem_singleton]
    rintro (⟨-, hc⟩ | hc)
    · exact absurd hc (by decide)
    · exact absurd hc (by decide)

/-- One octet into the last letter is no cut. -/
theorem not_cutAt_longLine : ¬ longLine.CutAt ((Utf8.encode filling).length + 1) := by
  have hclean := longLine_clean
  rw [longLine] at hclean ⊢
  rw [Text.cutAt_append_iff hclean]
  rintro ⟨v, w, hsplit, hlen⟩
  rcases v with _ | ⟨c, r⟩
  · cases hlen
  · obtain ⟨rfl, hr⟩ := List.cons.inj hsplit
    rw [(List.append_eq_nil_iff.mp hr.symm).1] at hlen
    cases hlen

/-- The process writes the line at once, and nothing else. -/
def atOnce : List Instant := [[.data .out (Utf8.encode longLine)]]

/-- What is written to each stream then. -/
def lineWritten : Stream → Text
  | .out => longLine
  | .err => []

/-- The first piece ends one octet into the last letter. -/
theorem length_first_atOnce : ((piecesRead .out atOnce).take 1).flatten.length =
    (Utf8.encode filling).length + 1 := by
  have hlength : (Utf8.encode longLine).length = 4097 := by
    have htwo : (Utf8.encode [CodePoint.ofNat 0xE9]).length = 2 := rfl
    rw [longLine, Utf8.encode_append, List.length_append, length_encode_filling, htwo]
  have hne : Utf8.encode longLine ≠ [] := by
    intro hnil
    rw [hnil, List.length_nil] at hlength
    omega
  have hpieces : piecesRead .out atOnce = pieces (Utf8.encode longLine) := by
    simp [atOnce, piecesRead, arrival, Arrival.nothing, Arrival.pieces]
  rw [hpieces, pieces_eq_cons hne, List.take_succ_cons, List.flatten_cons, List.take_zero,
    List.flatten_nil, List.append_nil, List.length_take, hlength, length_encode_filling]
  omega

/-- A line that is written at once is garbled all the same. -/
theorem legible_iff_cuts_atOnce :
    (Executor.ready .standard true).indicator.start.2 = none ∧
      (∀ stream, (lineWritten stream).Clean) ∧
      (∀ stream, (deliveries stream atOnce).flatten = Utf8.encode (lineWritten stream)) ∧
      CodePoint.replacement ∉ (Executor.ready .standard true).indicator.text ∧
      (∀ f, processEnd atOnce = some (.lost f) → CodePoint.replacement ∉ f.message) ∧
      ¬ ((Executor.ready .standard true).run [] (.starts atOnce)).2.Legible := by
  have hclean : ∀ stream, (lineWritten stream).Clean := by
    intro stream
    cases stream with
    | out => exact longLine_clean
    | err => exact ⟨List.forall_mem_nil _, List.not_mem_nil⟩
  have hdelivered : ∀ stream, (deliveries stream atOnce).flatten =
      Utf8.encode (lineWritten stream) := by
    intro stream
    cases stream with
    | out => simp [atOnce, deliveries, arrival, Arrival.nothing, lineWritten]
    | err => rfl
  have hlost : ∀ f, processEnd atOnce = some (.lost f) → CodePoint.replacement ∉ f.message := by
    intro f hf
    cases hf
  refine ⟨by decide, hclean, hdelivered, by decide, hlost, ?_⟩
  rw [legible_iff_cuts (by decide) [] hclean hdelivered (by decide) hlost]
  intro hcut
  have hfirst : longLine.CutAt ((piecesRead .out atOnce).take 1).flatten.length := hcut .out 1
  rw [length_first_atOnce] at hfirst
  exact not_cutAt_longLine hfirst

/-- Two letters, each of them written in two portions. -/
def splitLetters : List Instant :=
  [[.data .out [Utf8.octet 0xC3]], [.data .out [Utf8.octet 0xA9]],
    [.data .err [Utf8.octet 0xF0, Utf8.octet 0x9F]],
    [.data .err [Utf8.octet 0x98, Utf8.octet 0x80]]]

/-- Then there is no letter left, in the text, in the log and in the reason. -/
theorem splitLetters_garbled :
    Text.Clean [CodePoint.ofNat 0xE9] ∧ Text.Clean [CodePoint.ofNat 0x1F600] ∧
      (deliveries .out splitLetters).flatten = Utf8.encode [CodePoint.ofNat 0xE9] ∧
      (deliveries .err splitLetters).flatten = Utf8.encode [CodePoint.ofNat 0x1F600] ∧
      (∃ m ∈ ((Executor.ready .standard true).run [] (.starts splitLetters)).2.moments,
        m.text = [CodePoint.replacement]) ∧
      (Entry.late.among
        ((Executor.ready .standard true).run [] (.starts splitLetters)).2.effects).map (·.message) =
        [Entry.late.opening ++ [CodePoint.replacement, CodePoint.replacement]] ∧
      ((Executor.ready .standard true).run [] (.starts splitLetters)).2.result =
        .ok (.failed [CodePoint.replacement] none) := by
  have hclean : ∀ c : CodePoint, c.isSurrogate = false → c ≠ CodePoint.replacement →
      Text.Clean [c] := by
    intro c hc hmark
    refine ⟨?_, ?_⟩
    · intro d hd
      rw [List.mem_singleton.mp hd, hc]
    · rw [List.mem_singleton]
      exact Ne.symm hmark
  refine ⟨hclean _ rfl (by decide), hclean _ rfl (by decide), rfl, rfl, ?_, rfl, rfl⟩
  exact ⟨_, List.mem_of_getElem? (i := 1) rfl, rfl⟩

end SynthDesk.Engine
