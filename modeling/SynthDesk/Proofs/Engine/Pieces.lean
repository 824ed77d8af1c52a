/-
Deliveries, and the pieces they are read in.

What arrives on a stream between two looks at it is one delivery. The reader takes
it in pieces of 4096 octets, the last one perhaps shorter; and there is only one
way to cut a delivery so. Of a stream that is never broken everything is read: the
pieces of its deliveries, one delivery after another. A broken one keeps its end
back, so that in general what is read is how the deliveries begin.
-/
import SynthDesk.Proofs.Engine.History

set_option autoImplicit false

namespace SynthDesk.Engine

/-! ## One delivery -/

/-- **Cut as a reader cuts**: consecutive pieces, all of them full but the last
one, which may be shorter. No piece is empty. -/
structure CutInto (octets : List Octet) (ps : List (List Octet)) : Prop where
  flatten : ps.flatten = octets
  full : ∀ p ∈ ps.dropLast, p.length = 4096
  last : ∀ p, ps.getLast? = some p → 0 < p.length ∧ p.length ≤ 4096

section Cutting

variable {octets p : List Octet} {ps : List (List Octet)}

theorem cutInto_nil_iff : CutInto octets [] ↔ octets = [] := by
  constructor
  · intro h
    exact h.flatten.symm
  · intro h
    refine ⟨h.symm, List.forall_mem_nil _, ?_⟩
    intro p hp
    cases hp

/-- Where there are pieces there are octets. -/
theorem CutInto.ne_nil (h : CutInto octets ps) (hne : ps ≠ []) : octets ≠ [] := by
  intro hnil
  have hlast := (h.last _ (List.getLast?_eq_some_getLast hne)).1
  have hempty : ps.getLast hne = [] := by
    have hflat := h.flatten
    rw [hnil, List.flatten_eq_nil_iff] at hflat
    exact hflat _ (List.getLast_mem hne)
  rw [hempty] at hlast
  exact absurd hlast (Nat.lt_irrefl 0)

/-- **The first piece** is as much as one reading takes, and the others are cut
from what is left. -/
theorem cutInto_cons_iff :
    CutInto octets (p :: ps) ↔
      octets ≠ [] ∧ p = octets.take 4096 ∧ CutInto (octets.drop 4096) ps := by
  constructor
  · intro h
    have hflat : p ++ ps.flatten = octets := h.flatten
    refine ⟨h.ne_nil (List.cons_ne_nil p ps), ?_⟩
    by_cases hps : ps = []
    · -- The only piece is the whole delivery.
      subst hps
      rw [List.flatten_nil, List.append_nil] at hflat
      have hlen : octets.length ≤ 4096 := hflat ▸ (h.last p rfl).2
      rw [List.take_of_length_le hlen, List.drop_of_length_le hlen]
      exact ⟨hflat, cutInto_nil_iff.mpr rfl⟩
    · have hp : p.length = 4096 := by
        apply h.full
        rw [List.dropLast_cons_of_ne_nil hps]
        exact List.mem_cons_self
      refine ⟨?_, ?_, ?_, ?_⟩
      · rw [← hflat, ← hp, List.take_left]
      · rw [← hflat, ← hp, List.drop_left]
      · intro q hq
        apply h.full
        rw [List.dropLast_cons_of_ne_nil hps]
        exact List.mem_cons_of_mem p hq
      · intro q hq
        apply h.last
        rw [List.getLast?_cons, hq, Option.getD_some]
  · rintro ⟨hne, rfl, h⟩
    refine ⟨?_, ?_, ?_⟩
    · rw [List.flatten_cons, h.flatten, List.take_append_drop]
    · intro q hq
      by_cases hps : ps = []
      · rw [hps] at hq
        cases hq
      · -- Something is left, so the first piece is full.
        rw [List.dropLast_cons_of_ne_nil hps, List.mem_cons] at hq
        rcases hq with rfl | hq
        · have hleft : 0 < (octets.drop 4096).length := List.length_pos_iff.mpr (h.ne_nil hps)
          rw [List.length_drop] at hleft
          rw [List.length_take]
          omega
        · exact h.full q hq
    · intro q hq
      by_cases hps : ps = []
      · rw [hps, List.getLast?_singleton, Option.some.injEq] at hq
        have hpos := List.length_pos_iff.mpr hne
        rw [← hq, List.length_take]
        omega
      · apply h.last
        rwa [List.getLast?_cons, List.getLast?_eq_some_getLast hps, Option.getD_some,
          ← List.getLast?_eq_some_getLast hps] at hq

/-- **There is one way to cut a delivery**, and the reader's is it. -/
theorem cutInto_iff : CutInto octets ps ↔ ps = pieces octets := by
  -- The number that bounds the pieces may be any that is not less than the octets.
  have hwithin : ∀ (n : Nat) (octets : List Octet) (ps : List (List Octet)),
      octets.length ≤ n → (CutInto octets ps ↔ ps = piecesWithin n octets) := by
    intro n
    induction n with
    | zero =>
      intro octets ps hn
      have hnil : octets = [] := List.length_eq_zero_iff.mp (Nat.le_zero.mp hn)
      cases ps with
      | nil => simp [cutInto_nil_iff, hnil, piecesWithin]
      | cons p r => simp [cutInto_cons_iff, hnil, piecesWithin]
    | succ n ih =>
      intro octets ps hn
      by_cases hnil : octets = []
      · cases ps with
        | nil => simp [cutInto_nil_iff, hnil, piecesWithin]
        | cons p r => simp [cutInto_cons_iff, hnil, piecesWithin]
      · have hpos := List.length_pos_iff.mpr hnil
        have hless : (octets.drop 4096).length ≤ n := by
          rw [List.length_drop]
          omega
        have hunfold : piecesWithin (n + 1) octets =
            octets.take 4096 :: piecesWithin n (octets.drop 4096) := by
          rw [piecesWithin, if_neg (by rwa [List.isEmpty_iff])]
          rfl
        cases ps with
        | nil => simp [cutInto_nil_iff, hnil, hunfold]
        | cons p r => simp [cutInto_cons_iff, hnil, hunfold, ih _ _ hless]
  exact hwithin octets.length octets ps (Nat.le_refl _)

theorem cutInto_pieces (octets : List Octet) : CutInto octets (pieces octets) := cutInto_iff.mpr rfl

theorem flatten_pieces (octets : List Octet) : (pieces octets).flatten = octets :=
  (cutInto_pieces octets).flatten

@[simp] theorem pieces_nil : pieces [] = [] := rfl

theorem pieces_eq_cons (hne : octets ≠ []) :
    pieces octets = octets.take 4096 :: pieces (octets.drop 4096) := by
  symm
  rw [← cutInto_iff, cutInto_cons_iff]
  exact ⟨hne, rfl, cutInto_pieces _⟩

/-- What one reading takes is one piece. -/
theorem pieces_of_length_le (hne : octets ≠ []) (hlen : octets.length ≤ 4096) :
    pieces octets = [octets] := by
  rw [pieces_eq_cons hne, List.take_of_length_le hlen, List.drop_of_length_le hlen, pieces_nil]

end Cutting

/-- Of what one reading takes nothing is lost, however the stream ends. -/
theorem Arrival.pieces_of_length_le {a : Arrival} (hne : a.octets ≠ [])
    (hlen : a.octets.length ≤ 4096) : a.pieces = [a.octets] := by
  rw [Arrival.pieces, Engine.pieces_of_length_le hne hlen]
  split <;> rfl

theorem Arrival.pieces_of_nil {a : Arrival} (h : a.octets = []) : a.pieces = [] := by
  rw [Arrival.pieces, h]
  split <;> rfl

/-! ## One stream -/

/-- **The deliveries** on a stream: what arrived in every instant, up to the one in
which the stream ends. -/
def deliveries (stream : Stream) : List Instant → List (List Octet)
  | [] => []
  | i :: r =>
    (arrival stream i).octets ::
      if (arrival stream i).ending.isSome then [] else deliveries stream r

/-- How the stream ends, if it does. -/
def endingOf (stream : Stream) : List Instant → Option Ending
  | [] => none
  | i :: r => (arrival stream i).ending.or (endingOf stream r)

/-- **Of a stream that is never broken everything is read.** -/
theorem piecesRead_of_unbroken {stream : Stream} {h : List Instant}
    (hu : endingOf stream h ≠ some .broken) :
    piecesRead stream h = (deliveries stream h).flatMap pieces := by
  induction h with
  | nil => rfl
  | cons i r ih =>
    cases he : (arrival stream i).ending with
    | none =>
      have hrest : endingOf stream r ≠ some .broken := by
        rwa [endingOf, he, Option.none_or] at hu
      simp [piecesRead, deliveries, Arrival.pieces, he, ih hrest]
    | some e =>
      have hclosed : e ≠ .broken := by
        rw [endingOf, he, Option.some_or] at hu
        exact fun heq => hu (congrArg some heq)
      simp [piecesRead, deliveries, Arrival.pieces, he, hclosed]

/-- What is read in an instant is how its delivery begins. -/
theorem Arrival.begins_with_pieces (a : Arrival) : a.pieces.flatten <+: a.octets := by
  have hall : (Engine.pieces a.octets).flatten = a.octets := flatten_pieces a.octets
  rw [Arrival.pieces]
  split
  · -- A broken stream gives its first piece only.
    refine ⟨((Engine.pieces a.octets).drop 1).flatten, ?_⟩
    rw [← List.flatten_append, List.take_append_drop, hall]
  · refine ⟨[], ?_⟩
    rw [List.append_nil, hall]

/-- **What is read on a stream** is how its deliveries begin. -/
theorem deliveries_begin_with_piecesRead (stream : Stream) (h : List Instant) :
    (piecesRead stream h).flatten <+: (deliveries stream h).flatten := by
  induction h with
  | nil => exact List.prefix_refl _
  | cons i r ih =>
    rw [piecesRead, deliveries, List.flatten_append, List.flatten_cons]
    cases he : (arrival stream i).ending with
    | none =>
      -- While the stream goes on its deliveries are read to their end.
      have hall : (arrival stream i).pieces.flatten = (arrival stream i).octets := by
        rw [Arrival.pieces, he, if_neg (by decide), flatten_pieces]
      rw [hall]
      exact (List.prefix_append_right_inj _).mpr ih
    | some e =>
      simpa using Arrival.begins_with_pieces (arrival stream i)

end SynthDesk.Engine
