/-
Where UTF-8 ends, and what is said about it.

Writing fails at the first half of a surrogate pair: UTF-8 has no octets for it. Reading
fails at the first octets that are no code point. Either failure tells where: the one the
halves that stand there in a row, the other the octets that were well begun and what is
wrong with the next one. Positions count code points of a text and octets of a file from zero.
-/
import SynthDesk.Text.Quoted
import SynthDesk.Text.Utf8

set_option autoImplicit false

namespace SynthDesk.Utf8

/-! ## Writing -/

/-- What cannot be written: the first half without octets, where it stands, and how many
halves follow it at once. -/
structure Unwritten where
  half : CodePoint
  position : Nat
  more : Nat
deriving DecidableEq, Repr

/-- How the failure reads: the text of `UnicodeEncodeError`. -/
def Unwritten.message (e : Unwritten) : Text :=
  Text.ofString "'utf-8' codec can't encode character" ++
    (if e.more = 0 then
      Text.ofString " '\\u" ++ Text.hex 4 e.half.val ++ Text.ofString "' in position " ++
        Text.ofNat e.position
    else
      Text.ofString "s in position " ++ Text.ofNat e.position ++ Text.ofString "-" ++
        Text.ofNat (e.position + e.more)) ++
    Text.ofString ": surrogates not allowed"

/-- Half of a surrogate pair. -/
def isHalf (c : CodePoint) : Bool := c.isHighSurrogate || c.isLowSurrogate

/-- The first code point of a kind, with the halves that follow it at once. -/
def firstOf (lacking : CodePoint → Bool) (t : Text) : Option Unwritten :=
  match t.dropWhile fun c => !lacking c with
  | [] => none
  | half :: r => some
    ⟨half, (t.takeWhile fun c => !lacking c).length, (r.takeWhile isHalf).length⟩

/-- **What of a text cannot be written**, as `str.encode` finds it. -/
def unwritten? (t : Text) : Option Unwritten := firstOf isHalf t

/-- There is one of the kind exactly where the search finds one. -/
theorem firstOf_eq_none_iff {lacking : CodePoint → Bool} {t : Text} :
    firstOf lacking t = none ↔ ∀ c ∈ t, lacking c = false := by
  have hnil : t.dropWhile (fun c => !lacking c) = [] ↔ ∀ c ∈ t, lacking c = false := by
    induction t with
    | nil => simp
    | cons c r ih => cases h : lacking c <;> simp [h, ih]
  rw [← hnil, firstOf]
  cases t.dropWhile fun c => !lacking c <;> simp

example : (unwritten? [0x61, 0xDCE9]).map Unwritten.message =
    some "'utf-8' codec can't encode character '\\udce9' in position 1: surrogates not allowed" := by
  decide +kernel

/-! ## Reading -/

/-- What is wrong with an octet that cannot be read, or with the end. -/
inductive Flaw
  | start
  | continuation
  | ending
deriving DecidableEq, Repr

/-- The words for it. -/
def Flaw.words : Flaw → Text
  | start => "invalid start byte"
  | continuation => "invalid continuation byte"
  | ending => "unexpected end of data"

/-- What cannot be read: the first octet of a code point, where it stands, how many octets of it
follow, and what is wrong then. -/
structure Unread where
  first : Octet
  position : Nat
  more : Nat
  flaw : Flaw
deriving DecidableEq, Repr

/-- How the failure reads: the text of `UnicodeDecodeError`. -/
def Unread.message (e : Unread) : Text :=
  Text.ofString "'utf-8' codec can't decode byte" ++
    (if e.more = 0 then
      Text.ofString " 0x" ++ Text.hex 2 e.first.val ++ Text.ofString " in position " ++
        Text.ofNat e.position
    else
      Text.ofString "s in position " ++ Text.ofNat e.position ++ Text.ofString "-" ++
        Text.ofNat (e.position + e.more)) ++
    Text.ofString ": " ++ e.flaw.words

/-- A code point that has begun, with its first octet and how many have followed. -/
structure Begun where
  first : Octet
  more : Nat
  pending : Pending
deriving DecidableEq, Repr

/-- The failure at an octet, or at the end, before a position. -/
def Begun.unread (b : Begun) (position : Nat) (flaw : Flaw) : Unread :=
  ⟨b.first, position - (b.more + 1), b.more, flaw⟩

/-- What has begun after one more octet. -/
def Begun.next (b : Option Begun) (o : Octet) (p : Pending) : Begun :=
  match b with
  | none => ⟨o, 0, p⟩
  | some b => ⟨b.first, b.more + 1, p⟩

/-- The text of octets from a position on. -/
def decodeFrom (position : Nat) (b : Option Begun) : List Octet → Except Unread Text
  | [] => match b with
    | none => .ok []
    | some b => .error (b.unread position .ending)
  | o :: r =>
    let (points, pending) := step (b.map Begun.pending) o
    match points, b with
    | none :: _, none => .error ⟨o, position, 0, .start⟩
    | none :: _, some b => .error (b.unread position .continuation)
    | some c :: _, _ => (decodeFrom (position + 1) none r).map (c :: ·)
    | [], _ => decodeFrom (position + 1) (pending.map (Begun.next b o)) r

/-- **Strict reading** that says why there is no text, as `bytes.decode` does. -/
def decode (bs : List Octet) : Except Unread Text := decodeFrom 0 none bs

/-- Two of the three octets that `E2` announces. -/
example : decode [0x61, 0xE2, 0x82] = .error ⟨0xE2, 1, 1, .ending⟩ := rfl

/-- A step gives nothing, one code point and an end, or something that is none. -/
theorem step_cases (p : Option Pending) (o : Octet) :
    (step p o).1 = [] ∨ (∃ c, step p o = ([some c], none)) ∨
      ∃ r, (step p o).1 = none :: r := by
  have hstart : (start o).1 = [] ∨ (∃ c, start o = ([some c], none)) ∨
      ∃ r, (start o).1 = none :: r := by
    unfold start
    simp only
    repeat' split
    all_goals simp
  cases p with
  | none => exact hstart
  | some p =>
    unfold step
    simp only
    split
    · split <;> simp
    · exact .inr (.inr ⟨_, rfl⟩)

/-- The reading with reasons has a text where the machine's results are complete, and that text. -/
theorem decodeFrom_toOption (position : Nat) (b : Option Begun) (bs : List Octet) :
    (decodeFrom position b bs).toOption = complete (run (b.map Begun.pending) bs) := by
  induction bs generalizing position b with
  | nil => cases b <;> rfl
  | cons o r ih =>
    have hrun : run (b.map Begun.pending) (o :: r) =
        (step (b.map Begun.pending) o).1 ++ run (step (b.map Begun.pending) o).2 r := by
      cases b <;> rfl
    rw [hrun, decodeFrom]
    rcases step_cases (b.map Begun.pending) o with h | ⟨c, h⟩ | ⟨rest, h⟩
    · have hpending : (step (b.map Begun.pending) o).2 =
          ((step (b.map Begun.pending) o).2.map (Begun.next b o)).map Begun.pending := by
        cases (step (b.map Begun.pending) o).2 with
        | none => rfl
        | some p => cases b <;> rfl
      rw [h, List.nil_append, hpending, ← ih (position + 1)]
      simp only [h]
    · have hmap : ∀ x : Except Unread Text, (x.map (c :: ·)).toOption = x.toOption.map (c :: ·) :=
        fun x => by cases x <;> rfl
      simp only [h, List.singleton_append, complete, hmap, ih (position + 1), Option.map_none]
    · simp only [h, List.cons_append, complete]
      cases b <;> rfl

/-- **The two strict readings** have the same texts. -/
theorem decode_toOption (bs : List Octet) : (decode bs).toOption = decode? bs :=
  decodeFrom_toOption 0 none bs

theorem decode_eq_ok_iff {bs : List Octet} {t : Text} :
    decode bs = .ok t ↔ decode? bs = some t := by
  rw [← decode_toOption]
  cases decode bs <;> simp [Except.toOption]

end SynthDesk.Utf8
