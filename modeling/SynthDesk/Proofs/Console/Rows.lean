/-
The rows of a text.

No row asks for a style that the text did not ask for; so where all styles of a text can be
looked up, showing it is no fault.

A text whose lines all fit in the columns that are free is laid out line for line: no line
is broken, none is cut off, and each is filled up with blanks. Two things could come between.
A text is measured stretch by stretch, so the spans must not end after a joiner. And a line
with more code points than columns, which has to hold some that take none, loses blanks at
its end before it is filled up.
-/
import SynthDesk.Console.Styled
import SynthDesk.Proofs.Text.Columns
import Mathlib.Data.List.Forall2

set_option autoImplicit false

namespace SynthDesk.Console.Styled

variable {s : Styled}

/-! ## Parts -/

section Parts

variable {Q : Styled → Prop}

/-- What holds of all parts of a text holds of the rows that it is cut into. -/
theorem forall_mem_partsFrom (hpart : ∀ start stop, Q (s.part start stop)) (start : Nat)
    (places : List Nat) : ∀ row ∈ s.partsFrom start places, Q row := by
  induction places generalizing start with
  | nil => exact List.forall_mem_singleton.mpr (hpart _ _)
  | cons p r ih => exact List.forall_mem_cons.mpr ⟨hpart _ _, ih p⟩

theorem forall_mem_stretchesFrom (hpart : ∀ start stop, Q (s.part start stop)) (start : Nat)
    (ts : List Text) : ∀ row ∈ s.stretchesFrom start ts, Q row := by
  induction ts generalizing start with
  | nil => exact List.forall_mem_nil _
  | cons t r ih => exact List.forall_mem_cons.mpr ⟨hpart _ _, ih _⟩

/-- A text of one line is no part of itself: it keeps spans that cover nothing. -/
theorem forall_mem_lines (hself : Q s) (hpart : ∀ start stop, Q (s.part start stop)) :
    ∀ line ∈ s.lines, Q line := by
  have hpieces : ∀ (ts : List Text) (start : Nat), ∀ line ∈ s.piecesFrom start ts, Q line := by
    intro ts
    induction ts with
    | nil => exact fun _ => List.forall_mem_nil _
    | cons t r ih => exact fun start => List.forall_mem_cons.mpr ⟨hpart _ _, ih _⟩
  unfold Styled.lines
  split
  · exact hpieces _ _
  · exact List.forall_mem_singleton.mpr hself

end Parts

/-! ## Styles of rows -/

section Styles

variable {P : Option Text → Prop}

/-- All styles of the text are of a kind. -/
def Asks (P : Option Text → Prop) (s : Styled) : Prop := ∀ p ∈ s.spans, P p.style

theorem Asks.part (h : s.Asks P) (start stop : Nat) : (s.part start stop).Asks P := by
  intro p hp
  obtain ⟨q, hq, hqp⟩ := List.mem_filterMap.mp hp
  dsimp only at hqp
  split at hqp
  · obtain rfl := Option.some.inj hqp
    exact h q hq
  · cases hqp

theorem Asks.cutAt (h : s.Asks P) (places : List Nat) : ∀ row ∈ s.cutAt places, row.Asks P := by
  unfold Styled.cutAt
  split
  · exact List.forall_mem_singleton.mpr h
  · exact forall_mem_partsFrom h.part 0 places

theorem asks_join {rows : List Styled} (h : ∀ row ∈ rows, row.Asks P) :
    (Styled.join rows).Asks P := by
  induction rows with
  | nil =>
    intro p hp
    cases hp
  | cons row r ih =>
    intro p hp
    rcases List.mem_append.mp hp with hp | hp
    · exact h row List.mem_cons_self p hp
    · obtain ⟨q, hq, rfl⟩ := List.mem_map.mp hp
      exact ih (fun other hother => h other (List.mem_cons_of_mem _ hother)) q hq

theorem asks_fillTabs {rows : List Styled} (h : ∀ row ∈ rows, row.Asks P) (column : Nat) :
    ∀ row ∈ fillTabs column rows, row.Asks P := by
  induction rows generalizing column with
  | nil =>
    intro row hrow
    cases hrow
  | cons first r ih =>
    intro row hrow
    rcases List.mem_cons.mp hrow with rfl | hrow
    · intro p hp
      obtain ⟨q, hq, rfl⟩ := List.mem_map.mp hp
      have hstyle := h first List.mem_cons_self q hq
      split <;> exact hstyle
    · exact ih (fun other hother => h other (List.mem_cons_of_mem _ hother)) _ row hrow

theorem Asks.expandTabs (h : s.Asks P) : s.expandTabs.Asks P := by
  unfold Styled.expandTabs
  split
  · exact asks_join (asks_fillTabs (forall_mem_stretchesFrom h.part _ _) 0)
  · exact h

theorem Asks.crop (h : s.Asks P) (length : Nat) : (s.crop length).Asks P := by
  intro p hp
  obtain ⟨q, hq, hqp⟩ := List.mem_filterMap.mp hp
  split at hqp
  · obtain rfl := Option.some.inj hqp
    exact h q hq
  · cases hqp

theorem Asks.settle (h : s.Asks P) (columns : Nat) : (s.settle columns).Asks P := by
  have htrim : (s.trimEnd columns).Asks P := by
    unfold trimEnd
    dsimp only
    split
    · exact h
    · exact h.crop _
  unfold Styled.settle truncate
  split
  · exact htrim
  · dsimp only
    split
    · exact htrim.crop _
    · exact htrim

/-- **No row asks for a style that the text does not ask for.** -/
theorem Asks.wrap (h : s.Asks P) (columns : Nat) : ∀ row ∈ s.wrap columns, row.Asks P := by
  intro row hrow
  obtain ⟨line, hline, hrow⟩ := List.mem_flatMap.mp hrow
  obtain ⟨piece, hpiece, rfl⟩ := List.mem_map.mp hrow
  have hasks : line.Asks P := forall_mem_lines h h.part line hline
  exact (hasks.expandTabs.cutAt _ piece hpiece).settle columns

/-- Styles that can be looked up are no fault. -/
theorem fault?_eq_none (h : s.Asks fun style => style.bind StyleName.fault? = none) :
    s.fault? = none :=
  List.findSome?_eq_none_iff.mpr h

end Styles

/-! ## Places that a text can be cut at -/

theorem mem_borders {place : Nat} :
    place ∈ s.borders ↔
      (∃ p ∈ s.spans, place = p.start ∨ place = p.stop) ∧ 0 < place ∧ place < s.text.length := by
  simp [borders]

theorem pairwise_borders : s.borders.Pairwise (· ≤ ·) := by
  have hsorted : s.borders.Pairwise fun a b => decide (a ≤ b) = true :=
    List.pairwise_mergeSort (by simp only [decide_eq_true_eq]; omega)
      (by simp only [Bool.or_eq_true, decide_eq_true_eq]; omega) _
  exact hsorted.imp of_decide_eq_true

/-- No stretch of the text ends in a joiner, but perhaps the last one. -/
def Seamed (s : Styled) : Prop := ∀ place ∈ s.borders, Text.Seam s.text place

/-- The borders of a part are borders of the text. -/
theorem mem_borders_of_part {start stop place : Nat} (h : place ∈ (s.part start stop).borders) :
    start + place ∈ s.borders ∧ place < stop - start := by
  obtain ⟨⟨p, hp, hplace⟩, hpos, hlt⟩ := mem_borders.mp h
  obtain ⟨q, hq, hqp⟩ := List.mem_filterMap.mp hp
  have hlength : place < min (stop - start) (s.text.length - start) := by
    rwa [part, List.length_take, List.length_drop] at hlt
  dsimp only at hqp
  split at hqp
  · obtain rfl := Option.some.inj hqp
    dsimp only at hplace
    -- A span that reaches out of the part ends where the part does, which is no border.
    exact ⟨mem_borders.mpr ⟨⟨q, hq, by omega⟩, by omega, by omega⟩, by omega⟩
  · cases hqp

theorem Seamed.part (h : s.Seamed) (start stop : Nat) : (s.part start stop).Seamed := by
  intro place hplace hopen
  obtain ⟨hborder, hlt⟩ := mem_borders_of_part hplace
  apply h _ hborder
  rw [Styled.part, List.take_take, Nat.min_eq_left (Nat.le_of_lt hlt)] at hopen
  rw [List.take_add]
  exact hopen.append_left _

theorem Seamed.crop (h : s.Seamed) (length : Nat) : (s.crop length).Seamed := by
  intro place hplace
  obtain ⟨⟨p, hp, hend⟩, hpos, hlt⟩ := mem_borders.mp hplace
  obtain ⟨q, hq, hqp⟩ := List.mem_filterMap.mp hp
  have hlength : place < min length s.text.length := by
    rwa [Styled.crop, List.length_take] at hlt
  split at hqp
  · obtain rfl := Option.some.inj hqp
    dsimp only at hend
    have hborder : place ∈ s.borders := mem_borders.mpr ⟨⟨q, hq, by omega⟩, hpos, by omega⟩
    have htake : (s.text.take length).take place = s.text.take place := by
      rw [List.take_take, Nat.min_eq_left (by omega)]
    rw [Text.Seam, Styled.crop, htake]
    exact h place hborder
  · cases hqp

/-! ## Drawing -/

/-- **Stretches are no wider together** than the text. -/
theorem widths_partsFrom_le {start : Nat} {places : List Nat}
    (hsorted : (start :: places).Pairwise (· ≤ ·))
    (hseams : ∀ place ∈ places, Text.Seam s.text place) :
    Text.widths ((s.partsFrom start places).map Styled.text) ≤ Text.width (s.text.drop start) := by
  induction places generalizing start with
  | nil =>
    have hall : (s.text.drop start).take (s.text.length - start) = s.text.drop start := by
      rw [← List.length_drop, List.take_length]
    simp [partsFrom, part, Text.widths, hall]
  | cons p r ih =>
    obtain ⟨hstart, hr⟩ := List.pairwise_cons.mp hsorted
    obtain ⟨hseam, hseams⟩ := List.forall_mem_cons.mp hseams
    have hp : start ≤ p := hstart p List.mem_cons_self
    have hsplit : s.text.drop start = (s.part start p).text ++ s.text.drop p := by
      have hdrop : s.text.drop p = (s.text.drop start).drop (p - start) := by
        rw [List.drop_drop, Nat.add_sub_cancel' hp]
      rw [part, hdrop, List.take_append_drop]
    -- The first stretch ends where the text before the place does.
    have hclosed : ¬ Text.EndsOpen (s.part start p).text := by
      intro hopen
      apply hseam
      rw [← Nat.add_sub_cancel' hp, List.take_add]
      exact hopen.append_left _
    have hrest := ih hr hseams
    have hadd := Text.width_add_le hclosed (s.text.drop p)
    rw [← hsplit] at hadd
    rw [partsFrom, List.map_cons, Text.widths]
    omega

theorem stretchesWidth_eq (ts : List Text) : stretchesWidth ts = Text.widths ts := by
  have hfold : ∀ used, ts.foldl (fun n t => n + t.width) used = used + Text.widths ts := by
    induction ts with
    | nil => exact fun _ => rfl
    | cons t r ih =>
      intro used
      rw [List.foldl_cons, ih, Text.widths, Nat.add_assoc]
  rw [stretchesWidth, hfold, Nat.zero_add]

theorem stretchesWidth_le (h : s.Seamed) : stretchesWidth s.stretches ≤ s.text.width := by
  have hsorted : (0 :: s.borders).Pairwise (· ≤ ·) :=
    List.pairwise_cons.mpr ⟨fun place _ => Nat.zero_le place, pairwise_borders⟩
  rw [stretchesWidth_eq, stretches, Text.widths_filter]
  exact widths_partsFrom_le hsorted h

/-- **A line that has room is drawn as it is**, with blanks after it. -/
theorem exists_drawIn_eq (h : s.Seamed) {columns : Nat} (hwidth : s.text.width ≤ columns) :
    ∃ n, s.drawIn columns = s.text ++ Text.fill n ' ' := by
  have hle : stretchesWidth s.stretches ≤ columns := Nat.le_trans (stretchesWidth_le h) hwidth
  rw [drawIn, if_pos hle]
  exact ⟨_, rfl⟩

/-! ## Lines -/

/-- A line for which there is room, as it is laid out: it may have lost blanks at its end, if
it holds code points that take no column. -/
structure Fits (columns : Nat) (line : Text) (row : Styled) : Prop where
  seamed : row.Seamed
  width : row.text.width ≤ columns
  shown : ∃ trail, line = row.text ++ trail ∧ Text.isBlank trail = true ∧
    (trail ≠ [] → ∃ c ∈ line, c.width = 0)

theorem trimEnd_fits (h : s.Seamed) {columns : Nat} (hwidth : s.text.width ≤ columns) :
    Fits columns s.text (s.trimEnd columns) := by
  unfold trimEnd
  dsimp only
  split
  · exact ⟨h, hwidth, [], (List.append_nil _).symm, rfl, fun hne => absurd rfl hne⟩
  · next hexcess =>
    have hmore : s.text.width < s.text.length := by
      simp only [Bool.or_eq_true, decide_eq_true_eq] at hexcess
      omega
    obtain ⟨blanks, hsplit, -⟩ := Text.exists_blanks_stripEnd s.text
    have hlength := congrArg List.length hsplit
    rw [List.length_append] at hlength
    -- No more than the blanks at the end is left out.
    exact ⟨h.crop _, Nat.le_trans (Text.width_take_le _ _) hwidth, s.text.drop _,
      (List.take_append_drop _ _).symm, Text.isBlank_drop (by omega),
      fun _ => Text.exists_width_eq_zero hmore⟩

/-- What has room is not cut off. -/
theorem truncate_eq_self {columns : Nat} (h : s.text.width ≤ columns) : s.truncate columns = s :=
  if_pos h

/-- What has room is not cut. -/
theorem settle_fits (h : s.Seamed) {columns : Nat} (hwidth : s.text.width ≤ columns) :
    Fits columns s.text (s.settle columns) := by
  have htrim := trimEnd_fits h hwidth
  rw [settle, truncate_eq_self htrim.width]
  exact htrim

/-- The lines that a text was joined from. -/
theorem map_text_piecesFrom {lines : List Text} {start : Nat}
    (h : s.text.drop start = Text.join [Text.newline] lines) :
    (s.piecesFrom start lines).map Styled.text = lines := by
  induction lines generalizing start with
  | nil => rfl
  | cons line r ih =>
    rw [piecesFrom, List.map_cons, part, Nat.add_sub_cancel_left, h]
    cases r with
    | nil => exact congrArg ([·]) List.take_length
    | cons next r =>
      have hnext : s.text.drop (start + line.length + 1) =
          Text.join [Text.newline] (next :: r) := by
        rw [Nat.add_assoc, ← List.drop_drop, h, Text.join_cons _ _ (List.cons_ne_nil _ _)]
        exact List.drop_left' (by rw [List.length_append, List.length_singleton])
      rw [ih hnext, Text.join_cons _ _ (List.cons_ne_nil _ _), List.append_assoc]
      exact congrArg (· :: next :: r) List.take_left

theorem map_text_lines {lines : List Text} (htext : s.text = Text.join [Text.newline] lines)
    (hne : lines ≠ []) (hlines : ∀ line ∈ lines, Text.newline ∉ line) :
    s.lines.map Styled.text = lines := by
  have hcut : Text.lines s.text = lines := by
    rw [htext]
    exact Text.splitOn_join hlines hne
  rw [Styled.lines]
  split
  · rw [hcut]
    exact map_text_piecesFrom htext
  · next hsingle =>
    -- One line is not cut, and it is the only one.
    have hnone : Text.newline ∉ s.text := fun hmem => hsingle (List.contains_iff_mem.mpr hmem)
    rw [← hcut, Text.lines, Text.splitOn_of_not_mem hnone, List.map_singleton]

/-- **A text whose lines have room is laid out line for line.** -/
theorem forall₂_wrap (h : s.Seamed) {lines : List Text}
    (htext : s.text = Text.join [Text.newline] lines) (hne : lines ≠ [])
    (hlines : ∀ line ∈ lines, Text.newline ∉ line ∧ Text.tab ∉ line) {columns : Nat}
    (hwidth : ∀ line ∈ lines, line.width ≤ columns) :
    List.Forall₂ (Fits columns) lines (s.wrap columns) := by
  have hmap := map_text_lines htext hne fun line hline => (hlines line hline).1
  have hmem : ∀ line ∈ s.lines, line.text ∈ lines := by
    intro line hline
    rw [← hmap]
    exact List.mem_map_of_mem hline
  -- Without tabs, and with room, one row comes of each line.
  have hone : s.wrap columns = s.lines.map (settle columns) := by
    rw [wrap, ← List.flatMap_singleton' (s.lines.map (settle columns)), List.flatMap_map]
    refine List.flatMap_congr fun line hline => ?_
    have htab : line.expandTabs = line := by
      rw [Styled.expandTabs, if_neg]
      exact fun hcontains =>
        (hlines _ (hmem line hline)).2 (List.contains_iff_mem.mp hcontains)
    dsimp only
    rw [htab, Text.breaks_eq_nil (hwidth _ (hmem line hline))]
    rfl
  rw [hone, ← hmap, List.forall₂_map_left_iff, List.forall₂_map_right_iff, List.forall₂_same]
  intro line hline
  exact settle_fits (forall_mem_lines h h.part line hline) (hwidth _ (hmem line hline))

end SynthDesk.Console.Styled
