/-
The summary of options, and what is read from it.

The summary is markup, and the texts of the options stand in it as they are. Its own tags
come in pairs, one around each flag. So if every text that is shown is literal, the summary
is read as one line for each parameter, flag and text, character for character, and the
panel around it can be drawn: every style that it asks for is the one of the flags. If one
of the texts is not literal, less is read than was written. And where none of the texts
names a picture, none is put in.
-/
import SynthDesk.Proofs.Console.Emoji
import SynthDesk.Proofs.Console.Markup
import SynthDesk.Proofs.Console.Rows
import SynthDesk.Proofs.Options.KeyOrders
import SynthDesk.Session

set_option autoImplicit false

namespace SynthDesk

open Console Markup

/-! ## One flag -/

/-- The style of the flags. -/
def flagStyle : Text := "cyan"

theorem normalize_flagStyle : StyleName.normalize flagStyle = .ok flagStyle := by
  have hfound : (StyleName.normalize flagStyle).toOption = some flagStyle := by decide +kernel
  cases hnormal : StyleName.normalize flagStyle with
  | error e =>
    rw [hnormal] at hfound
    cases hfound
  | ok style =>
    rw [hnormal] at hfound
    rw [Option.some.inj hfound]

/-- The tag before a flag opens its style. -/
theorem tag_flagStyle (s : State) (position : Nat) :
    s.tag position flagStyle =
      .ok { s with opened := ⟨s.text.length, flagStyle, none⟩ :: s.opened } := by
  have hname : nameOf flagStyle = CodePoint.ofChar 'c' :: Text.ofString "yan" := by decide
  have hslash : CodePoint.ofChar 'c' ≠ CodePoint.ofChar '/' := by decide
  have hargument : argumentOf flagStyle = none := by decide
  rw [State.tag, hname]
  dsimp only
  rw [if_neg hslash, show CodePoint.ofChar 'c' :: Text.ofString "yan" = flagStyle from rfl,
    normalize_flagStyle, hargument]

/-- The tag after a flag closes it. -/
theorem tag_flagStyle_end {s : State} {start : Nat} {outer : List OpenTag}
    (hs : s.opened = ⟨start, flagStyle, none⟩ :: outer) (position : Nat) :
    s.tag position (CodePoint.ofChar '/' :: flagStyle) =
      .ok ⟨s.text, outer, ⟨start, s.text.length, some flagStyle⟩ :: s.spans⟩ := by
  have hname : nameOf (CodePoint.ofChar '/' :: flagStyle) = CodePoint.ofChar '/' :: flagStyle := by
    decide
  have hstrip : Text.strip flagStyle = CodePoint.ofChar 'c' :: Text.ofString "yan" := by decide
  have hclose : take? flagStyle s.opened = some (⟨start, flagStyle, none⟩, outer) := by
    rw [hs, take?, if_pos rfl]
  rw [State.tag, hname]
  dsimp only
  rw [if_pos rfl, hstrip]
  dsimp only
  rw [show CodePoint.ofChar 'c' :: Text.ofString "yan" = flagStyle from rfl, normalize_flagStyle]
  dsimp only
  rw [hclose]
  rfl

/-- A flag in its line. -/
def flagText (flag : Text) : Text := CodePoint.ofChar '-' :: flag ++ [CodePoint.ofChar ':']

/-- The state after more text in the style of the flags. -/
def Markup.State.flagged (s : State) (t : Text) : State :=
  ⟨(s.more t).text, s.opened,
    ⟨s.text.length, (s.more t).text.length, some flagStyle⟩ :: s.spans⟩

/-- One code point that means nothing in markup. -/
theorem pieces_scan_cons {c : CodePoint} (hopen : c ≠ bracket) (hback : c ≠ backslash) (r : Text)
    (s : State) (position : Nat) :
    s.pieces (scan position 0 0 (c :: r)) = (s.more [c]).pieces (scan (position + 1) 0 0 r) := by
  rw [scan, if_neg hback, if_neg hopen, State.pieces]
  rfl

/-- **A flag is read as a flag**, whatever comes after it. -/
theorem pieces_scan_flag {flag : Text} (hflag : bracket ∉ flag) (value r : Text) (s : State)
    (position : Nat) :
    ∃ position', s.pieces (scan position 0 0 (Options.flagMarkup flag value ++ r)) =
      (s.flagged (flagText flag)).pieces
        (scan position' 0 0 (CodePoint.ofChar ' ' :: value ++ r)) := by
  have hdash : bracket ∉ CodePoint.ofChar '-' :: flag := by
    rw [List.mem_cons, not_or]
    exact ⟨by decide, hflag⟩
  -- The tag after the flag, and all that follows.
  obtain ⟨closing, hclosing⟩ : ∃ closing : Text, closing =
      bracket :: ((CodePoint.ofChar '/' :: flagStyle) ++
        CodePoint.ofChar ']' :: (CodePoint.ofChar ' ' :: value ++ r)) := ⟨_, rfl⟩
  have hsplit : Options.flagMarkup flag value ++ r =
      bracket :: (flagStyle ++ CodePoint.ofChar ']' ::
        ((CodePoint.ofChar '-' :: flag) ++ CodePoint.ofChar ':' :: closing)) := by
    rw [hclosing]
    simp only [Options.flagMarkup, List.append_assoc]
    rfl
  have hopened := pieces_scan_tag position (b := flagStyle)
    (r := (CodePoint.ofChar '-' :: flag) ++ CodePoint.ofChar ':' :: closing) rfl
    (tag_flagStyle s position)
  have hcolon : ∀ c ∈ (CodePoint.ofChar ':' :: closing).head?, c ≠ bracket ∧ c ≠ backslash := by
    intro c hc
    obtain rfl : CodePoint.ofChar ':' = c := Option.some.inj hc
    decide
  rw [hsplit, hopened, pieces_scan_literal (literalBefore_of_not_mem hdash _) hcolon,
    pieces_scan_cons (by decide) (by decide), State.more_more, hclosing]
  -- The style that is closed is the one that was opened last.
  refine ⟨_, pieces_scan_tag _ (b := CodePoint.ofChar '/' :: flagStyle) rfl ?_⟩
  exact tag_flagStyle_end rfl _

/-! ## Lines -/

/-- A line of the summary as it is meant: a flag, and a text. -/
def flagLine (flag value : Text) : Text :=
  CodePoint.ofChar '-' :: flag ++ Text.ofString ": " ++ value

/-- Nothing is open, and all spans are those of flags, with nothing before their two ends
that would join on. -/
structure Markup.State.Tidy (s : State) : Prop where
  opened : s.opened = []
  styles : ∀ p ∈ s.spans, p.style = some flagStyle
  places : ∀ p ∈ s.spans, p.start ≤ s.text.length ∧ p.stop ≤ s.text.length
  seams : ∀ p ∈ s.spans, Text.Seam s.text p.start ∧ Text.Seam s.text p.stop

theorem Markup.State.tidy_nil : Tidy ⟨[], [], []⟩ :=
  ⟨rfl, List.forall_mem_nil _, List.forall_mem_nil _, List.forall_mem_nil _⟩

theorem Markup.State.Tidy.more {s : State} (hs : s.Tidy) (t : Text) : (s.more t).Tidy where
  opened := hs.opened
  styles := hs.styles
  places := by
    intro p hp
    obtain ⟨hstart, hstop⟩ := hs.places p hp
    have hle : s.text.length ≤ (s.more t).text.length := by
      rw [State.more, List.length_append]
      omega
    exact ⟨Nat.le_trans hstart hle, Nat.le_trans hstop hle⟩
  seams := by
    intro p hp
    obtain ⟨hstart, hstop⟩ := hs.places p hp
    exact ⟨(hs.seams p hp).1.append hstart _, (hs.seams p hp).2.append hstop _⟩

/-- Text that ends in something visible which joins nothing on. -/
theorem Markup.State.not_endsOpen_more (s : State) (t : Text) {c : CodePoint}
    (hc : isHiddenControl c = false) (hjoiner : c.isJoiner = false) :
    ¬ Text.EndsOpen (s.more (t ++ [c])).text := by
  have hvisible : visible (t ++ [c]) = visible t ++ [c] := by
    rw [visible, List.filter_append, List.filter_cons, hc]
    rfl
  rw [State.more, hvisible, ← List.append_assoc]
  exact Text.not_endsOpen_concat hjoiner _

/-- A flag at the beginning of a line leaves everything tidy. -/
theorem Markup.State.Tidy.flagged {s : State} (hs : s.Tidy) (hend : ¬ Text.EndsOpen s.text)
    (flag : Text) : (s.flagged (flagText flag)).Tidy where
  opened := hs.opened
  styles := List.forall_mem_cons.mpr ⟨rfl, hs.styles⟩
  places := by
    have hmore := (hs.more (flagText flag)).places
    refine List.forall_mem_cons.mpr ⟨⟨?_, Nat.le_refl _⟩, hmore⟩
    rw [State.flagged, State.more, List.length_append]
    exact Nat.le_add_right _ _
  seams := by
    refine List.forall_mem_cons.mpr ⟨⟨?_, ?_⟩, (hs.more (flagText flag)).seams⟩
    · refine Text.Seam.append ?_ (Nat.le_refl _) _
      rwa [Text.Seam, List.take_length]
    · rw [Text.Seam, State.flagged, List.take_length]
      exact s.not_endsOpen_more _ (by decide) (by decide)

/-- A line, and the lines after it. -/
theorem join_lines (φ : Text × Text → Text) (f : Text × Text) {fs : List (Text × Text)}
    (hne : fs ≠ []) :
    Text.join [Text.newline] ((f :: fs).map φ) =
      φ f ++ Text.newline :: Text.join [Text.newline] (fs.map φ) := by
  rw [List.map_cons, Text.join_cons _ _ (fun h => hne (List.map_eq_nil_iff.mp h)),
    List.append_assoc, List.singleton_append]

/-- The lines of parameters as they are written. -/
def markedLines (fs : List (Text × Text)) : Text :=
  Text.join [Text.newline] (fs.map fun f => Options.flagMarkup f.1 f.2)

/-- The lines of parameters as they are meant. -/
def plainLines (fs : List (Text × Text)) : Text :=
  Text.join [Text.newline] (fs.map fun f => flagLine f.1 f.2)

/-- Lines begin with a tag. -/
theorem lineEnds_markedLines {fs : List (Text × Text)} (hne : fs ≠ []) :
    LineEnds (Text.newline :: markedLines fs) := by
  obtain ⟨f, r, rfl⟩ := List.exists_cons_of_ne_nil hne
  cases r with
  | nil => exact .next _
  | cons g r => exact .next _

/-- The state after a line. -/
def Markup.State.lined (s : State) (flag value : Text) : State :=
  (s.flagged (flagText flag)).more (CodePoint.ofChar ' ' :: value)

theorem Markup.State.lined_more_text (s : State) (flag value t : Text) :
    ((s.lined flag value).more t).text = (s.more (flagLine flag value ++ t)).text := by
  have hsplit : flagLine flag value ++ t =
      flagText flag ++ (CodePoint.ofChar ' ' :: value ++ t) := by
    simp only [flagLine, flagText, List.append_assoc]
    rfl
  rw [hsplit, ← State.more_more, lined, State.more_more]
  rfl

/-- The blank before a text changes nothing. -/
theorem literalBefore_blank {r value : Text} :
    LiteralBefore r (CodePoint.ofChar ' ' :: value) ↔ LiteralBefore r value := by
  have hopen : CodePoint.ofChar ' ' ≠ bracket := by decide
  have hback : CodePoint.ofChar ' ' ≠ backslash := by decide
  rw [literalBefore_cons_iff]
  exact ⟨fun h => h.2.2, fun h => ⟨fun hc => absurd hc hopen, fun hc => absurd hc hback, h⟩⟩

/-- **A line whose text is literal is read as it is meant.** -/
theorem pieces_scan_line {flag value : Text} (hflag : bracket ∉ flag)
    (hvalue : LiteralBefore [] value) {rest : Text} (hrest : LineEnds rest) (s : State)
    (position : Nat) :
    ∃ position', s.pieces (scan position 0 0 (Options.flagMarkup flag value ++ rest)) =
      (s.lined flag value).pieces (scan position' 0 0 rest) := by
  obtain ⟨position', hflagged⟩ := pieces_scan_flag hflag value rest s position
  have hblank := hrest.literalBefore_iff.mpr (literalBefore_blank.mpr hvalue)
  rw [hflagged, pieces_scan_literal hblank hrest.head]
  exact ⟨_, rfl⟩

/-- **Lines whose texts are literal are read as they are meant.** -/
theorem exists_pieces_scan_lines {fs : List (Text × Text)}
    (hfs : ∀ f ∈ fs, bracket ∉ f.1 ∧ LiteralBefore [] f.2) (hne : fs ≠ []) {s : State}
    (hs : s.Tidy) (hend : ¬ Text.EndsOpen s.text) (position : Nat) :
    ∃ s' : State, s'.Tidy ∧ s'.text = (s.more (plainLines fs)).text ∧
      s.pieces (scan position 0 0 (markedLines fs)) = .ok s' := by
  induction fs generalizing s position with
  | nil => exact absurd rfl hne
  | cons f r ih =>
    obtain ⟨⟨hflag, hvalue⟩, hr⟩ := List.forall_mem_cons.mp hfs
    -- Text after a flag opens nothing and moves no span.
    have htidy : (s.lined f.1 f.2).Tidy := (hs.flagged hend f.1).more _
    by_cases hlast : r = []
    · obtain ⟨position', hline⟩ := pieces_scan_line hflag hvalue .last s position
      have htext := s.lined_more_text f.1 f.2 []
      rw [List.append_nil] at hline htext
      rw [hlast]
      exact ⟨_, htidy.more [], htext, hline⟩
    · obtain ⟨position', hline⟩ :=
        pieces_scan_line hflag hvalue (lineEnds_markedLines hlast) s position
      -- The line end is text as well, and nothing joins on to it.
      obtain ⟨s', htidy', htext, hread⟩ := ih hr hlast (htidy.more [Text.newline])
        ((s.lined f.1 f.2).not_endsOpen_more [] (by decide) (by decide)) (position' + 1)
      refine ⟨s', htidy', ?_, ?_⟩
      · rw [htext, State.more_more, State.lined_more_text, plainLines, plainLines,
          join_lines _ _ hlast]
        rfl
      · rw [markedLines, join_lines _ _ hlast, ← markedLines, hline,
          pieces_scan_cons (by decide) (by decide), hread]

/-- **A line is never read as more than is meant**, and as less if its text is not literal. -/
theorem exists_pieces_scan_line {flag value : Text} (hflag : bracket ∉ flag) {rest : Text}
    (hrest : LineEnds rest) {s s' : State} {position : Nat}
    (h : s.pieces (scan position 0 0 (Options.flagMarkup flag value ++ rest)) = .ok s') :
    ∃ (s₁ : State) (position₁ : Nat), s₁.pieces (scan position₁ 0 0 rest) = .ok s' ∧
      s₁.text.length ≤ s.text.length + (flagLine flag value).length ∧
      (¬ LiteralBefore [] value →
        s₁.text.length < s.text.length + (flagLine flag value).length) := by
  obtain ⟨position', hflagged⟩ := pieces_scan_flag hflag value rest s position
  rw [hflagged] at h
  obtain ⟨s₁, hread, hle, hlt⟩ := exists_pieces_scan hrest (Nat.zero_le _) h
  have hmore : (s.flagged (flagText flag)).text.length ≤ s.text.length + (flagText flag).length :=
    s.length_more_le _
  have hlength : (flagLine flag value).length =
      (flagText flag).length + (CodePoint.ofChar ' ' :: value).length := by
    rw [← List.length_append, flagText, flagLine]
    simp only [List.append_assoc]
    rfl
  -- What is not literal here is not literal by itself: the line end adds no tag to it.
  refine ⟨s₁, _, hread, by omega, fun hnot => ?_⟩
  have hless := hlt rfl fun hliteral =>
    hnot (literalBefore_blank.mp (hrest.literalBefore_iff.mp hliteral.1))
  omega

/-- **Lines are never read as more than is meant**, and as less if one of their texts is not
literal. -/
theorem length_le_of_pieces_scan_lines {fs : List (Text × Text)} (hfs : ∀ f ∈ fs, bracket ∉ f.1)
    (hne : fs ≠ []) {s s' : State} {position : Nat}
    (h : s.pieces (scan position 0 0 (markedLines fs)) = .ok s') :
    s'.text.length ≤ s.text.length + (plainLines fs).length ∧
      (¬ (∀ f ∈ fs, LiteralBefore [] f.2) →
        s'.text.length < s.text.length + (plainLines fs).length) := by
  induction fs generalizing s position with
  | nil => exact absurd rfl hne
  | cons f r ih =>
    obtain ⟨hflag, hr⟩ := List.forall_mem_cons.mp hfs
    by_cases hlast : r = []
    · subst hlast
      rw [markedLines, List.map_singleton, Text.join,
        ← List.append_nil (Options.flagMarkup ..)] at h
      obtain ⟨s₁, _, hread, hle, hlt⟩ := exists_pieces_scan_line hflag .last h
      rw [scan, State.pieces, State.pieces, show backslashes 0 = [] from rfl,
        State.more_nil] at hread
      obtain rfl := Except.ok.inj hread
      exact ⟨hle, fun hnot => hlt fun hliteral => hnot (List.forall_mem_singleton.mpr hliteral)⟩
    · rw [markedLines, join_lines _ _ hlast, ← markedLines] at h
      obtain ⟨s₁, position₁, hrest, hle, hlt⟩ :=
        exists_pieces_scan_line hflag (lineEnds_markedLines hlast) h
      rw [pieces_scan_cons (by decide) (by decide)] at hrest
      obtain ⟨hle', hlt'⟩ := ih hr hlast hrest
      have hmore := s₁.length_more_le [Text.newline]
      have hlength : (plainLines (f :: r)).length =
          (flagLine f.1 f.2).length + ([Text.newline].length + (plainLines r).length) := by
        rw [plainLines, join_lines _ _ hlast, List.length_append, List.length_cons,
          List.length_singleton, plainLines, Nat.add_comm 1]
      -- Either this text loses something, or a later one does.
      refine ⟨by omega, fun hnot => ?_⟩
      by_cases hliteral : LiteralBefore [] f.2
      · have hless := hlt' fun hall => hnot (List.forall_mem_cons.mpr ⟨hliteral, hall⟩)
        omega
      · have hless := hlt hliteral
        omega

/-! ## The summary -/

namespace Options

variable {o : Options}

/-- What is shown for each parameter that is requested. -/
def shownPairs (o : Options) : List (Text × Text) :=
  o.present.map fun p => (p.1.name, shown p.1 p.2)

theorem describe_eq (o : Options) :
    o.describe = if o.shownPairs = [] then nothingRequested else markedLines o.shownPairs := by
  have hlines : o.summaryLines = o.shownPairs.map fun p => flagMarkup p.1 p.2 := by
    rw [summaryLines, shownPairs, List.map_map]
    rfl
  rw [describe, hlines]
  cases o.shownPairs with
  | nil => rfl
  | cons p r => rw [if_neg (List.cons_ne_nil p r), markedLines, List.map_cons]

theorem not_mem_name (f : Flag) : bracket ∉ f.name := by
  cases f <;> decide

/-- What holds of all requested texts that are no secret, and of the mask, holds of all that
is shown. -/
theorem forall_shownPairs_iff {P : Text → Prop} (hmask : P mask) :
    (∀ p ∈ o.shownPairs, P p.2) ↔
      ∀ f v, o.requested f = some v → isSecret f = false → P v := by
  constructor
  · intro h f v hf hsecret
    have hshown := h _ (List.mem_map_of_mem (mem_present.mpr hf))
    rwa [shown, hsecret, if_neg Bool.false_ne_true] at hshown
  · intro h p hp
    obtain ⟨⟨f, v⟩, hfv, rfl⟩ := List.mem_map.mp hp
    dsimp only [shown]
    split
    · exact hmask
    · next hsecret => exact h f v (mem_present.mp hfv) (by simpa using hsecret)

/-- **Every text that is shown is literal.** The key of the data service is never shown. -/
def Literal (o : Options) : Prop :=
  ∀ f v, o.requested f = some v → isSecret f = false → LiteralBefore [] v

theorem literal_iff : o.Literal ↔ ∀ p ∈ o.shownPairs, LiteralBefore [] p.2 :=
  (forall_shownPairs_iff (literalBefore_of_not_mem (by decide) [])).symm

instance (o : Options) : Decidable o.Literal := decidable_of_iff _ literal_iff.symm

/-- No text that is shown opens a bracket. -/
def Bracketless (o : Options) : Prop :=
  ∀ f v, o.requested f = some v → isSecret f = false → bracket ∉ v

theorem Bracketless.literal (h : o.Bracketless) : o.Literal := fun f v hf hsecret =>
  literalBefore_of_not_mem (h f v hf hsecret) []

/-- What is read where nothing is requested. -/
def nothingShown : Text := "No parameters; engine defaults apply"

/-- The lines of the summary as they are meant. -/
def meantLines (o : Options) : List Text :=
  if o.shownPairs = [] then [nothingShown] else o.shownPairs.map fun p => flagLine p.1 p.2

theorem meantLines_ne_nil (o : Options) : o.meantLines ≠ [] := by
  unfold meantLines
  split
  · exact List.cons_ne_nil _ _
  · next hne => exact fun h => hne (List.map_eq_nil_iff.mp h)

/-- The fixed text is read as it stands between its tags. -/
theorem read_nothingRequested :
    Markup.read nothingRequested = .ok ⟨nothingShown, [⟨0, 36, some "dim"⟩]⟩ := by
  have hfixed : (Markup.read nothingRequested).toOption =
      some ⟨nothingShown, [⟨0, 36, some "dim"⟩]⟩ := by
    decide +kernel
  cases hread : Markup.read nothingRequested with
  | error e =>
    rw [hread] at hfixed
    cases hfixed
  | ok content =>
    rw [hread] at hfixed
    rw [Option.some.inj hfixed]

/-- **A summary whose texts are literal is read as it is meant.** All its styles can be
looked up, and none of its spans comes after a joiner. -/
theorem Literal.exists_read_describe (h : o.Literal) :
    ∃ content, Markup.read o.describe = .ok content ∧
      content.text = visible (Text.join [Text.newline] o.meantLines) ∧
      (content.Asks fun style => style.bind StyleName.fault? = none) ∧ content.Seamed := by
  rw [describe_eq, meantLines]
  split
  · refine ⟨_, read_nothingRequested, by decide +kernel, ?_, ?_⟩
    · exact List.forall_mem_singleton.mpr (by decide +kernel)
    · intro place hplace
      obtain ⟨⟨p, hp, hend⟩, hpos, hlt⟩ := Styled.mem_borders.mp hplace
      obtain rfl := List.mem_singleton.mp hp
      have hlength : nothingShown.length = 36 := by decide
      dsimp only at hend hlt
      omega
  · next hne =>
    have hpairs : ∀ p ∈ o.shownPairs, bracket ∉ p.1 ∧ LiteralBefore [] p.2 := by
      intro p hp
      refine ⟨?_, literal_iff.mp h p hp⟩
      obtain ⟨q, -, rfl⟩ := List.mem_map.mp hp
      exact not_mem_name q.1
    obtain ⟨s', htidy, htext, hread⟩ :=
      exists_pieces_scan_lines hpairs hne State.tidy_nil Text.not_endsOpen_nil 0
    have hspans : ∀ p ∈ s'.finish.spans, p ∈ s'.spans := by
      intro p hp
      rw [State.finish, htidy.opened] at hp
      simpa using hp
    refine ⟨s'.finish, ?_, ?_, ?_, ?_⟩
    · rw [Markup.read, Markup.pieces, hread]
      rfl
    · exact htext.trans (List.nil_append _)
    · intro p hp
      rw [htidy.styles p (hspans p hp)]
      decide +kernel
    · intro place hplace
      obtain ⟨⟨p, hp, hend⟩, -, -⟩ := Styled.mem_borders.mp hplace
      obtain ⟨hstart, hstop⟩ := htidy.seams p (hspans p hp)
      rcases hend with rfl | rfl
      · exact hstart
      · exact hstop

/-- **Nothing is read as more than is meant**, and texts that are not literal are read as
less. -/
theorem length_le_of_plain_describe {text : Text} (h : Markup.plain o.describe = .ok text) :
    text.length ≤ (Text.join [Text.newline] o.meantLines).length ∧
      (¬ o.Literal → text.length < (Text.join [Text.newline] o.meantLines).length) := by
  rw [describe_eq] at h
  rw [meantLines]
  split
  · next hnone =>
    rw [if_pos hnone, Markup.plain, read_nothingRequested] at h
    obtain rfl : nothingShown = text := Except.ok.inj h
    refine ⟨Nat.le_of_eq rfl, fun hnot => absurd (literal_iff.mpr fun p hp => ?_) hnot⟩
    rw [hnone] at hp
    cases hp
  · next hne =>
    rw [if_neg hne, Markup.plain, Markup.read, Markup.pieces] at h
    cases hread : State.pieces ⟨[], [], []⟩ (scan 0 0 0 (markedLines o.shownPairs)) with
    | error e =>
      rw [hread] at h
      cases h
    | ok s' =>
      rw [hread] at h
      obtain rfl : s'.text = text := Except.ok.inj h
      have hnames : ∀ p ∈ o.shownPairs, bracket ∉ p.1 := by
        intro p hp
        obtain ⟨q, -, rfl⟩ := List.mem_map.mp hp
        exact not_mem_name q.1
      obtain ⟨hle, hlt⟩ := length_le_of_pieces_scan_lines hnames hne hread
      rw [List.length_nil, Nat.zero_add] at hle hlt
      exact ⟨hle, fun hnot => hlt fun hall => hnot (literal_iff.mpr hall)⟩

/-! ## Pictures -/

/-- A flag names no picture: there is one colon in it. -/
theorem not_hasCode_flag (table : Emoji.Table) (f : Flag) :
    ¬ Emoji.HasCode table (Text.ofString "[cyan]-" ++ f.name ++ Text.ofString ":[/cyan]") :=
  Emoji.not_hasCode_of_count (by cases f <;> decide)

/-- No text that is shown names a picture of the table. -/
def Pictureless (table : Emoji.Table) (o : Options) : Prop :=
  ∀ f v, o.requested f = some v → isSecret f = false → ¬ Emoji.HasCode table v

/-- A line names no picture if its text does not: the blank before it keeps it apart. -/
theorem not_hasCode_flagMarkup {table : Emoji.Table} (f : Flag) {v : Text}
    (hv : ¬ Emoji.HasCode table v) : ¬ Emoji.HasCode table (flagMarkup f.name v) := by
  have hsplit : flagMarkup f.name v =
      (Text.ofString "[cyan]-" ++ f.name ++ Text.ofString ":[/cyan]") ++
        CodePoint.ofChar ' ' :: v := by
    simp only [flagMarkup, List.append_assoc]
    rfl
  rw [hsplit]
  intro hcode
  exact (hcode.of_append_cons (by decide)).elim (not_hasCode_flag table f) hv

/-- Lines name no picture if none of them does. -/
theorem not_hasCode_markedLines {table : Emoji.Table} {fs : List (Text × Text)}
    (h : ∀ p ∈ fs, ¬ Emoji.HasCode table (flagMarkup p.1 p.2)) :
    ¬ Emoji.HasCode table (markedLines fs) := by
  induction fs with
  | nil => exact Emoji.not_hasCode_of_count (by decide)
  | cons p r ih =>
    obtain ⟨hp, hr⟩ := List.forall_mem_cons.mp h
    by_cases hlast : r = []
    · rw [hlast]
      exact hp
    · -- The line end is a blank, so a picture is named before it or after it.
      rw [markedLines, join_lines _ _ hlast, ← markedLines]
      intro hcode
      exact (hcode.of_append_cons (by decide)).elim hp (ih hr)

/-- **A summary names no picture** where none of its texts does. -/
theorem Pictureless.not_hasCode_describe {table : Emoji.Table} (h : o.Pictureless table) :
    ¬ Emoji.HasCode table o.describe := by
  have hmask : ¬ Emoji.HasCode table mask := Emoji.not_hasCode_of_count (by decide)
  have htexts := (forall_shownPairs_iff hmask).mpr h
  rw [describe_eq]
  split
  · exact Emoji.not_hasCode_of_count (by decide)
  · refine not_hasCode_markedLines fun p hp => ?_
    have hvalue := htexts p hp
    obtain ⟨q, -, rfl⟩ := List.mem_map.mp hp
    exact not_hasCode_flagMarkup q.1 hvalue

/-! ## The panel -/

/-- The title of the panel, with the blanks around it. -/
def panelTitle : Text := " SMG generation "

/-- The title of the panel, as it is styled. -/
def styledTitle : Styled := ⟨panelTitle, [⟨1, 15, some "bold"⟩]⟩

/-- The title names no picture, so it is the same on every screen. -/
theorem titleLine_summaryPanel (table : Emoji.Table) (o : Options) :
    (Session.summaryPanel o).titleLine table = .ok styledTitle := by
  have hname : ¬ Emoji.HasCode table (Panel.titleMarkup "SMG generation") :=
    Emoji.not_hasCode_of_count (by decide)
  have hfixed : ((⟨"SMG generation", []⟩ : Panel).titleLine []).toOption = some styledTitle := by
    decide +kernel
  have hnone : ¬ Emoji.HasCode [] (Panel.titleMarkup "SMG generation") :=
    Emoji.not_hasCode_of_count (by decide)
  have hsame : (Session.summaryPanel o).titleLine table =
      (⟨"SMG generation", []⟩ : Panel).titleLine [] := by
    rw [Panel.titleLine, Panel.titleLine, Session.summaryPanel]
    dsimp only
    rw [Markup.display_eq_read hname, Markup.display_eq_read hnone]
  rw [hsame]
  cases hline : (⟨"SMG generation", []⟩ : Panel).titleLine [] with
  | error e =>
    rw [hline] at hfixed
    cases hfixed
  | ok title =>
    rw [hline] at hfixed
    rw [Option.some.inj hfixed]

/-- **A content that can be read and looked up is shown**, row by row. -/
theorem render_summaryPanel {screen : Screen} (hcodes : o.Pictureless screen.pictures)
    {content : Styled} (hread : Markup.read o.describe = .ok content)
    (hasks : content.Asks fun style => style.bind StyleName.fault? = none) :
    let inner := Panel.innerWidth screen.columns panelTitle content.text
    (Session.summaryPanel o).render screen =
      .ok (Panel.topRow inner (styledTitle.truncate (inner - 2)).text ++
        (content.wrap (inner - 2)).flatMap (Panel.contentRow inner) ++ Panel.bottomRow inner) := by
  intro inner
  have hquiet : Styled.fault? styledTitle = none := by decide +kernel
  have hfault : ∀ columns, Panel.fault? (content.wrap columns) styledTitle = none := by
    intro columns
    have hrows : (content.wrap columns).findSome? Styled.fault? = none :=
      List.findSome?_eq_none_iff.mpr fun row hrow =>
        Styled.fault?_eq_none (hasks.wrap columns row hrow)
    rw [Panel.fault?, hrows, hquiet]
    rfl
  have hdisplay : Markup.display screen.pictures (Session.summaryPanel o).content = .ok content :=
    (Markup.display_eq_read hcodes.not_hasCode_describe).trans hread
  rw [Panel.render, titleLine_summaryPanel, hdisplay]
  dsimp only
  rw [Panel.frame, hfault]
  rfl

/-- **A summary whose texts open no bracket and name no picture can be shown.** -/
theorem Bracketless.exists_panel (h : o.Bracketless) {screen : Screen}
    (hcodes : o.Pictureless screen.pictures) :
    ∃ panel, (Session.summaryPanel o).render screen = .ok panel := by
  obtain ⟨content, hread, -, hasks, -⟩ := h.literal.exists_read_describe
  exact ⟨_, render_summaryPanel hcodes hread hasks⟩

end Options

end SynthDesk
