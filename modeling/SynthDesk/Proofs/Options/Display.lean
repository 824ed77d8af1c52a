/-
The summary on the screen.

A command shows what it passes on: a panel with one row for each pair of arguments, the
flag and after it the text, or the mask in place of the key. The rows are the lines that the
summary means; where the screen has room for each of them, so has the frame. All of this
rests on one condition. The texts stand in markup as they are, so those that hold something
like a tag, or a backslash before a bracket, are not shown as they are passed; and that is
so for every such text.
-/
import SynthDesk.Proofs.Options.Summary

set_option autoImplicit false

namespace SynthDesk

open Console Markup

/-! ## Texts that the screen leaves alone -/

namespace Text

/-- Text of one line, without tabs and without the controls that are never shown. -/
def Tame (t : Text) : Prop :=
  ∀ c ∈ t, isLineBreak c = false ∧ c ≠ tab ∧ isHiddenControl c = false

instance (t : Text) : Decidable t.Tame := List.decidableBAll _ t

theorem Tame.append {a b : Text} (ha : a.Tame) (hb : b.Tame) : (a ++ b).Tame :=
  List.forall_mem_append.mpr ⟨ha, hb⟩

theorem Tame.unbroken {t : Text} (h : t.Tame) : t.Unbroken := fun c hc => (h c hc).1

theorem Tame.not_mem {t : Text} (h : t.Tame) : newline ∉ t ∧ tab ∉ t := by
  refine ⟨fun hmem => ?_, fun hmem => (h _ hmem).2.1 rfl⟩
  have hbreak : isLineBreak newline = true := by decide
  rw [(h _ hmem).1] at hbreak
  cases hbreak

/-- Tame lines are shown as they are. -/
theorem visible_join_of_tame {lines : List Text} (h : ∀ line ∈ lines, line.Tame) :
    visible (join [newline] lines) = join [newline] lines := by
  refine List.filter_eq_self.mpr fun c hc => ?_
  rcases mem_or_of_mem_join hc with hc | ⟨line, hline, hc⟩
  · obtain rfl := List.mem_singleton.mp hc
    decide
  · rw [(h line hline c hc).2.2]
    rfl

/-- **A row that shows a line**: the line, and blanks after it. Where the line holds code
points that take no column, it may have lost blanks at its end before it was filled up. -/
def ShownBy (line row : Text) : Prop :=
  ∃ kept trail n, line = kept ++ trail ∧ row = kept ++ fill n ' ' ∧ isBlank trail = true ∧
    (trail ≠ [] → ∃ c ∈ line, c.width = 0)

/-- Nothing but blanks is missing from a row. -/
theorem ShownBy.mem {line row : Text} (h : line.ShownBy row) {c : CodePoint} (hc : c ∈ line)
    (hblank : c.isBlank = false) : c ∈ row := by
  obtain ⟨kept, trail, n, rfl, rfl, htrail, -⟩ := h
  rcases List.mem_append.mp hc with hc | hc
  · exact List.mem_append_left _ hc
  · rw [List.all_eq_true.mp htrail c hc] at hblank
    cases hblank

end Text

/-! ## Rows -/

namespace Console

/-- A row between the vertical edges of a panel. -/
def Panel.boxed (row : Text) : Text :=
  Panel.side :: CodePoint.ofChar ' ' :: row ++ [CodePoint.ofChar ' ', Panel.side, Text.newline]

/-- A line for which there is room is shown. -/
theorem Styled.Fits.shownBy {columns : Nat} {line : Text} {row : Styled}
    (h : row.Fits columns line) : line.ShownBy (row.drawIn columns) := by
  obtain ⟨trail, hline, hblank, hzero⟩ := h.shown
  obtain ⟨n, hdrawn⟩ := Styled.exists_drawIn_eq h.seamed h.width
  exact ⟨row.text, trail, n, hline, hdrawn, hblank, hzero⟩

/-- **The rows of a panel show the lines of its content**, one after another, where the screen
has room for each of them between the edges. -/
theorem exists_rows {content : Styled} (hcontent : content.Seamed) {lines : List Text}
    (htext : content.text = Text.join [Text.newline] lines) (hne : lines ≠ [])
    (hlines : ∀ line ∈ lines, line.Tame) {columns : Nat}
    (hroom : ∀ line ∈ lines, line.width + 4 ≤ columns) (title : Text) :
    let inner := Panel.innerWidth columns title content.text
    ∃ rows, List.Forall₂ Text.ShownBy lines rows ∧
      (content.wrap (inner - 2)).flatMap (Panel.contentRow inner) = rows.flatMap Panel.boxed := by
  intro inner
  have hwidth : ∀ line ∈ lines, line.width ≤ inner - 2 := by
    intro line hline
    have hle := Text.width_le_widest (fun l hl => (hlines l hl).unbroken) line hline
    have hleft := hroom line hline
    have hinner : inner = min (columns - 2) (max (content.text.widest + 2) (title.width + 2)) := rfl
    rw [← htext] at hle
    omega
  have hfits := Styled.forall₂_wrap hcontent htext hne
    (fun line hline => (hlines line hline).not_mem) hwidth
  refine ⟨(content.wrap _).map (Styled.drawIn (inner - 2)),
    List.forall₂_map_right_iff.mpr (hfits.imp fun _ _ h => h.shownBy), ?_⟩
  rw [List.flatMap_map]
  rfl

/-! ## Code points without octets -/

/-- No half of a pair is in the text. -/
def Halfless (t : Text) : Prop := ∀ c ∈ t, Utf8.isHalf c = false

instance (t : Text) : Decidable (Halfless t) :=
  decidable_of_iff (t.all (fun c => !Utf8.isHalf c) = true) (by simp [Halfless])

theorem Halfless.append {a b : Text} (ha : Halfless a) (hb : Halfless b) : Halfless (a ++ b) :=
  List.forall_mem_append.mpr ⟨ha, hb⟩

theorem Halfless.cons {c : CodePoint} (hc : Utf8.isHalf c = false) {t : Text} (ht : Halfless t) :
    Halfless (c :: t) :=
  List.forall_mem_cons.mpr ⟨hc, ht⟩

theorem halfless_fill {c : CodePoint} (hc : Utf8.isHalf c = false) (n : Nat) :
    Halfless (Text.fill n c) := by
  intro d hd
  rw [List.eq_of_mem_replicate hd]
  exact hc

theorem halfless_flatMap {α : Type} {f : α → Text} {as : List α} (h : ∀ a ∈ as, Halfless (f a)) :
    Halfless (as.flatMap f) := by
  intro c hc
  obtain ⟨a, ha, hc⟩ := List.mem_flatMap.mp hc
  exact h a ha c hc

/-- A row holds nothing but its line and blanks. -/
theorem halfless_of_shownBy {line row : Text} (h : line.ShownBy row) (hline : Halfless line) :
    Halfless row := by
  obtain ⟨kept, trail, n, rfl, rfl, -, -⟩ := h
  have hkept : Halfless kept := (List.forall_mem_append.mp hline).1
  exact hkept.append (halfless_fill (by decide) n)

theorem halfless_rows {lines rows : List Text} (h : List.Forall₂ Text.ShownBy lines rows)
    (hlines : ∀ line ∈ lines, Halfless line) : ∀ row ∈ rows, Halfless row := by
  induction h with
  | nil => exact List.forall_mem_nil _
  | cons hrow _ ih =>
    obtain ⟨hline, hr⟩ := List.forall_mem_cons.mp hlines
    exact List.forall_mem_cons.mpr ⟨halfless_of_shownBy hrow hline, ih hr⟩

/-- A frame brings no half of a pair along. -/
theorem halfless_framed {title : Text} (htitle : Halfless title) {rows : List Text}
    (hrows : ∀ row ∈ rows, Halfless row) (inner : Nat) :
    Halfless (Panel.topRow inner title ++ rows.flatMap Panel.boxed ++ Panel.bottomRow inner) := by
  have hedges : ∀ n, Halfless (Text.fill n Panel.edge) := halfless_fill (by decide)
  have htop : Halfless (Panel.topRow inner title) :=
    .append (.cons (by decide) (.cons (by decide) (.append (.append (hedges _) htitle) (hedges _))))
      (by decide)
  have hboxed : ∀ row ∈ rows, Halfless (Panel.boxed row) := fun row hrow =>
    .append (.cons (by decide) (.cons (by decide) (hrows row hrow))) (by decide)
  have hbottom : Halfless (Panel.bottomRow inner) :=
    .append (.cons (by decide) (hedges _)) (by decide)
  exact (htop.append (halfless_flatMap hboxed)).append hbottom

end Console

/-! ## The summary -/

namespace Options

variable {o : Options}

/-- Every text that is shown is tame. -/
def Tame (o : Options) : Prop :=
  ∀ f v, o.requested f = some v → isSecret f = false → v.Tame

theorem tame_iff : o.Tame ↔ ∀ p ∈ o.shownPairs, p.2.Tame :=
  (forall_shownPairs_iff (by decide)).symm

instance (o : Options) : Decidable o.Tame := decidable_of_iff _ tame_iff.symm

/-- What holds of the code points of every flag's line before its text, of the texts that are
shown, and of the fixed line, holds of all lines. -/
theorem forall_meantLines {P : Text → Prop} (hnothing : P nothingShown)
    (hline : ∀ (f : Flag) (v : Text), P v → P (flagLine f.name v))
    (h : ∀ p ∈ o.shownPairs, P p.2) : ∀ line ∈ o.meantLines, P line := by
  intro line hmem
  unfold Options.meantLines at hmem
  split at hmem
  · obtain rfl := List.mem_singleton.mp hmem
    exact hnothing
  · obtain ⟨p, hp, rfl⟩ := List.mem_map.mp hmem
    have hv := h p hp
    obtain ⟨q, -, rfl⟩ := List.mem_map.mp hp
    exact hline q.1 _ hv

theorem Tame.meantLines (h : o.Tame) : ∀ line ∈ o.meantLines, line.Tame := by
  have hflag : ∀ f : Flag, Text.Tame (CodePoint.ofChar '-' :: f.name ++ Text.ofString ": ") := by
    intro f
    cases f <;> decide
  exact forall_meantLines (by decide) (fun f _ hv => (hflag f).append hv) (tame_iff.mp h)

/-- No text that is shown holds half of a pair. -/
def Halfless (o : Options) : Prop :=
  ∀ f v, o.requested f = some v → isSecret f = false → Console.Halfless v

theorem Halfless.meantLines (h : o.Halfless) : ∀ line ∈ o.meantLines, Console.Halfless line := by
  have hflag : ∀ f : Flag,
      Console.Halfless (CodePoint.ofChar '-' :: f.name ++ Text.ofString ": ") := by
    intro f
    cases f <;> decide
  have hmask : Console.Halfless mask := by decide
  exact forall_meantLines (by decide)
    (fun f _ hv => (hflag f).append hv) ((forall_shownPairs_iff hmask).mpr h)

/-- **The summary fits** on so many columns: its title does, and each of its lines, with a blank
and an edge on either side. -/
def Fits (columns : Nat) (o : Options) : Prop :=
  panelTitle.width + 4 ≤ columns ∧ ∀ line ∈ o.meantLines, line.width + 4 ≤ columns

instance (columns : Nat) (o : Options) : Decidable (o.Fits columns) :=
  inferInstanceAs (Decidable (_ ∧ _))

/-- **The panel shows lines**: between its edges it has one row for each, in their order. -/
def ShowsLines (lines : List Text) (panel : Text) : Prop :=
  ∃ inner rows, List.Forall₂ Text.ShownBy lines rows ∧
    panel = Panel.topRow inner panelTitle ++ rows.flatMap Panel.boxed ++ Panel.bottomRow inner

/-- A panel that shows lines without halves of pairs is refused by no screen. -/
theorem ShowsLines.refused? {lines : List Text} {panel : Text} (h : ShowsLines lines panel)
    (hlines : ∀ line ∈ lines, Console.Halfless line) (screen : Screen) :
    screen.refused? panel = none := by
  obtain ⟨inner, rows, hshown, rfl⟩ := h
  have htitle : Console.Halfless panelTitle := by decide
  exact screen.refused?_of_no_half (halfless_framed htitle (halfless_rows hshown hlines) inner)

/-- **A literal summary that fits is shown as it is meant.** -/
theorem exists_showsLines {screen : Screen} (h : o.Tame) (hcodes : o.Pictureless screen.pictures)
    (hliteral : o.Literal) (hfits : o.Fits screen.columns) :
    ∃ panel, (Session.summaryPanel o).render screen = .ok panel ∧
      ShowsLines o.meantLines panel := by
  obtain ⟨content, hread, hcontent, hasks, hseamed⟩ := hliteral.exists_read_describe
  rw [Text.visible_join_of_tame h.meantLines] at hcontent
  obtain ⟨rows, hshown, hrows⟩ :=
    exists_rows hseamed hcontent o.meantLines_ne_nil h.meantLines hfits.2 panelTitle
  refine ⟨_, render_summaryPanel hcodes hread hasks,
    Panel.innerWidth screen.columns panelTitle content.text, rows, hshown, ?_⟩
  -- The title has room as well, so it is not cut off.
  have htitle : styledTitle.text.width ≤
      Panel.innerWidth screen.columns panelTitle content.text - 2 := by
    have hleft : styledTitle.text.width + 4 ≤ screen.columns := hfits.1
    have hinner : Panel.innerWidth screen.columns panelTitle content.text =
        min (screen.columns - 2) (max (content.text.widest + 2) (styledTitle.text.width + 2)) := rfl
    omega
  rw [Styled.truncate_eq_self htitle, hrows]
  rfl

/-- **The summary shows what is passed, exactly if the texts are literal.** Take any screen, and
any options whose shown texts are tame and name no picture.

* A command passes on one pair of arguments for each parameter that is requested.
* If the texts are literal and the summary fits on the screen, the panel is printed. Its rows
  show the lines that are meant, in their order: one for each pair, which is the flag and the
  text that is passed, or the mask in place of the key; and the fixed line if there is no pair.
  A screen refuses it only for halves of pairs in the texts.
* What is shown of the summary is these lines in no other case. -/
theorem summary_shows (screen : Screen) (h : o.Tame) (hcodes : o.Pictureless screen.pictures) :
    o.directArguments = o.present.flatMap (fun p => pair p.1 p.2) ∧
    (o.Literal → o.Fits screen.columns →
      ∃ panel, (Session.summaryPanel o).render screen = .ok panel ∧
        ShowsLines o.meantLines panel ∧ (o.Halfless → screen.refused? panel = none)) ∧
    ∀ content, Markup.display screen.pictures o.describe = .ok content →
      (content.text = Text.join [Text.newline] o.meantLines ↔ o.Literal) := by
  have hdisplay : Markup.display screen.pictures o.describe = Markup.read o.describe :=
    Markup.display_eq_read hcodes.not_hasCode_describe
  refine ⟨o.directArguments_eq_flatMap, fun hliteral hfits => ?_, fun content hread => ?_⟩
  · obtain ⟨panel, hrender, hshows⟩ := exists_showsLines h hcodes hliteral hfits
    exact ⟨panel, hrender, hshows, fun hhalfless => hshows.refused? hhalfless.meantLines screen⟩
  · rw [hdisplay] at hread
    constructor
    · -- A text that is not literal would be read as less.
      intro heq
      refine Decidable.byContradiction fun hnot => ?_
      have hplain : Markup.plain o.describe = .ok content.text := by
        rw [Markup.plain, hread]
        rfl
      have hless := (length_le_of_plain_describe hplain).2 hnot
      rw [heq] at hless
      exact Nat.lt_irrefl _ hless
    · intro hliteral
      obtain ⟨content', hread', hcontent, -, -⟩ := hliteral.exists_read_describe
      obtain rfl : content = content' := Except.ok.inj (hread.symm.trans hread')
      rw [hcontent, Text.visible_join_of_tame h.meantLines]

/-- A screen of eighty columns that knows one picture, and refuses what has no octets. -/
def narrowScreen : Screen := .common [("smile", [CodePoint.ofNat 0x1F604])] true

/-- Brackets around a number are no tag, one colon names no picture, and the key is masked. -/
theorem summary_shows_index :
    let o := (empty.set .tables (some "jobs[1]:smile")).set .mockApiKey (some "s3cret")
    o.Tame ∧ o.Pictureless narrowScreen.pictures ∧ o.Literal ∧ o.Fits narrowScreen.columns ∧
      o.directArguments = ["-tables", "jobs[1]:smile", "-mockApiKey", "s3cret"] ∧
      ∃ panel, (Session.summaryPanel o).render narrowScreen = .ok panel ∧
        ShowsLines ["-tables: jobs[1]:smile", "-mockApiKey: ****"] panel ∧
        narrowScreen.refused? panel = none := by
  intro o
  have htame : o.Tame := by decide +kernel
  have hliteral : o.Literal := by decide +kernel
  have hfits : o.Fits narrowScreen.columns := by decide +kernel
  have hlines : o.meantLines = ["-tables: jobs[1]:smile", "-mockApiKey: ****"] := by decide +kernel
  have hrequested : ∀ f v, o.requested f = some v → isSecret f = false → v = "jobs[1]:smile" := by
    intro f v hf hsecret
    cases f with
    | tables => exact (Option.some.inj hf).symm
    | mockApiKey => cases hsecret
    | _ => cases hf
  have hcodes : o.Pictureless narrowScreen.pictures := by
    intro f v hf hsecret
    rw [hrequested f v hf hsecret]
    exact Emoji.not_hasCode_of_count (by decide)
  have hhalfless : o.Halfless := by
    intro f v hf hsecret
    rw [hrequested f v hf hsecret]
    decide
  obtain ⟨-, hshown, -⟩ := summary_shows narrowScreen htame hcodes
  obtain ⟨panel, hrender, hshows, hrefused⟩ := hshown hliteral hfits
  rw [hlines] at hshows
  exact ⟨htame, hcodes, hliteral, hfits, by decide +kernel, panel, hrender, hshows,
    hrefused hhalfless⟩

/-- A backslash before a bracket is passed on, but not shown. -/
theorem summary_drops_backslash :
    let o := empty.set .dataOutput (some "data\\[new].sql")
    o.Tame ∧ o.directArguments = ["-dataOutput", "data\\[new].sql"] ∧
      (Markup.plain o.describe).toOption = some "-dataOutput: data[new].sql" ∧
      ¬ ∃ panel, (Session.summaryPanel o).render narrowScreen = .ok panel ∧
        ShowsLines ["-dataOutput: data\\[new].sql"] panel := by
  intro o
  refine ⟨by decide +kernel, by decide +kernel, by decide +kernel, ?_⟩
  rintro ⟨panel, hrender, inner, rows, hrows, rfl⟩
  -- The panel that is printed holds no backslash, and a row that shows the text would.
  have hprinted : ((Session.summaryPanel o).render narrowScreen).toOption.map
      (fun t => decide (backslash ∈ t)) = some false := by
    decide +kernel
  obtain ⟨row, others, hrow, -, rfl⟩ := List.forall₂_cons_left_iff.mp hrows
  have hmem : backslash ∈ row := hrow.mem (by decide) (by decide)
  have hboxed : backslash ∈ Panel.boxed row :=
    List.mem_cons_of_mem _ (List.mem_cons_of_mem _ (List.mem_append_left _ hmem))
  rw [hrender] at hprinted
  refine of_decide_eq_false (Option.some.inj hprinted) ?_
  exact List.mem_append_left _
    (List.mem_append_right _ (List.mem_flatMap.mpr ⟨row, List.mem_cons_self, hboxed⟩))

end Options

end SynthDesk
