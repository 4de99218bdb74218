import LayoutLint.Proofs.Console.Codes
import LayoutLint.Proofs.Console.Faults

/-! Tables in which no cell is wrapped or cut. Each of their rows is one line, and a cell shows its
content between blanks. -/
namespace LayoutLint

namespace Reading

theorem cells_blank (r : Reading) (h : r.joined = false) : r.cells ' ' = 1 := by
  have hblank : cellsOf ' ' = 1 := by decide
  simp [cells, h, hblank, pictureSelector]

theorem next_blank (r : Reading) (h : r.joined = false) : r.next ' ' = { shown := some ' ' } := by
  have hblank : cellsOf ' ' = 1 := by decide
  simp [next, h, joiner, pictureSelector, hblank]

end Reading

namespace Text

theorem not_mem_of_mem_linesBy {ends : Char → Bool} {c : Char} (hc : ends c) {t line : Text}
    (h : line ∈ t.linesBy ends) : c ∉ line := by
  induction t generalizing line with
  | nil =>
    obtain rfl := List.mem_singleton.1 h
    exact List.not_mem_nil
  | cons d t ih =>
    simp only [linesBy] at h
    split at h
    · rcases List.mem_cons.1 h with rfl | h
      · exact List.not_mem_nil
      · exact ih h
    · rename_i hd
      have hne : c ≠ d := by
        rintro rfl
        exact hd hc
      split at h
      · obtain rfl := List.mem_singleton.1 h
        simpa using hne
      · rename_i first more hlines
        rw [hlines] at ih
        rcases List.mem_cons.1 h with rfl | h
        · simpa [hne] using ih List.mem_cons_self
        · exact ih (List.mem_cons_of_mem first h)

theorem mem_intersperse {sep line : Text} {lines : List Text}
    (h : line ∈ List.intersperse sep lines) : line = sep ∨ line ∈ lines := by
  induction lines with
  | nil => exact absurd h List.not_mem_nil
  | cons first lines ih =>
    cases lines with
    | nil => exact Or.inr h
    | cons second lines =>
      rw [List.intersperse_cons_cons, List.mem_cons, List.mem_cons] at h
      rcases h with rfl | rfl | h
      · exact Or.inr List.mem_cons_self
      · exact Or.inl rfl
      · exact (ih h).imp_right (List.mem_cons_of_mem first)

theorem flatten_tabParts (t : Text) : (Report.Console.Line.tabParts t).flatten = t := by
  fun_induction Report.Console.Line.tabParts t <;> simp_all

theorem not_mem_takeCells {c : Char} (hc : c ≠ ' ') {gs : List Grapheme} {n : Nat}
    (h : ∀ g ∈ gs, c ∉ g.text) : c ∉ takeCells n gs := by
  induction gs generalizing n with
  | nil => simp [takeCells]
  | cons g gs ih =>
    rw [List.forall_mem_cons] at h
    rw [takeCells]
    split
    · exact List.not_mem_nil
    · split
      · rw [List.mem_append, not_or]
        exact ⟨h.1, ih h.2⟩
      · simpa using hc

theorem not_mem_fitCells {c : Char} (hc : c ≠ ' ') {t : Text} (h : c ∉ t) (n : Nat) :
    c ∉ t.fitCells n := by
  unfold fitCells
  split
  · rw [List.mem_append, not_or]
    exact ⟨h, fun hmem => hc (List.eq_of_mem_replicate hmem)⟩
  · refine not_mem_takeCells hc fun g hg hmem => h ?_
    rw [← flatMap_graphemes t]
    exact List.mem_flatMap.2 ⟨g, hg, hmem⟩

theorem cells_replicate (n : Nat) : cells (List.replicate n ' ') = n := by
  have hcells : ∀ r : Reading, r.joined = false → cellsFrom r (List.replicate n ' ') = n := by
    induction n with
    | zero => exact fun _ _ => rfl
    | succ n ih =>
      intro r hr
      rw [List.replicate_succ, cellsFrom, r.cells_blank hr, r.next_blank hr, ih _ rfl, Nat.add_comm]
  exact hcells {} rfl

end Text

namespace Report.Console

namespace Line

variable {l m : Line} {c : Char}

def cells (l : Line) : Nat :=
  Columns.total (l.segments.map (·.2.cells))

theorem text_join (ls : List Line) : (join ls).text = ls.flatMap (·.text) := by
  induction ls with
  | nil => rfl
  | cons l ls ih => exact congrArg (l.text ++ ·) ih

/-! ## Characters of a wrapped line -/

theorem not_mem_of_mem_expandParts (hc : c ≠ ' ') {ls : List Line} (h : ∀ l ∈ ls, c ∉ l.text)
    {cell : Nat} (hm : m ∈ expandParts cell ls) : c ∉ m.text := by
  induction ls generalizing cell with
  | nil => simp [expandParts] at hm
  | cons l ls ih =>
    rw [List.forall_mem_cons] at h
    rcases List.mem_cons.1 hm with rfl | hm
    · split
      · have hdrop : c ∉ l.text.dropLast := fun hmem => h.1 ((List.dropLast_sublist _).subset hmem)
        simp [expandTab, hdrop, hc]
      · exact h.1
    · exact ih h.2 hm

theorem not_mem_expandTabs (hc : c ≠ ' ') (h : c ∉ l.text) : c ∉ l.expandTabs.text := by
  unfold expandTabs
  split
  · rw [text_join]
    intro hmem
    obtain ⟨m, hm, hmem⟩ := List.mem_flatMap.1 hmem
    refine not_mem_of_mem_expandParts hc (fun k hk hmem => h ?_) hm hmem
    have hpart := List.mem_map_of_mem (f := (·.text)) hk
    rw [map_text_split] at hpart
    rw [← Text.flatten_tabParts l.text]
    exact List.mem_flatten.2 ⟨_, hpart, hmem⟩
  · exact h

theorem not_mem_of_mem_divide (h : c ∉ l.text) {parts : List Text} (hparts : parts.flatten = l.text)
    (hm : m ∈ l.divide parts) : c ∉ m.text := by
  unfold divide at hm
  split at hm
  · obtain rfl := List.mem_singleton.1 hm
    exact h
  · intro hmem
    have hpart := List.mem_map_of_mem (f := (·.text)) hm
    rw [map_text_split] at hpart
    exact h (hparts ▸ List.mem_flatten.2 ⟨_, hpart, hmem⟩)

theorem lineFeed_not_mem_of_mem_lines (hm : m ∈ l.lines) : '\n' ∉ m.text := by
  unfold lines at hm
  split at hm
  · obtain ⟨hm, hne⟩ := List.mem_filter.1 hm
    have hpart := List.mem_map_of_mem (f := (·.text)) hm
    rw [map_text_split] at hpart
    rcases Text.mem_intersperse hpart with heq | hpart
    · exact absurd heq (of_decide_eq_true hne)
    · exact Text.not_mem_of_mem_linesBy (by decide) hpart
  · rename_i hnone
    obtain rfl := List.mem_singleton.1 hm
    exact fun hmem => hnone (List.contains_iff_mem.2 hmem)

theorem lineFeed_not_mem_of_mem_wrap {width : Nat} {fold : Bool} (hm : m ∈ l.wrap width fold) :
    '\n' ∉ m.text := by
  obtain ⟨k, hk, hm⟩ := List.mem_flatMap.1 hm
  obtain ⟨n, hn, rfl⟩ := List.mem_map.1 hm
  have htabs := not_mem_expandTabs (by decide) (lineFeed_not_mem_of_mem_lines hk)
  have hpart := not_mem_of_mem_divide htabs (Text.flatten_wrap ..) hn
  rw [trimEnd, text_withText]
  exact fun hmem => hpart (List.mem_of_mem_take hmem)

end Line

namespace Strip

theorem cells_cons (style : Style) (t : Text) (s : Strip) :
    cells ((style, t) :: s) = t.cells + s.cells :=
  rfl

theorem cells_append (s u : Strip) : cells (s ++ u) = s.cells + u.cells := by
  induction s with
  | nil => exact (Nat.zero_add _).symm
  | cons p s ih => rw [List.cons_append, cells_cons, cells_cons, ih, Nat.add_assoc]

theorem cells_pad (style : Style) {width : Nat} {s : Strip} (h : s.cells ≤ width) :
    (s.pad style width).cells = width := by
  rw [pad, cells_append, cells_cons, Text.cells_replicate]
  exact Nat.add_sub_of_le h

end Strip

namespace Columns

theorem length_narrow (wide most excess sharing : Nat) (widths : List Nat) :
    (narrow wide most excess sharing widths).length = widths.length := by
  fun_induction narrow wide most excess sharing widths <;> simp_all

theorem length_fitIn (limit rounds : Nat) (widths : List Nat) :
    (fitIn limit rounds widths).length = widths.length := by
  induction rounds generalizing widths with
  | zero => rfl
  | succ rounds ih =>
    rw [fitIn]
    split
    · rfl
    · rw [ih, step, length_narrow]

theorem widest_le {n : Nat} {widths : List Nat} (h : ∀ w ∈ widths, w ≤ n) : widest widths ≤ n := by
  induction widths with
  | nil => exact Nat.zero_le n
  | cons w widths ih =>
    rw [List.forall_mem_cons] at h
    exact Nat.max_le.2 ⟨h.1, ih h.2⟩

end Columns

namespace Table

variable {c : Cell} {cells : List Cell} {bar : Char}

/-! ## Cells of one line -/

/-- A cell has one line, and room for its stretches and the margins. -/
def Cell.IsWhole (c : Cell) (l : Line) : Prop :=
  c.lines = [l] ∧ l.cells + margin ≤ c.width

def Cell.IsUnbroken (c : Cell) : Prop :=
  ∃ l, c.IsWhole l ∧ '\n' ∉ l.text

theorem cells_of_strip {l : Line} {style : Style} {s : Strip} (h : l.strip style = .ok s) :
    s.cells = l.cells ∧ s.flatMap (·.2) = l.text := by
  obtain ⟨marks, -, h⟩ := exists_of_bind h
  obtain rfl := Except.ok.inj h
  constructor
  · simp only [Strip.cells, Line.cells, Columns.total, List.foldr_map]
  · rw [List.flatMap_map]
    exact l.flatMap_segments

theorem Cell.exists_of_write {l : Line} {written : Text} (hc : c.IsWhole l)
    (h : c.write 0 = .ok written) : ∃ (s : Strip) (n : Nat), written = s.write ∧
      s.flatMap (·.2) = ' ' :: l.text ++ List.replicate n ' ' ++ [' '] := by
  have hline : c.lines[0]? = some l := by rw [hc.1]; rfl
  unfold Cell.write at h
  rw [hline] at h
  obtain ⟨shown, hshown, rfl⟩ := exists_of_map h
  obtain ⟨inner, hinner, hshown⟩ := exists_of_bind hshown
  obtain rfl := Except.ok.inj hshown
  obtain ⟨hcells, htext⟩ := cells_of_strip hinner
  have hroom : inner.cells + margin ≤ c.width := hcells ▸ hc.2
  have hblank : Text.cells [' '] = 1 := by decide
  let padded : Strip := (c.style, [' ']) :: inner.pad c.style (c.width - margin) ++
    [(c.style, [' '])]
  have hpadded : padded.cells = c.width := by
    have hinner : inner.cells ≤ c.width - margin := by omega
    simp only [padded, List.cons_append, Strip.cells_cons, Strip.cells_append,
      Strip.cells_pad c.style hinner, hblank]
    unfold margin at hroom ⊢
    exact (by omega : 1 + (c.width - 2 + (1 + 0)) = c.width)
  -- The stretches fill the width together with the blanks, so that none is cut and none is added.
  refine ⟨padded, c.width - margin - inner.cells, ?_, ?_⟩
  · rw [Strip.crop_of_le (by omega : inner.cells ≤ c.width - margin)]
    change (Strip.pad c.style c.width (padded.crop c.width)).write = padded.write
    rw [Strip.crop_of_le (Nat.le_of_eq hpadded),
      Strip.write_pad_of_le _ (Nat.le_of_eq hpadded.symm)]
  · simp [padded, Strip.pad, htext]

theorem exists_of_writeRow {row : Text} (h : ∀ d ∈ c :: cells, ∃ l, d.IsWhole l)
    (hrow : writeRow bar (c :: cells) = .ok row) : ∃ first others, c.write 0 = .ok first ∧
      cells.mapM (·.write 0) = .ok others ∧
      row = bar :: (first ++ bar :: (others.flatMap (· ++ [bar]) ++ ['\n'])) := by
  -- Every cell has one line, so the row is one line high.
  have hheight : Columns.widest ((c :: cells).map (·.lines.length)) = 1 := by
    have hlengths : ∀ n ∈ (c :: cells).map (·.lines.length), n = 1 := by
      intro n hn
      obtain ⟨d, hd, rfl⟩ := List.mem_map.1 hn
      obtain ⟨l, hl, -⟩ := h d hd
      rw [hl, List.length_singleton]
    refine Nat.le_antisymm (Columns.widest_le fun n hn => Nat.le_of_eq (hlengths n hn)) ?_
    have hfirst : c.lines.length = 1 := hlengths _ List.mem_cons_self
    rw [List.map_cons, Columns.widest, List.foldr_cons, hfirst]
    exact Nat.le_max_left ..
  unfold writeRow at hrow
  rw [hheight] at hrow
  obtain ⟨lines, hlines, rfl⟩ := exists_of_map hrow
  obtain ⟨line, hline, hlines⟩ := exists_of_bind hlines
  obtain rfl := Except.ok.inj hlines
  obtain ⟨written, hwritten, hline⟩ := exists_of_bind hline
  obtain rfl := Except.ok.inj hline
  rw [List.mapM_cons] at hwritten
  obtain ⟨first, hfirst, hwritten⟩ := exists_of_bind hwritten
  obtain ⟨others, hothers, hwritten⟩ := exists_of_bind hwritten
  obtain rfl := Except.ok.inj hwritten
  exact ⟨first, others, hfirst, hothers, by simp⟩

/-! ## What is read of a row -/

def IsRow (row : Text) : Prop :=
  ∃ t, row = '│' :: t ++ ['\n'] ∧ '\n' ∉ t

def ShowsFirst (t row : Text) : Prop :=
  '\n' ∉ t ∧ ∃ n others, '\n' ∉ others ∧
    row = '│' :: ' ' :: t ++ List.replicate n ' ' ++ ' ' :: '│' :: others ++ ['\n']

theorem lineFeed_not_mem_of_write {l : Line} {written : Text} (hc : c.IsWhole l)
    (hl : '\n' ∉ l.text) (h : c.write 0 = .ok written) : '\n' ∉ written := by
  obtain ⟨s, n, rfl, hs⟩ := Cell.exists_of_write hc h
  refine Strip.not_mem_write (by decide) ?_
  simp [hs, hl]

theorem parts_of_writeRow {row : Text}
    (h : ∀ d ∈ c :: cells, d.IsUnbroken)
    (hrow : writeRow '│' (c :: cells) = .ok row) : ∃ first others, c.write 0 = .ok first ∧
      row = '│' :: (first ++ '│' :: (others ++ ['\n'])) ∧ '\n' ∉ first ∧ '\n' ∉ others := by
  obtain ⟨first, others, hfirst, hothers, rfl⟩ :=
    exists_of_writeRow (fun d hd => (h d hd).imp fun _ => And.left) hrow
  refine ⟨first, _, hfirst, rfl, ?_, ?_⟩
  · obtain ⟨l, hl, hfeed⟩ := h c List.mem_cons_self
    exact lineFeed_not_mem_of_write hl hfeed hfirst
  · intro hmem
    obtain ⟨written, hwritten, hmem⟩ := List.mem_flatMap.1 hmem
    obtain ⟨d, hd, hwrite⟩ := exists_mem_of_mapM hothers hwritten
    obtain ⟨l, hl, hfeed⟩ := h d (List.mem_cons_of_mem c hd)
    have hnot := lineFeed_not_mem_of_write hl hfeed hwrite
    simp [hnot] at hmem

theorem withoutCodes_bar (t : Text) :
    Text.withoutCodes ('│' :: (t ++ ['\n'])) = '│' :: (t.withoutCodes ++ ['\n']) := by
  have hbar := Text.withoutCodes_append_of_not_mem (t := ['│']) (by decide) (t ++ ['\n'])
  have hend := Text.withoutCodes_append (c := '\n') (by decide) t []
  exact hbar.trans (congrArg ('│' :: ·) hend)

theorem lineFeed_not_mem_withoutCodes {t : Text} (h : '\n' ∉ t) : '\n' ∉ t.withoutCodes :=
  fun hmem => h (Text.mem_of_mem_withoutCodesFrom hmem)

theorem isRow_withoutCodes {row : Text}
    (h : ∀ d ∈ c :: cells, d.IsUnbroken)
    (hrow : writeRow '│' (c :: cells) = .ok row) : IsRow row.withoutCodes := by
  obtain ⟨first, others, -, rfl, hfirst, hothers⟩ := parts_of_writeRow h hrow
  have hnot : '\n' ∉ first ++ '│' :: others := by simp [hfirst, hothers]
  have hread := withoutCodes_bar (first ++ '│' :: others)
  rw [List.append_assoc, List.cons_append] at hread
  exact ⟨_, hread, lineFeed_not_mem_withoutCodes hnot⟩

theorem showsFirst_withoutCodes {l : Line} {t row : Text} {n : Nat}
    (h : ∀ d ∈ c :: cells, d.IsUnbroken) (hc : c.IsWhole l)
    (hescape : '\x1b' ∉ t) (ht : l.text = t ++ List.replicate n ' ')
    (hrow : writeRow '│' (c :: cells) = .ok row) : ShowsFirst t row.withoutCodes := by
  obtain ⟨first, others, hfirst, rfl, -, hothers⟩ := parts_of_writeRow h hrow
  obtain ⟨s, m, rfl, hs⟩ := Cell.exists_of_write hc hfirst
  have hfeed : '\n' ∉ t := by
    obtain ⟨k, hk, hfeed⟩ := h c List.mem_cons_self
    obtain rfl := List.singleton_inj.1 (hc.1.symm.trans hk.1)
    exact fun hmem => hfeed (ht ▸ List.mem_append_left _ hmem)
  have htext : s.flatMap (·.2) = ' ' :: t ++ List.replicate (n + m) ' ' ++ [' '] := by
    rw [hs, ht, ← List.replicate_append_replicate]
    simp
  have hplain : ∀ p ∈ s, '\x1b' ∉ p.2 := by
    intro p hp hmem
    have hall : '\x1b' ∈ s.flatMap (·.2) := List.mem_flatMap.2 ⟨p, hp, hmem⟩
    simp [htext, hescape] at hall
  refine ⟨hfeed, n + m, Text.withoutCodes others, lineFeed_not_mem_withoutCodes hothers, ?_⟩
  have hbar := Text.withoutCodes_append_of_not_mem (t := ['│']) (by decide)
    (s.write ++ '│' :: (others ++ ['\n']))
  rw [Strip.withoutCodes_write hplain, withoutCodes_bar, htext] at hbar
  simpa using hbar

/-! ## Contents that are neither wrapped nor cut -/

/-- A column of a width shows the content as it is: on one line, and with room for the stretches
that the marks divide it into. A tab is not shown as it is. -/
structure ShowsWhole (centred : Bool) (width : Nat) (content : Line) : Prop where
  whole : (content.wrap (width - margin) false).map (·.text) = [content.text]
  fits : content.text.cells ≤ width - margin
  room : ∀ l ∈ cellLines centred (width - margin) content, l.cells + margin ≤ width

instance (centred : Bool) (width : Nat) (content : Line) :
    Decidable (ShowsWhole centred width content) :=
  decidable_of_iff
    ((content.wrap (width - margin) false).map (·.text) = [content.text] ∧
      content.text.cells ≤ width - margin ∧
      ∀ l ∈ cellLines centred (width - margin) content, l.cells + margin ≤ width)
    ⟨fun ⟨whole, fits, room⟩ => ⟨whole, fits, room⟩,
      fun ⟨whole, fits, room⟩ => ⟨whole, fits, room⟩⟩

theorem not_mem_truncate {l : Line} {d : Char} (hblank : d ≠ ' ') (hcut : d ≠ '…')
    (h : d ∉ l.text) (width : Nat) : d ∉ (l.truncate width).text := by
  unfold Line.truncate
  split
  · exact h
  · rw [Line.text_withText, List.mem_append, not_or]
    exact ⟨Text.not_mem_fitCells hblank h _, by simpa using hcut⟩

theorem lineFeed_not_mem_align {l : Line} (h : '\n' ∉ l.text) (centred : Bool) (width : Nat) :
    '\n' ∉ (align centred width l).text := by
  unfold align
  split
  · have hstrip : '\n' ∉ (l.withText l.text.stripEnd).text := by
      rw [Line.text_withText, Text.stripEnd, List.mem_reverse]
      exact fun hmem => h (List.mem_reverse.1 ((List.dropWhile_sublist _).subset hmem))
    have hshown := not_mem_truncate (by decide) (by decide) hstrip width
    rw [Line.pad, List.mem_append, not_or]
    refine ⟨?_, by simp⟩
    change '\n' ∉ List.replicate _ ' ' ++ _
    simp [hshown]
  · split
    · simp [Line.pad, h]
    · exact not_mem_truncate (by decide) (by decide) h width

theorem ShowsWhole.exists_isWhole {centred : Bool} {width : Nat} {content : Line}
    (h : ShowsWhole centred width content) (style : Style) :
    ∃ l, Cell.IsWhole ⟨style, width, cellLines centred (width - margin) content⟩ l ∧
      '\n' ∉ l.text ∧ (centred = false → ∃ n, l.text = content.text ++ List.replicate n ' ') := by
  obtain ⟨m, hwrap, hm⟩ := List.map_eq_singleton_iff.1 h.whole
  have hlines : cellLines centred (width - margin) content =
      [align centred (width - margin) m] := by
    rw [cellLines, hwrap, List.map_singleton]
  have hfeed : '\n' ∉ m.text :=
    Line.lineFeed_not_mem_of_mem_wrap (hwrap ▸ List.mem_singleton_self m)
  refine ⟨_, ⟨hlines, h.room _ (hlines ▸ List.mem_singleton_self _)⟩,
    lineFeed_not_mem_align hfeed _ _, ?_⟩
  rintro rfl
  rw [align, if_neg Bool.false_ne_true, if_pos (hm ▸ h.fits), Line.pad, hm]
  exact ⟨_, rfl⟩

/-! ## Tables -/

def Uncut (t : Table) (width : Nat) : Prop :=
  ∀ row ∈ t.rows, ∀ p ∈ (t.columns.zip row).zip (t.widths width),
    ShowsWhole p.1.1.centred p.2 p.1.2

instance (t : Table) (width : Nat) : Decidable (t.Uncut width) :=
  inferInstanceAs (Decidable (∀ row ∈ t.rows, ∀ p ∈ (t.columns.zip row).zip (t.widths width),
    ShowsWhole p.1.1.centred p.2 p.1.2))

/-- Every row has a content for each column, and the first column is not centred. -/
structure IsRegular (t : Table) : Prop where
  length_row : ∀ row ∈ t.rows, row.length = t.columns.length
  first : ∃ column columns, t.columns = column :: columns ∧ column.centred = false

theorem length_widths {t : Table} (h : ∀ row ∈ t.rows, row.length = t.columns.length)
    (width : Nat) : (t.widths width).length = t.columns.length := by
  have hnatural : ∀ rows : List (List Line), (∀ row ∈ rows, row.length = t.columns.length) →
      (rows.foldr (List.zipWith fun l w => max (breadth l) w)
        (t.headings.map breadth)).length = t.columns.length := by
    intro rows hrows
    induction rows with
    | nil => simp [headings]
    | cons row rows ih =>
      rw [List.forall_mem_cons] at hrows
      rw [List.foldr_cons, List.length_zipWith, hrows.1, ih hrows.2, Nat.min_self]
  rw [widths, Columns.fit, Columns.length_fitIn, List.length_map, naturalWidths,
    List.length_map, hnatural _ h]

theorem exists_rows_of_write {t : Table} {width : Nat} {text : Text}
    (h : t.write width = .ok text) : ∃ heading rows,
      text = top.write (t.widths width) ++ (heading ++ (underHeading.write (t.widths width) ++
        (rows.flatten ++ bottom.write (t.widths width)))) ∧
      t.rows.mapM (fun contents => writeRow '│' (t.rowCells (t.widths width) contents)) =
        .ok rows := by
  obtain ⟨heading, -, h⟩ := exists_of_bind h
  obtain ⟨rows, hrows, h⟩ := exists_of_bind h
  obtain rfl := Except.ok.inj h
  exact ⟨heading, rows, by simp, hrows⟩

theorem exists_rowCells {t : Table} {width : Nat} {contents : List Line}
    (hregular : t.IsRegular) (huncut : t.Uncut width) (hmem : contents ∈ t.rows) :
    ∃ first c cells l n, contents.head? = some first ∧
      t.rowCells (t.widths width) contents = c :: cells ∧ (∀ d ∈ c :: cells, d.IsUnbroken) ∧
      c.IsWhole l ∧ l.text = first.text ++ List.replicate n ' ' := by
  obtain ⟨column, columns, hcolumns, hleft⟩ := hregular.first
  have hlength := hregular.length_row contents hmem
  have hwidths := length_widths hregular.length_row width
  have hwhole := huncut contents hmem
  rw [hcolumns] at hlength hwidths hwhole
  obtain ⟨w, ws, hw⟩ := List.exists_cons_of_length_eq_add_one hwidths
  obtain ⟨first, others, rfl⟩ := List.exists_cons_of_length_eq_add_one hlength
  rw [hw, List.zip_cons_cons, List.zip_cons_cons, List.forall_mem_cons] at hwhole
  obtain ⟨l, hl, hfeed, htext⟩ := hwhole.1.exists_isWhole column.style
  obtain ⟨n, hn⟩ := htext hleft
  refine ⟨first, _, _, l, n, rfl, by rw [rowCells, hcolumns, hw]; rfl, ?_, hl, hn⟩
  refine List.forall_mem_cons.2 ⟨⟨l, hl, hfeed⟩, fun d hd => ?_⟩
  rw [← List.map_uncurry_zip_eq_zipWith] at hd
  obtain ⟨p, hp, rfl⟩ := List.mem_map.1 hd
  obtain ⟨k, hk, hfeed, -⟩ := (hwhole.2 p hp).exists_isWhole p.1.1.style
  exact ⟨k, hk, hfeed⟩

theorem read_of_writeRow {t : Table} {width : Nat} {contents : List Line} {row : Text}
    (hregular : t.IsRegular) (huncut : t.Uncut width) (hmem : contents ∈ t.rows)
    (hrow : writeRow '│' (t.rowCells (t.widths width) contents) = .ok row) :
    (∃ line, row = line ++ ['\n']) ∧ IsRow row.withoutCodes ∧
      ∀ first, contents.head? = some first → '\x1b' ∉ first.text →
        ShowsFirst first.text row.withoutCodes := by
  obtain ⟨first, c, cells, l, n, hfirst, hcells, hunbroken, hl, hn⟩ :=
    exists_rowCells hregular huncut hmem
  rw [hcells] at hrow
  refine ⟨?_, isRow_withoutCodes hunbroken hrow, fun given hgiven hescape => ?_⟩
  · obtain ⟨written, others, -, hparts, -⟩ := parts_of_writeRow hunbroken hrow
    exact ⟨'│' :: (written ++ '│' :: others), by simpa using hparts⟩
  · obtain rfl := Option.some.inj (hfirst.symm.trans hgiven)
    exact showsFirst_withoutCodes hunbroken hl hescape hn hrow

theorem Frame.withoutCodes_write {f : Frame}
    (h : [f.left, f.across, f.joint, f.right].all isOutsideCodes) (widths : List Nat)
    (before behind : Text) : Text.withoutCodes (before ++ (f.write widths ++ behind)) =
      before.withoutCodes ++ (f.write widths ++ behind.withoutCodes) := by
  rw [List.all_eq_true] at h
  have hframe : '\x1b' ∉ [f.left, f.across, f.joint, f.right] := fun hmem =>
    absurd (h _ hmem) (by decide)
  simp only [List.mem_cons, List.not_mem_nil, or_false, not_or] at hframe
  have hacross : '\x1b' ∉ [f.joint].intercalate (widths.map (List.replicate · f.across)) := by
    intro hmem
    rcases Text.mem_intercalate hmem with hmem | ⟨t, ht, hmem⟩
    · exact hframe.2.2.1 (List.mem_singleton.1 hmem)
    · obtain ⟨n, -, rfl⟩ := List.mem_map.1 ht
      exact hframe.2.1 (List.eq_of_mem_replicate hmem)
  have hwrite : '\x1b' ∉ f.write widths := by simp [Frame.write, hframe, hacross]
  rw [← Text.withoutCodes_append_of_not_mem hwrite]
  exact Text.withoutCodes_append (h _ List.mem_cons_self) before _

theorem withoutCodes_flatten {rows : List Text} (h : ∀ row ∈ rows, ∃ line, row = line ++ ['\n'])
    (behind : Text) : Text.withoutCodes (rows.flatten ++ behind) =
      (rows.map Text.withoutCodes).flatten ++ behind.withoutCodes := by
  induction rows with
  | nil => rfl
  | cons row rows ih =>
    rw [List.forall_mem_cons] at h
    obtain ⟨⟨line, rfl⟩, h⟩ := h
    rw [List.flatten_cons, List.append_assoc, Text.withoutCodes_append_of_last (by decide), ih h,
      List.map_cons, List.flatten_cons, List.append_assoc]

/-- A table that is neither wrapped nor cut is read as its heading and one line for each row,
whatever stands before and behind it. -/
theorem exists_read_of_write {t : Table} {width : Nat} {text : Text} (hregular : t.IsRegular)
    (huncut : t.Uncut width) (h : t.write width = .ok text) (before behind : Text) :
    ∃ heading rows, Text.withoutCodes (before ++ (text ++ behind)) =
      before.withoutCodes ++ (top.write (t.widths width) ++ (heading ++
        (underHeading.write (t.widths width) ++ (rows.flatten ++
          (bottom.write (t.widths width) ++ behind.withoutCodes))))) ∧
      List.Forall₂ (fun contents row => IsRow row ∧ ∀ first, contents.head? = some first →
        '\x1b' ∉ first.text → ShowsFirst first.text row) t.rows rows := by
  obtain ⟨heading, rows, rfl, hrows⟩ := exists_rows_of_write h
  have hended : ∀ row ∈ rows, ∃ line, row = line ++ ['\n'] := by
    intro row hrow
    obtain ⟨contents, hmem, hwrite⟩ := exists_mem_of_mapM hrows hrow
    exact (read_of_writeRow hregular huncut hmem hwrite).1
  -- Codes are taken out line by line, because none reaches over a line feed.
  refine ⟨Text.withoutCodes heading, rows.map Text.withoutCodes, ?_, ?_⟩
  · simp only [List.append_assoc]
    rw [Frame.withoutCodes_write (by decide), Frame.withoutCodes_write (by decide),
      withoutCodes_flatten hended]
    have hbottom := Frame.withoutCodes_write (f := bottom) (by decide) (t.widths width) [] behind
    exact congrArg (fun read => _ ++ (_ ++ (_ ++ (_ ++ (_ ++ read))))) hbottom
  · rw [List.forall₂_map_right_iff]
    have hread := (List.forall₂_and_left (p := (· ∈ t.rows)) ..).2
      ⟨fun _ hmem => hmem, forall₂_of_mapM hrows⟩
    exact hread.imp fun _ _ hrow => (read_of_writeRow hregular huncut hrow.1 hrow.2).2

end Table

end Report.Console

end LayoutLint
