import LayoutLint.Proofs.Console.Rows
import LayoutLint.Proofs.Quoted
import Mathlib.Algebra.GroupWithZero.Nat

/-! Lines that are not folded. A printable text that has room on a line is on that line alone, since
the words of the text take the cells that the text takes. -/
namespace LayoutLint

theorem Reading.joined_next {r : Reading} {c : Char} (hc : c ≠ joiner) (hr : r.joined = false) :
    (r.next c).joined = false := by
  simp only [next, hr, Bool.false_eq_true, if_false, if_neg hc]
  split
  · rfl
  · split
    · exact hr
    · rfl

namespace Text

variable {t u : Text} {r s : Reading}

/-! ## Cells on both sides of a blank -/

/-- Of a reading the cells behind it depend on two things: whether the next character is joined,
and whether the last one has two forms. -/
theorem cellsFrom_congr (hjoined : r.joined = s.joined)
    (hforms : r.shown.any hasTwoForms = s.shown.any hasTwoForms) (t : Text) :
    cellsFrom r t = cellsFrom s t := by
  induction t generalizing r s with
  | nil => rfl
  | cons c t ih =>
    have hcells : r.cells c = s.cells c := by simp only [Reading.cells, hjoined, hforms]
    have hnext : (r.next c).joined = (s.next c).joined ∧
        (r.next c).shown.any hasTwoForms = (s.next c).shown.any hasTwoForms := by
      simp only [Reading.next, hjoined]
      split
      · exact ⟨rfl, hforms⟩
      · split
        · exact ⟨rfl, hforms⟩
        · split
          · exact ⟨rfl, rfl⟩
          · split
            · exact ⟨hjoined, hforms⟩
            · exact ⟨rfl, rfl⟩
    rw [cellsFrom, cellsFrom, hcells, ih hnext.1 hnext.2]

theorem cellsFrom_blank (hr : r.joined = false) (t : Text) :
    cellsFrom r (' ' :: t) = 1 + t.cells := by
  have hforms : (some ' ').any hasTwoForms = (none : Option Char).any hasTwoForms := by
    decide +kernel
  have hafter : cellsFrom { shown := some ' ' } t = t.cells :=
    cellsFrom_congr (r := { shown := some ' ' }) (s := {}) rfl hforms t
  rw [cellsFrom, r.cells_blank hr, r.next_blank hr, hafter]

theorem cells_blank_cons (t : Text) : cells (' ' :: t) = 1 + t.cells :=
  cellsFrom_blank rfl t

theorem cellsFrom_append_blank (ht : joiner ∉ t) (hr : r.joined = false) (u : Text) :
    cellsFrom r (t ++ ' ' :: u) = cellsFrom r t + cells (' ' :: u) := by
  induction t generalizing r with
  | nil => rw [List.nil_append, cellsFrom_blank hr, cells_blank_cons, cellsFrom, Nat.zero_add]
  | cons c t ih =>
    rw [List.mem_cons, not_or] at ht
    rw [List.cons_append, cellsFrom, cellsFrom, ih ht.2 (Reading.joined_next (Ne.symm ht.1) hr),
      Nat.add_assoc]

theorem cellsFrom_le_append (r : Reading) (t u : Text) :
    cellsFrom r t ≤ cellsFrom r (t ++ u) := by
  induction t generalizing r with
  | nil => exact Nat.zero_le _
  | cons c t ih => exact Nat.add_le_add_left (ih _) _

/-! ## Words of printable text -/

theorem eq_blank_of_isPrintable {c : Char} (h : isPrintable c) (hc : isBlank c) : c = ' ' := by
  have hranges : ∀ r ∈ blankRanges, ∀ n ∈ List.range' r.1 (r.2 + 1 - r.1),
      n = 0x20 ∨ isPrintable (Char.ofNat n) = false := by decide +kernel
  simp only [isBlank, List.any_eq_true, Bool.and_eq_true, decide_eq_true_eq] at hc
  obtain ⟨r, hr, hfirst, hlast⟩ := hc
  have hmem : c.toNat ∈ List.range' r.1 (r.2 + 1 - r.1) := List.mem_range'_1.2 ⟨hfirst, by omega⟩
  rcases hranges r hr c.toNat hmem with hn | hnot
  · exact (Char.ofNat_toNat c).symm.trans (congrArg Char.ofNat hn)
  · rw [Char.ofNat_toNat, h] at hnot
    cases hnot

theorem Printable.joiner_not_mem (h : t.Printable) : joiner ∉ t :=
  h.not_mem (by decide +kernel)

theorem exists_cuts_cons (c : Char) (t : Text) :
    ∃ word more, cuts (c :: t) = (c :: word) :: more := by
  rw [cuts]
  split
  · split
    · exact ⟨_, _, rfl⟩
    · exact ⟨_, _, rfl⟩
  · exact ⟨_, _, rfl⟩

theorem cells_of_cuts (h : t.Printable) (hr : r.joined = false) {first : Text} {more : List Text}
    (hcuts : t.cuts = first :: more) :
    cellsFrom r first + (more.map cells).sum = cellsFrom r t := by
  induction t generalizing r first more with
  | nil => cases hcuts
  | cons c t ih =>
    obtain ⟨hc, ht⟩ := printable_cons.1 h
    cases t with
    | nil =>
      obtain ⟨rfl, rfl⟩ := List.cons.inj hcuts
      rfl
    | cons d t =>
      obtain ⟨word, others, hothers⟩ := exists_cuts_cons d t
      rw [cuts, hothers] at hcuts
      dsimp only at hcuts
      -- Either a blank ends the word and the count begins anew, or the word goes on.
      split at hcuts
      · rename_i hblank
        rw [Bool.and_eq_true] at hblank
        obtain rfl := eq_blank_of_isPrintable hc hblank.1
        obtain ⟨rfl, rfl⟩ := List.cons.inj hcuts
        rw [List.map_cons, List.sum_cons, cellsFrom_blank hr, cellsFrom_blank hr]
        exact congrArg (1 + ·) (ih (r := {}) ht rfl hothers)
      · obtain ⟨rfl, rfl⟩ := List.cons.inj hcuts
        have hjoiner : c ≠ joiner := fun heq => h.joiner_not_mem (heq ▸ List.mem_cons_self)
        have hjoined : (r.next c).joined = false := Reading.joined_next hjoiner hr
        rw [cellsFrom, Nat.add_assoc, ih ht hjoined hothers, ← cellsFrom]

theorem words_eq_cuts {c : Char} (hc : isBlank c = false) (t : Text) :
    words (c :: t) = cuts (c :: t) := by
  obtain ⟨word, more, hcuts⟩ := exists_cuts_cons c t
  rw [words, hcuts]
  cases more with
  | nil => rfl
  | cons next more => simp [hc]

theorem stripEnd_prefix (t : Text) : t.stripEnd <+: t := by
  rw [stripEnd, ← List.reverse_suffix, List.reverse_reverse]
  exact List.dropWhile_suffix isBlank

theorem stripEnd_concat {c : Char} (hc : isBlank c = false) (t : Text) :
    stripEnd (t ++ [c]) = t ++ [c] := by
  simp [stripEnd, hc]

/-! ## Text that has room -/

theorem fill_of_sum_le {width size : Nat} {fold : Bool} {begun : Text} {words : List Text}
    (h : size + (words.map cells).sum ≤ width) :
    fill width fold begun size words = [begun ++ words.flatten] := by
  induction words generalizing begun size with
  | nil => simp [fill]
  | cons word words ih =>
    have hstrip : word.stripEnd.cells ≤ word.cells := by
      obtain ⟨blanks, hblanks⟩ := stripEnd_prefix word
      exact Nat.le_trans (cellsFrom_le_append {} _ blanks) (Nat.le_of_eq (congrArg cells hblanks))
    rw [List.map_cons, List.sum_cons] at h
    rw [fill, if_pos (by omega), ih (by omega), List.flatten_cons, List.append_assoc]

/-- A printable text with room on a line of a width. No blank sticks out of it. -/
structure FitsIn (width : Nat) (t : Text) : Prop where
  printable : t.Printable
  begins : ∃ c rest, t = c :: rest ∧ isBlank c = false
  ends : ∃ front c, t = front ++ [c] ∧ isBlank c = false
  cells_le : t.cells ≤ width

theorem FitsIn.wrap_eq {width : Nat} (h : t.FitsIn width) (fold : Bool) :
    t.wrap width fold = [t] := by
  obtain ⟨c, rest, rfl, hblank⟩ := h.begins
  obtain ⟨word, more, hcuts⟩ := exists_cuts_cons c rest
  have hcells := cells_of_cuts h.printable (r := {}) rfl hcuts
  have hsum : ((words (c :: rest)).map cells).sum = cells (c :: rest) := by
    rw [words_eq_cuts hblank, hcuts]
    exact hcells
  rw [wrap, fill_of_sum_le (by rw [hsum, Nat.zero_add]; exact h.cells_le), flatten_words,
    List.nil_append]

end Text

namespace Report.Console

namespace Line

variable {width : Nat} {l : Line}

theorem wrap_eq_self (h : l.text.FitsIn width) (fold : Bool) : l.wrap width fold = [l] := by
  have hfeed : '\n' ∉ l.text := h.printable.not_mem (by decide)
  have htab : '\t' ∉ l.text := h.printable.not_mem (by decide)
  have htrim : l.trimEnd width = l := by
    obtain ⟨front, c, hfront, hblank⟩ := h.ends
    have hstrip : l.text.stripEnd = l.text := hfront ▸ Text.stripEnd_concat hblank front
    rw [trimEnd, hstrip, Nat.sub_self, Nat.zero_min, Nat.sub_zero, List.take_length, withText,
      if_neg (Nat.lt_irrefl _)]
  have hlines : l.lines = [l] := by simp [lines, hfeed]
  have htabs : l.expandTabs = l := by simp [expandTabs, htab]
  simp [wrap, hlines, htabs, h.wrap_eq, divide, htrim]

/-! ## Stretches -/

theorem exists_segmentsFrom_cons (marks : List Mark) (offset : Nat) (c : Char) (t : Text) :
    ∃ part more, segmentsFrom marks offset (c :: t) = (offset, part) :: more := by
  rw [segmentsFrom]
  split
  · split
    · exact ⟨_, _, rfl⟩
    · exact ⟨_, _, rfl⟩
  · exact ⟨_, _, rfl⟩

theorem segmentsFrom_append {marks : List Mark} {offset : Nat} {t u : Text} (ht : t ≠ [])
    (hinside : ∀ i, offset < i → i < offset + t.length → marks.any (·.isEdge i) = false)
    (hedge : u ≠ [] → marks.any (·.isEdge (offset + t.length))) :
    segmentsFrom marks offset (t ++ u) =
      (offset, t) :: segmentsFrom marks (offset + t.length) u := by
  induction t generalizing offset with
  | nil => exact absurd rfl ht
  | cons c t ih =>
    cases t with
    | nil =>
      cases u with
      | nil => rfl
      | cons d u =>
        obtain ⟨part, more, hmore⟩ := exists_segmentsFrom_cons marks (offset + 1) d u
        have hlast : marks.any (·.isEdge (offset + 1)) := hedge (List.cons_ne_nil d u)
        rw [List.singleton_append, segmentsFrom, List.length_singleton, hmore]
        simp only [hlast, if_true]
    | cons d t =>
      have hlength : offset + 1 + (d :: t).length = offset + (c :: d :: t).length := by
        simp only [List.length_cons]
        omega
      have hnone : ∀ i, offset + 1 < i → i < offset + 1 + (d :: t).length →
          marks.any (·.isEdge i) = false := fun i hi hstop =>
        hinside i (by omega) (by omega)
      -- Without an edge behind it the first character goes with the next one.
      have hfirst : marks.any (·.isEdge (offset + 1)) = false :=
        hinside (offset + 1) (by omega) (by simp)
      rw [List.cons_append, segmentsFrom, ih (List.cons_ne_nil d t) hnone (hlength ▸ hedge),
        hlength]
      simp only [hfirst, Bool.false_eq_true, if_false]

theorem strip_styled_append (style : Style) {t u : Text} (ht : t ≠ []) (hu : u ≠ []) :
    (styled style t ++ ⟨u, []⟩ : Line).strip .plain =
      .ok [(style.onto .plain, t), (.plain, u)] := by
  let m : Mark := ⟨0, t.length, .ok style⟩
  have hinside : ∀ i, i ≠ 0 → i ≠ t.length → [m].any (·.isEdge i) = false := by
    intro i hi hstop
    simp [m, Mark.isEdge, Ne.symm hi, Ne.symm hstop]
  have hedge : [m].any (·.isEdge (0 + t.length)) := by simp [m, Mark.isEdge]
  have hsegments : segments (styled style t ++ ⟨u, []⟩ : Line) = [(0, t), (t.length, u)] := by
    have hlast : segmentsFrom [m] t.length (u ++ []) = [(t.length, u)] :=
      segmentsFrom_append hu (fun i hi _ => hinside i (by omega) (by omega))
        fun hne => absurd rfl hne
    rw [List.append_nil] at hlast
    change segmentsFrom [m] 0 (t ++ u) = _
    rw [segmentsFrom_append ht (fun i hi hstop => hinside i (by omega) (by omega)) fun _ => hedge,
      Nat.zero_add, hlast]
  have hstart : styleAt .plain [(m, style)] 0 = style.onto .plain := by
    simp [styleAt, m, Mark.covers, List.length_pos_iff.2 ht]
  have hend : styleAt .plain [(m, style)] t.length = .plain := by
    simp [styleAt, m, Mark.covers]
  have hmarks : (styled style t ++ ⟨u, []⟩ : Line).marks.mapM (fun m => m.style.map (m, ·)) =
      .ok [(m, style)] := rfl
  simp [strip, hmarks, hsegments, hstart, hend, bind, Except.bind, pure, Except.pure]

end Line

/-- Of a line that fits the stretches are written, and a line feed behind them. -/
theorem writeLines_of_fits {width : Nat} {l : Line} {s : Strip} (h : l.text.FitsIn width)
    (hstrip : l.strip .plain = .ok s) (hcells : s.cells ≤ width) :
    writeLines width l = .ok (s.write ++ ['\n']) := by
  have hcrop : l.crop width = l := by rw [Line.crop, if_pos h.cells_le]
  simp [writeLines, Line.wrap_eq_self h, hcrop, hstrip, Strip.crop_of_le hcells, bind, Except.bind,
    pure, Except.pure]

end Report.Console

end LayoutLint
