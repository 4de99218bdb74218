import Mathlib.Order.Bounds.Defs
import LayoutLint.Proofs.Conflicts
import LayoutLint.Proofs.LineStarts
import LayoutLint.Proofs.RunOrder

/-! Where a keyword stands after its fix. A reported keyword begins where the node before it ends,
so that no line ends between the two. The fix puts one line break there, and what follows it up to
the keyword, the indentation and what is left of the trivia, stays on one line. -/
namespace LayoutLint

namespace Text

theorem endsLineAt_drop (t : Text) (i j : Nat) :
    endsLineAt (t.drop i) j = t.endsLineAt (i + j) := by
  rw [endsLineAt, endsLineAt, List.drop_drop]

theorem endsLineAt_append_left {t : Text} (ht : ∀ c ∈ t, isLineBreak c = false) {j : Nat}
    (hj : j < t.length) (u : Text) : (t ++ u).endsLineAt j = false := by
  rw [endsLineAt, List.drop_append_of_le_length hj.le, List.drop_eq_getElem_cons hj]
  simp only [List.cons_append, endsLine, ht _ (List.getElem_mem hj), Bool.false_and]

theorem endsLineAt_append_right (t u : Text) (j : Nat) :
    (t ++ u).endsLineAt (t.length + j) = u.endsLineAt j := by
  rw [endsLineAt, endsLineAt, List.drop_length_add_append]

theorem not_insidePair_of_getLast?_take {t : Text} {k : Nat} (hk : k ≤ t.length)
    (h : (t.take k).getLast? ≠ some '\r') : ¬ t.InsidePair k := by
  have hlength : (t.take k).length = k := List.length_take_of_le hk
  intro hpair
  rw [← List.take_append_drop k t] at hpair
  have hjoint := (insidePair_length_iff (t.take k) (t.drop k)).1 (by rwa [hlength])
  exact h hjoint.1

section

variable {before : Text} {i : Nat} (hi : before.length = i) (line after : Text) (c : Char)
include hi

theorem drop_line : List.drop (i + 1 + line.length) (before ++ c :: (line ++ after)) = after := by
  have hparts : before ++ c :: (line ++ after) = before ++ [c] ++ line ++ after := by simp
  rw [hparts, ← hi]
  exact List.drop_left' (by simp only [List.length_append, List.length_singleton])

theorem slice_line :
    slice (before ++ c :: (line ++ after)) (i + 1) (i + 1 + line.length) = line := by
  have hparts : before ++ c :: (line ++ after) = before ++ [c] ++ (line ++ after) := by simp
  rw [slice, hparts, ← hi, List.drop_left' (by simp), Nat.add_sub_cancel_left, List.take_left]

end

end Text

namespace Options

/-- How many blanks lead to a column: as many tabs, but spaces up to the next full unit. -/
def Reaches (o : Options) (column count : Nat) : Prop :=
  if o.useTabs then count = column else IsLeast {m | o.size ∣ m ∧ column ≤ m} count

theorem isLeast_units {size : Nat} (hsize : 0 < size) (column : Nat) :
    IsLeast {m | size ∣ m ∧ column ≤ m} ((column + (size - 1)) / size * size) := by
  constructor
  · have hdivision := Nat.div_add_mod (column + (size - 1)) size
    have hrest := Nat.mod_lt (column + (size - 1)) hsize
    rw [Nat.mul_comm] at hdivision
    exact ⟨Nat.dvd_mul_left .., by omega⟩
  · rintro m ⟨⟨units, rfl⟩, hreach⟩
    have hbelow : column + (size - 1) < (units + 1) * size := by
      rw [Nat.succ_mul, Nat.mul_comm units]
      omega
    rw [Nat.mul_comm size units]
    exact Nat.mul_le_mul_right size (Nat.lt_succ_iff.1 ((Nat.div_lt_iff_lt_mul hsize).2 hbelow))

/-- No unit that can be built is so wide that a column other than zero goes lost in it. -/
theorem levelOf_eq_div {o : Options} (htabs : o.useTabs = false) (hsize : o.size < countLimit)
    (column : Nat) : o.levelOf column = (column + (o.size - 1)) / o.size := by
  have hpower : ∀ k, 63 ≤ k → countLimit ≤ Nat.pow 2 k := fun k hk =>
    Nat.pow_le_pow_right (by decide) hk
  have hlimit := hpower 1075 (by decide)
  have hpos := o.size_pos
  rw [levelOf, htabs, if_neg Bool.false_ne_true]
  generalize Nat.pow 2 1075 = limit at hlimit
  split
  · rename_i hlost
    obtain rfl : column = 0 := by
      refine Nat.eq_zero_of_not_pos fun hcolumn => ?_
      have := Nat.le_mul_of_pos_left limit hcolumn
      omega
    exact (Nat.div_eq_of_lt (by omega)).symm
  · rfl

theorem exists_blanks_eq {o : Options} (h : o.Usable) (column : Nat) : ∃ count,
    o.Reaches column count ∧ o.blanks (o.levelOf column) = List.replicate count o.blank := by
  cases htabs : o.useTabs with
  | true =>
    refine ⟨column, ?_, ?_⟩
    · rw [Reaches, htabs, if_pos rfl]
    · rw [blanks, unitWidth, levelOf, htabs, if_pos rfl, if_pos rfl, Nat.mul_one]
  | false =>
    have hsize : o.size < countLimit := by simpa [Usable, htabs] using h
    refine ⟨(column + (o.size - 1)) / o.size * o.size, ?_, ?_⟩
    · rw [Reaches, htabs, if_neg Bool.false_ne_true]
      exact isLeast_units o.size_pos column
    · rw [blanks, unitWidth, levelOf_eq_div htabs hsize, htabs, if_neg Bool.false_ne_true]

end Options

namespace Keyword

def remainder (target : Node) (t : Text) : Text :=
  t.slice (target.span.fullStart + min 1 target.span.triviaWidth) target.span.start

variable {t : Text} {n previous target : Node}

theorem eq_of_mem_pairs {c : Construct} {other : Node} (h : (previous, target) ∈ pairs n c)
    (hother : (other, target) ∈ pairs n c) : other = previous := by
  have hsymm : Std.Symm fun p q : Node × Node => p.2.kind ≠ q.2.kind := ⟨fun _ _ => Ne.symm⟩
  by_contra hne
  exact (pairwise_kind_pairs n c).forall hother h (fun heq => hne (congrArg Prod.fst heq)) rfl

theorem exists_pair_of_inspect {o : Options} {c : Construct} (hc : c ≠ .constructor)
    {vs : List Violation} (h : (c.inspect o t n).found = .ok vs) {v : Violation} (hv : v ∈ vs) :
    ∃ previous, (previous, v.node) ∈ pairs n c ∧ o.Usable ∧ v.node.span.start ≤ t.length ∧
      previous.lastLine t = v.node.line t ∧ v = violation o t v.node := by
  have hchecks : (checks o t (pairs n c)).found = .ok vs := by
    cases c with
    | constructor => exact absurd rfl hc
    | tryStatement => exact (found_inspectTry o t n).symm.trans h
    | ifStatement => exact (found_inspectIf o t n).symm.trans h
  obtain ⟨step, hstep, us, hus, hvus⟩ := Inspection.exists_of_mem_found_concat hchecks hv
  obtain ⟨⟨previous, target⟩, hpair, rfl⟩ := List.mem_map.1 hstep
  obtain ⟨ho, htarget, hline, rfl⟩ := report_of_check hus hvus
  exact ⟨previous, hpair, ho, htarget, hline, rfl⟩

theorem remainder_append_drop (target : Node) (t : Text) :
    remainder target t ++ t.drop target.span.start =
      t.drop (target.span.fullStart + min 1 target.span.triviaWidth) :=
  t.slice_append_drop (stop_breakBefore_le target [])

theorem apply_breakBefore (limits : Limits) (htarget : target.span.start ≤ t.length)
    (indent : Text) :
    (breakBefore target indent).apply limits t = .ok (t.take target.span.fullStart ++
      '\n' :: (indent ++ remainder target t ++ t.drop target.span.start)) := by
  rw [Fix.apply_of_le ((stop_breakBefore_le target indent).trans htarget), Text.splice,
    List.append_assoc indent, remainder_append_drop, List.append_assoc]
  rfl

theorem length_remainder (htarget : target.span.start ≤ t.length) :
    (remainder target t).length = target.span.triviaWidth - min 1 target.span.triviaWidth := by
  have hfull := target.span.fullStart_le_start
  rw [remainder, Text.length_slice, Span.triviaWidth]
  omega

section

variable (hline : previous.lastLine t = target.line t)
  (hprevious : previous.span.stop ≤ target.span.fullStart)
include hline hprevious

theorem endsLineAt_trivia {j : Nat} (hj : target.span.fullStart ≤ j)
    (hstart : j < target.span.start) : t.endsLineAt j = false := by
  have hle := hprevious.trans target.span.fullStart_le_start
  refine Bool.eq_false_iff.2 fun hends => ?_
  exact (Text.line_ne_iff hle).2 ⟨j, hprevious.trans hj, hstart, hends⟩ hline

theorem line_eq_breaks (htarget : target.span.start ≤ t.length)
    (hbefore : (t.take target.span.fullStart).getLast? ≠ some '\r') :
    target.line t = Text.breaks (t.take target.span.fullStart) := by
  have hfull := target.span.fullStart_le_start
  have hlower := Text.line_mono (t := t) hprevious
  have hupper := Text.line_mono (t := t) hfull
  have hlength := hfull.trans htarget
  rw [← Text.line_eq_breaks_take (Text.not_insidePair_of_getLast?_take hlength hbefore) hlength]
  unfold Node.lastLine Node.line at *
  omega

theorem endsLineAt_fixed {indent : Text} (hindent : ∀ c ∈ indent, isLineBreak c = false)
    (htarget : target.span.start ≤ t.length) {j : Nat}
    (hj : j < (indent ++ remainder target t).length) :
    (indent ++ remainder target t ++ t.drop target.span.start).endsLineAt j = false := by
  rw [List.length_append, length_remainder htarget] at hj
  rw [List.append_assoc, remainder_append_drop]
  rcases Nat.lt_or_ge j indent.length with hlt | hge
  · exact Text.endsLineAt_append_left hindent hlt _
  · obtain ⟨k, rfl⟩ := Nat.exists_eq_add_of_le hge
    rw [Text.endsLineAt_append_right, Text.endsLineAt_drop]
    have hwidth : target.span.triviaWidth = target.span.start - target.span.fullStart := rfl
    exact endsLineAt_trivia hline hprevious (by omega) (by omega)

theorem position_fixed {indent : Text} (hindent : ∀ c ∈ indent, isLineBreak c = false)
    (htarget : target.span.start ≤ t.length)
    (hbefore : (t.take target.span.fullStart).getLast? ≠ some '\r') :
    Text.positionAt
        (t.take target.span.fullStart ++
          '\n' :: (indent ++ remainder target t ++ t.drop target.span.start))
        (target.span.fullStart + 1 + (indent ++ remainder target t).length) =
      ⟨target.line t + 1, (indent ++ remainder target t).length⟩ := by
  have hlength : (t.take target.span.fullStart).length = target.span.fullStart :=
    List.length_take_of_le (target.span.fullStart_le_start.trans htarget)
  have hplace := Text.positionAt_behind_break hbefore (List.sublist_append_left ..).length_le
    fun j => endsLineAt_fixed hline hprevious hindent htarget
  rw [hlength] at hplace
  rw [hplace, line_eq_breaks hline hprevious htarget hbefore]

end

end Keyword

namespace Construct

/-- A reported keyword moves to the line below. Before it on that line stand blanks that reach the
column it had, less the brace and the blank that were no indentation, and then what the fix leaves
of its trivia. -/
theorem reported_keyword_place (limits : Limits) (o : Options) (t : Text) (n : Node) {c : Construct}
    (hc : c ≠ .constructor) {vs : List Violation} (h : (c.inspect o t n).found = .ok vs) :
    ∀ v ∈ vs, (∃ previous, (previous, v.node) ∈ Keyword.pairs n c) ∧
      ∀ previous, (previous, v.node) ∈ Keyword.pairs n c →
        previous.span.stop ≤ v.node.span.fullStart →
        (t.take v.node.span.fullStart).getLast? ≠ some '\r' →
        ∃ start count column f fixed place, v.node.startPosition t = .ok start ∧
          o.Reaches (start.character - Keyword.offset) count ∧
          column = count + (v.node.span.triviaWidth - min 1 v.node.span.triviaWidth) ∧
          v.fix = some f ∧ f.apply limits t = .ok fixed ∧
          fixed.drop place = t.drop v.node.span.start ∧
          Text.position fixed place = .ok ⟨start.line + 1, column⟩ ∧
          Text.slice fixed (place - column) place =
            List.replicate count o.blank ++ Keyword.remainder v.node t := by
  intro v hv
  obtain ⟨previous, hpair, ho, htarget, hline, hviolation⟩ :=
    Keyword.exists_pair_of_inspect hc h hv
  refine ⟨⟨previous, hpair⟩, fun other hother hprevious hbefore => ?_⟩
  obtain rfl := Keyword.eq_of_mem_pairs hpair hother
  generalize v.node = target at *
  subst hviolation
  -- The inspection has succeeded, so the indentation can be built.
  obtain ⟨count, hreaches, hblanks⟩ :=
    Options.exists_blanks_eq ho ((t.positionAt target.span.start).character - Keyword.offset)
  have hindent : ∀ c ∈ List.replicate count o.blank, isLineBreak c = false :=
    hblanks ▸ fun _ => Options.isLineBreak_of_mem_blanks
  have hplace := Keyword.position_fixed hline hprevious hindent htarget hbefore
  have happly := Keyword.apply_breakBefore limits htarget (List.replicate count o.blank)
  have hfix : (Keyword.violation o t target).fix =
      some (Keyword.breakBefore target (List.replicate count o.blank)) := by
    rw [← hblanks]
    rfl
  have hfull : (t.take target.span.fullStart).length = target.span.fullStart :=
    List.length_take_of_le (target.span.fullStart_le_start.trans htarget)
  have hcolumn : (List.replicate count o.blank ++ Keyword.remainder target t).length =
      count + (target.span.triviaWidth - min 1 target.span.triviaWidth) := by
    rw [List.length_append, List.length_replicate, Keyword.length_remainder htarget]
  refine ⟨_, count, _, _, _,
    target.span.fullStart + 1 + (List.replicate count o.blank ++ Keyword.remainder target t).length,
    Node.startPosition_of_le htarget, hreaches, hcolumn, hfix, happly, Text.drop_line hfull .., ?_,
    ?_⟩
  · rw [Text.position_natCast, hplace]
    · rfl
    · simp only [List.length_append, List.length_cons, hfull]
      omega
  · rw [Nat.add_sub_cancel]
    exact Text.slice_line hfull ..

def commentedCatchText : Text := "try {} /*!*/ catch {}".toList

def commentedCatch : Node :=
  ⟨0, .tryStatement, .between 0 0 21, [
    ⟨1, .block, .between 3 4 6, []⟩, ⟨2, .catchClause, .between 6 13 21, []⟩]⟩

theorem reported_keyword_place_commentedCatch : ∃ v f fixed place,
    (inspect {} commentedCatchText .tryStatement commentedCatch).found = .ok [v] ∧
      v.node.startPosition commentedCatchText = .ok ⟨0, 13⟩ ∧ v.fix = some f ∧
      f.apply .usual commentedCatchText = .ok fixed ∧ fixed.drop place = "catch {}".toList ∧
      Text.position fixed place = .ok ⟨1, 18⟩ ∧
      Text.slice fixed (place - 18) place = List.replicate 12 ' ' ++ "/*!*/ ".toList := by
  have hfound : (inspect {} commentedCatchText .tryStatement commentedCatch).found =
      .ok [Keyword.violation {} commentedCatchText ⟨2, .catchClause, .between 6 13 21, []⟩] :=
    found_inspect (by decide) {} .tryStatement
  obtain ⟨-, hplace⟩ :=
    reported_keyword_place .usual {} commentedCatchText commentedCatch (by decide) hfound _
      List.mem_cons_self
  obtain ⟨start, count, column, f, fixed, place, hstart, hreaches, hcolumn, hf, hfixed, hdrop,
    hposition, hslice⟩ := hplace ⟨1, .block, .between 3 4 6, []⟩ List.mem_cons_self (by decide)
      (by decide)
  obtain rfl : (⟨0, 13⟩ : Position) = start := Except.ok.inj hstart
  obtain rfl : count = 12 := by
    obtain ⟨⟨hunits, hreach⟩, hleast⟩ := hreaches
    have hle : count ≤ 12 := hleast ⟨by decide, by decide⟩
    change 4 ∣ count at hunits
    change 11 ≤ count at hreach
    omega
  subst hcolumn
  exact ⟨_, f, fixed, place, hfound, hstart, hf, hfixed, hdrop, hposition, hslice⟩

end Construct

end LayoutLint
