import LayoutLint.Proofs.Weave

/-! A batch made from the first fix to the last. Each fix is moved by what those before it have
added to the length of the text or taken from it. So it still meets the characters that it was made
for, and the outcome is that of the batch, which is made from the last fix back to the first. Both
are what fixes in order turn a text into, taken fix by fix. -/
namespace LayoutLint

theorem Text.splice_append_drop (made t insert : Text) {offset i j : Nat} (hi : offset ≤ i)
    (hij : i ≤ j) :
    Text.splice (made ++ t.drop offset) (made.length + (i - offset)) (made.length + (j - offset))
      insert = made ++ t.slice offset i ++ insert ++ t.drop j := by
  have hdrop : offset + (j - offset) = j := by omega
  rw [splice, List.take_length_add_append, List.drop_length_add_append, List.drop_drop, hdrop,
    slice]

namespace Fix

/-- What fixes in order turn the text from an offset on into. -/
inductive TurnsInto (t : Text) : Nat → List Fix → Text → Prop where
  | nil (offset : Nat) : TurnsInto t offset [] (t.drop offset)
  | cons {offset : Nat} {f : Fix} {rest : List Fix} {u : Text} (hstart : offset ≤ f.start)
      (hstop : f.stop ≤ t.length) (h : TurnsInto t f.stop rest u) :
      TurnsInto t offset (f :: rest) (t.slice offset f.start ++ f.insert ++ u)

namespace TurnsInto

variable {t u : Text} {offset : Nat} {fixes : List Fix}

theorem le_start (h : TurnsInto t offset fixes u) : ∀ f ∈ fixes, offset ≤ f.start := by
  induction h with
  | nil => simp
  | @cons offset f rest u hstart hstop h ih =>
    rw [List.forall_mem_cons]
    exact ⟨hstart, fun g hg => hstart.trans (f.start_le_stop.trans (ih g hg))⟩

theorem stop_le (h : TurnsInto t offset fixes u) : ∀ f ∈ fixes, f.stop ≤ t.length := by
  induction h with
  | nil => simp
  | cons hstart hstop h ih => exact List.forall_mem_cons.2 ⟨hstop, ih⟩

theorem follows (h : TurnsInto t offset fixes u) : fixes.Pairwise Follows := by
  induction h with
  | nil => exact .nil
  | cons hstart hstop h ih => exact List.pairwise_cons.2 ⟨h.le_start, ih⟩

theorem eq_woven (h : TurnsInto t offset fixes u) : u = woven t offset fixes := by
  induction h with
  | nil => rfl
  | cons hstart hstop h ih => rw [woven, ← ih]

end TurnsInto

theorem turnsInto_woven {t : Text} {offset : Nat} {fixes : List Fix}
    (hfollows : fixes.Pairwise Follows) (hstart : ∀ f ∈ fixes, offset ≤ f.start)
    (ht : ∀ f ∈ fixes, f.stop ≤ t.length) : TurnsInto t offset fixes (woven t offset fixes) := by
  induction fixes generalizing offset with
  | nil => exact .nil offset
  | cons f rest ih =>
    rw [List.pairwise_cons] at hfollows
    simp only [List.forall_mem_cons] at hstart ht
    exact .cons hstart.1 ht.1 (ih hfollows.2 hfollows.1 ht.2)

/-- The text that a batch leaves is what its fixes turn the text into, taken in order. -/
theorem applyAll_eq_ok_iff {limits : Limits} {t u : Text} {fixes : List Fix} :
    applyAll limits t fixes = .ok u ↔ TurnsInto t 0 (ordered fixes) u := by
  have hperm := ordered_perm fixes
  constructor
  · intro h
    have houtcome := outcome_applyAll limits t fixes
    rw [h] at houtcome
    cases houtcome with
    | applied hapart hinside =>
      have hfollows := (pairwise_ordered_iff fixes).2 hapart
      have hordered : ∀ f ∈ ordered fixes, f.stop ≤ t.length :=
        fun f hf => hinside f (hperm.mem_iff.1 hf)
      have hwoven : spliced t (ordered fixes) = woven t 0 (ordered fixes) :=
        drop_spliced hfollows hordered fun f _ => Nat.zero_le _
      rw [hwoven]
      exact turnsInto_woven hfollows (fun f _ => Nat.zero_le _) hordered
  · intro h
    have hwoven : spliced t (ordered fixes) = u :=
      (drop_spliced h.follows h.stop_le h.le_start).trans h.eq_woven.symm
    rw [applyAll_eq_ok ((pairwise_ordered_iff fixes).1 h.follows)
      fun f hf => h.stop_le f (hperm.mem_iff.2 hf), hwoven]

def change (f : Fix) : Int :=
  f.insert.length - f.width

def movedBy (f : Fix) (shift : Int) : Except Fault Fix :=
  ofInts (f.start + shift) f.width f.insert

/-- A text in the course of a batch, with the change of its length so far. -/
structure Draft where
  text : Text
  shift : Int

namespace Draft

def make (limits : Limits) (d : Draft) (f : Fix) : Except Fault Draft := do
  let moved ← f.movedBy d.shift
  let text ← moved.apply limits d.text
  return ⟨text, d.shift + f.change⟩

/-- The fixes so far have put `made` in place of the text up to an offset. -/
structure Reaches (d : Draft) (t made : Text) (offset : Nat) : Prop where
  offset_le : offset ≤ t.length
  text_eq : d.text = made ++ t.drop offset
  shift_eq : offset + d.shift = made.length

variable {limits : Limits} {t made u : Text} {offset : Nat} {d : Draft} {f : Fix}
  {fixes : List Fix}

theorem reaches_start (t : Text) : Reaches ⟨t, 0⟩ t [] 0 where
  offset_le := Nat.zero_le _
  text_eq := rfl
  shift_eq := rfl

theorem Reaches.shift_eq_sub (h : d.Reaches t made offset) :
    d.shift = d.text.length - t.length := by
  have hoffset := h.offset_le
  have hshift := h.shift_eq
  rw [h.text_eq, List.length_append, List.length_drop]
  omega

theorem Reaches.exists_make_eq_ok (h : d.Reaches t made offset) (hstart : offset ≤ f.start)
    (hstop : f.stop ≤ t.length) : ∃ d', d.make limits f = .ok d' ∧
      d'.Reaches t (made ++ t.slice offset f.start ++ f.insert) f.stop := by
  have hspan : f.stop = f.start + f.width := rfl
  have hshift := h.shift_eq
  let moved : Fix := ⟨made.length + (f.start - offset), f.width, f.insert⟩
  -- `shift` is the difference of two lengths, so the moved start is not negative.
  have hmoved : f.movedBy d.shift = .ok moved :=
    ofInts_eq_ok (f := moved) (by simp only [moved]; omega) rfl
  have hend : moved.stop = made.length + (f.stop - offset) := by
    simp only [moved, stop]
    omega
  have happly : moved.apply limits d.text =
      .ok (made ++ t.slice offset f.start ++ f.insert ++ t.drop f.stop) := by
    rw [apply_of_le, hend, h.text_eq]
    · exact congrArg _ (Text.splice_append_drop made t f.insert hstart f.start_le_stop)
    · rw [hend, h.text_eq, List.length_append, List.length_drop]
      omega
  refine ⟨⟨_, d.shift + f.change⟩, ?_, hstop, rfl, ?_⟩
  · simp only [make, hmoved, happly, bind, Except.bind]
    rfl
  · simp only [List.length_append, Text.length_slice, change]
    omega

theorem Reaches.exists_foldlM_make_eq_ok (h : d.Reaches t made offset)
    (hturns : TurnsInto t offset fixes u) : ∃ d', fixes.foldlM (make limits) d = .ok d' ∧
      d'.text = made ++ u ∧ d'.shift = d'.text.length - t.length := by
  induction hturns generalizing d made with
  | nil => exact ⟨d, rfl, h.text_eq, h.shift_eq_sub⟩
  | cons hstart hstop _ ih =>
    obtain ⟨next, hnext, hreaches⟩ := h.exists_make_eq_ok hstart hstop
    obtain ⟨last, hlast, htext, hshift⟩ := ih hreaches
    refine ⟨last, ?_, ?_, hshift⟩
    · rw [List.foldlM_cons, hnext]
      exact hlast
    · rw [htext]
      simp only [List.append_assoc]

end Draft

/-- A batch that applies can also be made from the first fix to the last, each moved by the change
of length so far. No fix is refused then, and the text is the same. -/
theorem applyAll_in_turn {limits : Limits} {t u : Text} {fixes : List Fix}
    (h : applyAll limits t fixes = .ok u) :
    SortsStably (ordered fixes) fixes ∧
      (ordered fixes).foldlM (Draft.make limits) ⟨t, 0⟩ = .ok ⟨u, u.length - t.length⟩ := by
  obtain ⟨⟨text, shift⟩, hrun, htext, hshift⟩ :=
    (Draft.reaches_start t).exists_foldlM_make_eq_ok (applyAll_eq_ok_iff.1 h)
  obtain rfl : text = u := htext
  obtain rfl : shift = text.length - t.length := hshift
  exact ⟨ordered_sortsStably fixes, hrun⟩

def backAndForth : List Fix :=
  [⟨3, 1, []⟩, ⟨0, 2, []⟩, ⟨2, 0, "xyz".toList⟩]

theorem applyAll_in_turn_backAndForth :
    applyAll .usual "abcd".toList backAndForth = .ok "xyzc".toList ∧
    SortsStably [⟨0, 2, []⟩, ⟨2, 0, "xyz".toList⟩, ⟨3, 1, []⟩] backAndForth ∧
    [⟨0, 2, []⟩, ⟨2, 0, "xyz".toList⟩, ⟨3, 1, []⟩].foldlM (Draft.make .usual)
      ⟨"abcd".toList, 0⟩ = .ok ⟨"xyzc".toList, 0⟩ := by
  have hordered : ordered backAndForth = [⟨0, 2, []⟩, ⟨2, 0, "xyz".toList⟩, ⟨3, 1, []⟩] := by
    simp [backAndForth, ordered, precedes, List.mergeSort, List.MergeSort.Internal.splitInTwo]
  have happly : applyAll .usual "abcd".toList backAndForth = .ok "xyzc".toList := by
    rw [applyAll, hordered]
    rfl
  have hturn := applyAll_in_turn happly
  rw [hordered] at hturn
  exact ⟨happly, hturn⟩

end Fix

end LayoutLint
