import LayoutLint.Proofs.InTurn

/-! A batch that takes back a batch. Each of its fixes puts the characters that were there before in
place of the text that was put in, where that text stands now. These fixes come in order and do not
overlap, so they are a batch that applies, and what it leaves is the text as it was. Where several
fixes only took out characters, theirs are insertions at one offset, which keep their order. -/
namespace LayoutLint

theorem Text.slice_append_append (before middle after : Text) :
    Text.slice (before ++ middle ++ after) before.length (before ++ middle).length = middle := by
  have hwidth : (before ++ middle).length - before.length = middle.length := by simp
  rw [slice, List.append_assoc, List.drop_left, hwidth, List.take_left]

namespace Fix

def undo (t : Text) (f : Fix) (shift : Int) : Except Fault Fix :=
  ofInts (f.start + shift) f.insert.length (t.slice f.start f.stop)

def undoing (t : Text) (shift : Int) : List Fix → Except Fault (List Fix)
  | [] => .ok []
  | f :: rest => do
    let u ← f.undo t shift
    return u :: (← undoing t (shift + f.change) rest)

theorem precedes_of_follows {f g : Fix} (h : f.Follows g) : f.precedes g := by
  have hf := f.start_le_stop
  have hg := g.start_le_stop
  unfold Follows at h
  rw [precedes_iff]
  omega

theorem ordered_eq_self {fixes : List Fix} (hfollows : fixes.Pairwise Follows) :
    ordered fixes = fixes :=
  List.mergeSort_of_pairwise (hfollows.imp precedes_of_follows)

/-- What a fix puts in stands behind `front`, what has been made of the text before the fix. To take
it back besides what stands behind it gives back the text from the gap before the fix on. -/
theorem TurnsInto.cons_undo {t made front u : Text} {offset : Nat} {f : Fix} {undos : List Fix}
    (hfront : front = made ++ t.slice offset f.start) (hstart : offset ≤ f.start)
    (h : TurnsInto (front ++ f.insert ++ u) (front ++ f.insert).length undos (t.drop f.stop)) :
    TurnsInto (front ++ f.insert ++ u) made.length
      (⟨front.length, f.insert.length, t.slice f.start f.stop⟩ :: undos) (t.drop offset) := by
  let back : Fix := ⟨front.length, f.insert.length, t.slice f.start f.stop⟩
  have hend : (front ++ f.insert).length = back.stop := List.length_append ..
  have hplace : made.length ≤ back.start := by simp [back, hfront]
  have hinside : back.stop ≤ (front ++ f.insert ++ u).length := by simp [← hend]
  have hgap : Text.slice (front ++ f.insert ++ u) made.length back.start =
      t.slice offset f.start := by
    rw [List.append_assoc, show back.start = front.length from rfl, hfront]
    exact Text.slice_append_append ..
  have hback : Text.slice (front ++ f.insert ++ u) made.length back.start ++ back.insert ++
      t.drop f.stop = t.drop offset := by
    rw [hgap, Text.slice_append_slice t hstart f.start_le_stop,
      Text.slice_append_drop t (hstart.trans f.start_le_stop)]
  rw [← hback]
  exact .cons hplace hinside (hend ▸ h)

theorem TurnsInto.exists_undoing_eq_ok {t made u : Text} {offset : Nat} {shift : Int}
    {fixes : List Fix} (h : TurnsInto t offset fixes u) (hshift : offset + shift = made.length) :
    ∃ undos, undoing t shift fixes = .ok undos ∧
      TurnsInto (made ++ u) made.length undos (t.drop offset) := by
  induction h generalizing made shift with
  | nil offset =>
    refine ⟨[], rfl, ?_⟩
    have hrest := TurnsInto.nil (t := made ++ t.drop offset) made.length
    rwa [List.drop_left] at hrest
  | @cons offset f rest u hstart hstop _ ih =>
    have hspan : f.stop = f.start + f.width := rfl
    -- What `f` puts in stands behind all that has been made of the text before it.
    let front := made ++ t.slice offset f.start
    have hfront : f.start + shift = front.length := by
      simp only [front, List.length_append, Text.length_slice]
      omega
    have hbehind : f.stop + (shift + f.change) = (front ++ f.insert).length := by
      rw [List.length_append, change]
      omega
    obtain ⟨undos, hundos, hturns⟩ := ih hbehind
    have hundo : f.undo t shift = .ok ⟨front.length, f.insert.length, t.slice f.start f.stop⟩ :=
      ofInts_eq_ok (f := ⟨_, _, _⟩) hfront rfl
    have htext : made ++ (t.slice offset f.start ++ f.insert ++ u) = front ++ f.insert ++ u := by
      simp only [front, List.append_assoc]
    refine ⟨⟨front.length, f.insert.length, t.slice f.start f.stop⟩ :: undos, ?_, ?_⟩
    · simp only [undoing, hundo, hundos, bind, Except.bind]
      rfl
    · rw [htext]
      exact hturns.cons_undo rfl hstart

/-- What a batch has made of a text, a batch takes back. Of each fix in order it has one that begins
as much farther on as the fixes before it have lengthened the text, takes out as many characters as
the fix puts in, and puts in those that the fix takes out. -/
theorem applyAll_undoing {limits : Limits} {t u : Text} {fixes : List Fix}
    (h : applyAll limits t fixes = .ok u) :
    SortsStably (ordered fixes) fixes ∧
      ∃ undos, undoing t 0 (ordered fixes) = .ok undos ∧ applyAll limits u undos = .ok t := by
  have hstart : ((0 : Nat) : Int) + 0 = ([] : Text).length := rfl
  obtain ⟨undos, hundos, hturns⟩ := (applyAll_eq_ok_iff.1 h).exists_undoing_eq_ok hstart
  have hordered := ordered_eq_self hturns.follows
  exact ⟨ordered_sortsStably fixes, undos, hundos, applyAll_eq_ok_iff.2 (hordered.symm ▸ hturns)⟩

def shrunkAndGrown : List Fix :=
  [⟨2, 1, "xyz".toList⟩, ⟨1, 1, []⟩, ⟨0, 1, []⟩]

/-- All three that take it back begin at the same offset. -/
theorem applyAll_undoing_shrunkAndGrown :
    applyAll .usual "abcd".toList shrunkAndGrown = .ok "xyzd".toList ∧
      undoing "abcd".toList 0 [⟨0, 1, []⟩, ⟨1, 1, []⟩, ⟨2, 1, "xyz".toList⟩] =
        .ok [⟨0, 0, ['a']⟩, ⟨0, 0, ['b']⟩, ⟨0, 3, ['c']⟩] ∧
      applyAll .usual "xyzd".toList [⟨0, 0, ['a']⟩, ⟨0, 0, ['b']⟩, ⟨0, 3, ['c']⟩] =
        .ok "abcd".toList := by
  have hordered : ordered shrunkAndGrown =
      [⟨0, 1, []⟩, ⟨1, 1, []⟩, ⟨2, 1, "xyz".toList⟩] := by
    simp [shrunkAndGrown, ordered, precedes, List.mergeSort, List.MergeSort.Internal.splitInTwo]
  have happly : applyAll .usual "abcd".toList shrunkAndGrown = .ok "xyzd".toList := by
    rw [applyAll, hordered]
    rfl
  obtain ⟨-, undos, hundos, hback⟩ := applyAll_undoing happly
  rw [hordered] at hundos
  obtain rfl : [⟨0, 0, ['a']⟩, ⟨0, 0, ['b']⟩, ⟨0, 3, ['c']⟩] = undos := Except.ok.inj hundos
  exact ⟨happly, hundos, hback⟩

end Fix

end LayoutLint
