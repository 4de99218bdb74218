import LayoutLint.Proofs.Batch

/-! When a batch of fixes is refused, and which fix the refusal names. Only neighbours in order are
compared, yet no overlap is missed, and overlaps are noticed before anything is applied. A fix that
reaches past the end of the text is met first if any, since the last fix reaches farthest. -/
namespace LayoutLint.Fix

def Conflicting (fixes : List Fix) : Prop :=
  ∃ i j, ∃ (hi : i < fixes.length) (hj : j < fixes.length), i ≠ j ∧ ¬ fixes[i].Apart fixes[j]

theorem conflicting_iff (fixes : List Fix) : Conflicting fixes ↔ ¬ fixes.Pairwise Apart := by
  rw [List.pairwise_iff_getElem]
  simp only [not_forall]
  constructor
  · rintro ⟨i, j, hi, hj, hne, hoverlap⟩
    rcases Nat.lt_or_gt_of_ne hne with hij | hji
    · exact ⟨i, j, hi, hj, hij, hoverlap⟩
    · exact ⟨j, i, hj, hi, hji, fun hapart => hoverlap hapart.symm⟩
  · rintro ⟨i, j, hi, hj, hij, hoverlap⟩
    exact ⟨i, j, hi, hj, Nat.ne_of_lt hij, hoverlap⟩

theorem not_apart_of_not_follows {f g : Fix} (hprecedes : f.precedes g) (h : ¬ f.Follows g) :
    ¬ f.Apart g :=
  fun hapart => h (follows_of_precedes hprecedes hapart)

end LayoutLint.Fix
