import LayoutLint.Fix.Apply

/-! Applying many fixes. A batch is put in order of start and end, refused when two fixes
overlap, and applied from the last to the first, so that the offsets of those still to come
hold. -/
namespace LayoutLint.Fix

/-- The order of a batch. Fixes of the same span keep the order in which they are listed. -/
def precedes (f g : Fix) : Bool :=
  f.start < g.start || (f.start = g.start && f.stop ≤ g.stop)

def ordered (fixes : List Fix) : List Fix :=
  fixes.mergeSort precedes

/-- The first fix that begins before its predecessor ends, after that predecessor. -/
def firstOverlap? : List Fix → Option (Fix × Fix)
  | f :: g :: rest => if g.start < f.stop then some (f, g) else firstOverlap? (g :: rest)
  | _ => none

def applyAll (limits : Limits) (t : Text) (fixes : List Fix) : Except Fault Text :=
  match firstOverlap? (ordered fixes) with
  | some (previous, f) => .error ((Fault.badFix f (.overlaps previous)).raised limits)
  | none => (ordered fixes).foldrM (apply limits) t

theorem precedes_trans (f g h : Fix) (hfg : f.precedes g) (hgh : g.precedes h) :
    f.precedes h := by
  simp only [precedes, Bool.or_eq_true, Bool.and_eq_true, decide_eq_true_eq] at *
  omega

theorem precedes_total (f g : Fix) : (f.precedes g || g.precedes f) = true := by
  simp only [precedes, Bool.or_eq_true, Bool.and_eq_true, decide_eq_true_eq]
  omega

theorem ordered_perm (fixes : List Fix) : (ordered fixes).Perm fixes :=
  List.mergeSort_perm fixes precedes

theorem pairwise_ordered (fixes : List Fix) : (ordered fixes).Pairwise fun f g => f.precedes g :=
  List.pairwise_mergeSort precedes_trans precedes_total fixes

end LayoutLint.Fix
