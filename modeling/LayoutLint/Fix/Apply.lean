import LayoutLint.Fault

/-! Making a fix from offsets, and applying it to a text that is long enough for it. -/
namespace LayoutLint.Fix

def ofInts (start width : Int) (insert : Text) : Except Fault Fix := do
  return ⟨← Quantity.startOffset.check start, ← Quantity.removeWidth.check width, insert⟩

theorem ofInts_eq_ok {start width : Int} {f : Fix} (hstart : start = f.start)
    (hwidth : width = f.width) : ofInts start width f.insert = .ok f := by
  have hs : Quantity.startOffset.check start = .ok f.start :=
    Quantity.check_eq_ok_iff.2 ⟨hstart, Nat.zero_le _⟩
  have hw : Quantity.removeWidth.check width = .ok f.width :=
    Quantity.check_eq_ok_iff.2 ⟨hwidth, Nat.zero_le _⟩
  rw [ofInts, hs, hw]
  rfl

def apply (limits : Limits) (f : Fix) (t : Text) : Except Fault Text :=
  if f.stop ≤ t.length then .ok (t.splice f.start f.stop f.insert)
  else .error ((Fault.badFix f (.pastEnd t.length)).raised limits)

theorem apply_of_le {limits : Limits} {f : Fix} {t : Text} (h : f.stop ≤ t.length) :
    f.apply limits t = .ok (t.splice f.start f.stop f.insert) :=
  if_pos h

theorem apply_of_lt {limits : Limits} {f : Fix} {t : Text} (h : t.length < f.stop) :
    f.apply limits t = .error ((Fault.badFix f (.pastEnd t.length)).raised limits) :=
  if_neg (Nat.not_le.mpr h)

end LayoutLint.Fix
