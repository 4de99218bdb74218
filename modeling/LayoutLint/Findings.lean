import LayoutLint.Violation

/-! The violations found in one file, in the order of its tree. -/
namespace LayoutLint

structure Findings where
  file : Text
  violations : List Violation
  file_ne_nil : file ≠ []

namespace Findings

def build (file : Text) (violations : List Violation) : Except Fault Findings :=
  if h : file = [] then .error .emptyFileName
  else .ok { file, violations, file_ne_nil := h }

def clean (file : Text) : Except Fault Findings :=
  build file []

def passed (f : Findings) : Bool :=
  f.violations.isEmpty

def count (f : Findings) : Nat :=
  f.violations.length

def fixableCount (f : Findings) : Nat :=
  f.violations.countP (·.fixable)

def fixes (f : Findings) : List Fix :=
  f.violations.filterMap (·.fix)

theorem fixableCount_le_count (f : Findings) : f.fixableCount ≤ f.count :=
  List.countP_le_length

theorem length_fixes (f : Findings) : f.fixes.length = f.fixableCount := by
  simp only [fixes, fixableCount, List.length_filterMap_eq_countP]
  rfl

end Findings

end LayoutLint
