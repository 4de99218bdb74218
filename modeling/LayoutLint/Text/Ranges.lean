/-! Sets of code points, given by ranges in increasing order. -/
namespace LayoutLint

abbrev Ranges := List (Nat × Nat)

namespace Ranges

/-- Whether a range holds `n`. The first range that does not end before `n` decides. -/
def holds (n : Nat) : Ranges → Bool
  | [] => false
  | (first, last) :: rest => if n ≤ last then first ≤ n else holds n rest

def increasing : Ranges → Bool
  | [] => true
  | [(first, last)] => first ≤ last
  | (first, last) :: (next, stop) :: rest =>
    first ≤ last && last < next && increasing ((next, stop) :: rest)

end Ranges

end LayoutLint
