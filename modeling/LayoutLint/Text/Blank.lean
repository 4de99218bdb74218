import LayoutLint.Text.Basic

/-! White space: the Unicode property of that name together with the four separators
U+001C to U+001F. -/
namespace LayoutLint

def blankRanges : List (Nat × Nat) :=
  [(0x09, 0x0D), (0x1C, 0x20), (0x85, 0x85), (0xA0, 0xA0), (0x1680, 0x1680),
   (0x2000, 0x200A), (0x2028, 0x2029), (0x202F, 0x202F), (0x205F, 0x205F), (0x3000, 0x3000)]

def isBlank (c : Char) : Bool :=
  blankRanges.any fun r => r.1 ≤ c.toNat && c.toNat ≤ r.2

namespace Text

def stripEnd (t : Text) : Text :=
  (t.reverse.dropWhile isBlank).reverse

def trim (t : Text) : Text :=
  stripEnd (t.dropWhile isBlank)

def cuts : Text → List Text
  | [] => []
  | c :: rest =>
    match cuts rest with
    | (next :: word) :: more =>
      if isBlank c && !isBlank next then [c] :: (next :: word) :: more
      else (c :: next :: word) :: more
    | other => [c] :: other

/-- The words with the blanks after them. Blanks at the start belong to the first word. -/
def words (t : Text) : List Text :=
  match t.cuts with
  | first :: next :: more =>
    if first.all isBlank then (first ++ next) :: more else first :: next :: more
  | other => other

theorem flatten_cuts (t : Text) : t.cuts.flatten = t := by
  fun_induction cuts t <;> simp_all

theorem flatten_words (t : Text) : t.words.flatten = t := by
  have h := flatten_cuts t
  unfold words
  split
  · rename_i heq
    rw [heq] at h
    split <;> simpa using h
  · exact h

end Text

example : (blankRanges.map fun r => r.2 + 1 - r.1).sum = 29 := by decide

end LayoutLint
