import LayoutLint.Text.Blank
import LayoutLint.Text.Grapheme

/-! Breaking a text into parts of a given width. Parts are filled word by word, where a word has
the blanks after it with it, so that only blanks can stick out. -/
namespace LayoutLint.Text

/-- Pieces that are filled one after the other up to `width` cells. `piece` is the one being
filled, and `size` the cells it takes. -/
def chop (width : Nat) (piece : Text) (size : Nat) : List Grapheme → List Text
  | [] => [piece]
  | g :: rest =>
    if size + g.cells ≤ width then chop width (piece ++ g.text) (size + g.cells) rest
    else piece :: chop width g.text g.cells rest

/-- Fills parts with words after the part begun, which takes `size` cells. A word that does not
fit starts a new part, and one wider than a part is chopped if `fold` is set. -/
def fill (width : Nat) (fold : Bool) (begun : Text) (size : Nat) : List Text → List Text
  | [] => [begun]
  | word :: rest =>
    if size + word.stripEnd.cells ≤ width then
      fill width fold (begun ++ word) (size + word.cells) rest
    else
      let pieces :=
        if fold && width < word.stripEnd.cells then chop width [] 0 word.graphemes else [word]
      let last := pieces.getLastD []
      (if begun = [] then [] else [begun]) ++ pieces.dropLast ++
        fill width fold last last.cells rest

def wrap (width : Nat) (fold : Bool) (t : Text) : List Text :=
  fill width fold [] 0 t.words

theorem chop_ne_nil (width : Nat) (piece : Text) (size : Nat) (gs : List Grapheme) :
    chop width piece size gs ≠ [] := by
  fun_induction chop width piece size gs <;> simp_all

theorem flatten_chop (width : Nat) (piece : Text) (size : Nat) (gs : List Grapheme) :
    (chop width piece size gs).flatten = piece ++ gs.flatMap (·.text) := by
  fun_induction chop width piece size gs <;> simp_all

theorem flatten_fill (width : Nat) (fold : Bool) (begun : Text) (size : Nat)
    (words : List Text) :
    (fill width fold begun size words).flatten = begun ++ words.flatten := by
  fun_induction fill width fold begun size words with
  | case1 => simp
  | case2 begun size word rest h ih => simp_all
  | case3 begun size word rest h pieces last ih =>
    have hne : pieces ≠ [] := by
      unfold pieces
      split
      · exact chop_ne_nil _ _ _ _
      · simp
    have hp : pieces.flatten = word := by
      unfold pieces
      split
      · simp [flatten_chop, flatMap_graphemes]
      · simp
    have hl : pieces.dropLast.flatten ++ last = word := by
      have ha := congrArg List.flatten (List.dropLast_concat_getLast hne)
      rw [List.flatten_append, hp] at ha
      simpa [last, List.getLastD_eq_getLast?, List.getLast?_eq_some_getLast hne] using ha
    have hb : (if begun = [] then [] else [begun]).flatten = begun := by
      split <;> simp_all
    rw [List.flatten_append, List.flatten_append, ih, hb, List.flatten_cons, ← hl]
    simp

theorem flatten_wrap (width : Nat) (fold : Bool) (t : Text) :
    (t.wrap width fold).flatten = t := by
  rw [wrap, flatten_fill, flatten_words, List.nil_append]

end LayoutLint.Text
