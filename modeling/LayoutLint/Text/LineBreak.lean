import LayoutLint.Text.Basic

/-! Two notions of a line. In source text a line ends at a line feed, a carriage return,
both together, or one of the two Unicode separators. In a message that is shown, further
control characters end the first line as well. -/
namespace LayoutLint

def isLineBreak (c : Char) : Bool :=
  c = '\n' || c = '\r' || c = '\u2028' || c = '\u2029'

/-- Whether a line ends after `c` when `rest` follows. A carriage return before a line feed
ends none, since the pair is one break. -/
def endsLine (c : Char) (rest : Text) : Bool :=
  isLineBreak c && !(c = '\r' && rest.head? = some '\n')

def isHeadlineEnd (c : Char) : Bool :=
  isLineBreak c || c = '\x0b' || c = '\x0c' || c = '\x1c' || c = '\x1d' || c = '\x1e' ||
    c = '\u0085'

def Text.headline (t : Text) : Text :=
  t.takeWhile (!isHeadlineEnd ·)

def Text.linesBy (ends : Char → Bool) : Text → List Text
  | [] => [[]]
  | c :: rest =>
    if ends c then [] :: linesBy ends rest
    else
      match linesBy ends rest with
      | [] => [[c]]
      | line :: more => (c :: line) :: more

@[simp] theorem Text.headline_nil : Text.headline [] = [] := rfl

theorem not_isHeadlineEnd_of_mem_headline {t : Text} {c : Char} (h : c ∈ t.headline) :
    isHeadlineEnd c = false := by
  have := List.all_takeWhile (l := t) (p := (!isHeadlineEnd ·))
  rw [List.all_eq_true] at this
  simpa using this c h

end LayoutLint
