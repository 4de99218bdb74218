import LayoutLint.Report.Console.Style
import LayoutLint.Text.Grapheme

/-! Stretches of text as a terminal gets them. A stretch has its own style and takes the cells that
its text would take alone. -/
namespace LayoutLint.Report.Console

abbrev Strip := List (Style × Text)

namespace Strip

def cells (s : Strip) : Nat :=
  s.foldr (fun (_, t) others => t.cells + others) 0

def cut (width : Nat) : Strip → Strip
  | [] => []
  | (style, t) :: rest =>
    if t.cells < width then (style, t) :: cut (width - t.cells) rest
    else [(style, t.fitCells width)]

def crop (width : Nat) (s : Strip) : Strip :=
  if s.cells ≤ width then s else s.cut width

def pad (style : Style) (width : Nat) (s : Strip) : Strip :=
  s ++ [(style, List.replicate (width - s.cells) ' ')]

def write (s : Strip) : Text :=
  s.flatMap fun (style, t) => style.paint t

@[simp] theorem crop_of_le {width : Nat} {s : Strip} (h : s.cells ≤ width) :
    s.crop width = s := by
  simp [crop, h]

@[simp] theorem write_pad_of_le (style : Style) {width : Nat} {s : Strip}
    (h : width ≤ s.cells) : (s.pad style width).write = s.write := by
  simp [pad, write, Style.paint, Nat.sub_eq_zero_of_le h]

end Strip

end LayoutLint.Report.Console
