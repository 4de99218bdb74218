import LayoutLint.Rounding

/-! Fitting columns into a width. The widest columns give way first, down to the next width, and
share what has to go as evenly as whole cells allow. -/
namespace LayoutLint.Report.Console.Columns

def widest (widths : List Nat) : Nat :=
  widths.foldr max 0

def total (widths : List Nat) : Nat :=
  widths.foldr (· + ·) 0

def runnerUp (widths : List Nat) : Nat :=
  widest (widths.filter (· ≠ widest widths))

/-- Takes `excess` cells from the `sharing` columns of width `wide`, at most `most` from each. -/
def narrow (wide most : Nat) (excess sharing : Nat) : List Nat → List Nat
  | [] => []
  | width :: rest =>
    if width = wide && 0 < sharing then
      let share := min most (roundDiv excess sharing)
      (width - share) :: narrow wide most (excess - share) (sharing - 1) rest
    else width :: narrow wide most excess sharing rest

/-- One round: the widest columns come down to the next width or by what is too much. -/
def step (limit : Nat) (widths : List Nat) : List Nat :=
  let excess := total widths - limit
  let wide := widest widths
  narrow wide (min excess (wide - runnerUp widths)) excess (widths.count wide) widths

def fitIn (limit : Nat) : Nat → List Nat → List Nat
  | 0, widths => widths
  | rounds + 1, widths =>
    if total widths ≤ limit then widths else fitIn limit rounds (step limit widths)

/-- Every round takes away a cell, so the excess bounds their number. -/
def fit (limit : Nat) (widths : List Nat) : List Nat :=
  fitIn limit (total widths - limit) widths

end LayoutLint.Report.Console.Columns
