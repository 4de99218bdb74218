import LayoutLint.Report.Console.Columns
import LayoutLint.Report.Console.Wrap

/-! A table with a heading, drawn in boxes. -/
namespace LayoutLint.Report.Console

structure Column where
  heading : Text
  style : Style
  centred : Bool

structure Table where
  columns : List Column
  rows : List (List Line)

namespace Table

structure Frame where
  left : Char
  across : Char
  joint : Char
  right : Char

def top : Frame := ⟨'┏', '━', '┳', '┓'⟩

def underHeading : Frame := ⟨'┡', '━', '╇', '┩'⟩

def bottom : Frame := ⟨'└', '─', '┴', '┘'⟩

def Frame.write (f : Frame) (widths : List Nat) : Text :=
  f.left :: [f.joint].intercalate (widths.map (List.replicate · f.across)) ++ [f.right, '\n']

def margin : Nat := 2

def align (centred : Bool) (width : Nat) (l : Line) : Line :=
  if centred then
    let shown := (l.withText l.text.stripEnd).truncate width
    let left : Line := ⟨List.replicate ((width - shown.text.cells) / 2) ' ', []⟩
    (left ++ shown).pad width
  else if l.text.cells ≤ width then l.pad width
  else l.truncate width

def cellLines (centred : Bool) (width : Nat) (content : Line) : List Line :=
  (content.wrap width false).map (align centred width)

structure Cell where
  style : Style
  width : Nat
  lines : List Line

def Cell.strip (c : Cell) (l : Line) : Except Fault Strip := do
  let inner := ((← l.strip c.style).crop (c.width - margin)).pad c.style (c.width - margin)
  return Strip.pad c.style c.width
    (Strip.crop c.width ((c.style, [' ']) :: inner ++ [(c.style, [' '])]))

def Cell.write (c : Cell) (i : Nat) : Except Fault Text :=
  match c.lines[i]? with
  | some l => (c.strip l).map Strip.write
  | none => .ok (c.style.paint (List.replicate c.width ' '))

def rowLine (bar : Char) (cells : List Cell) (i : Nat) : Except Fault Text := do
  return bar :: (← cells.mapM (·.write i)).flatMap (· ++ [bar]) ++ ['\n']

def writeRow (bar : Char) (cells : List Cell) : Except Fault Text :=
  let height := Columns.widest (cells.map (·.lines.length))
  ((List.range height).mapM (rowLine bar cells)).map List.flatten

def headings (t : Table) : List Line :=
  t.columns.map (⟨·.heading, []⟩)

def breadth (content : Line) : Nat :=
  Columns.widest ((content.text.linesBy isHeadlineEnd).map Text.cells)

def naturalWidths (t : Table) : List Nat :=
  (t.rows.foldr (List.zipWith fun l width => max (breadth l) width)
    (t.headings.map breadth)).map (· + margin)

def widths (t : Table) (width : Nat) : List Nat :=
  let limit := width - (t.columns.length + 1)
  Columns.fit limit (t.naturalWidths.map (min limit))

def headingCells (t : Table) (widths : List Nat) : List Cell :=
  List.zipWith (fun (c, l) width =>
    ⟨.bold, width, cellLines c.centred (width - margin) l⟩)
    (t.columns.zip t.headings) widths

def rowCells (t : Table) (widths : List Nat) (row : List Line) : List Cell :=
  List.zipWith (fun (c, l) width =>
    ⟨c.style, width, cellLines c.centred (width - margin) l⟩)
    (t.columns.zip row) widths

def write (t : Table) (width : Nat) : Except Fault Text := do
  let widths := t.widths width
  let heading ← writeRow '┃' (t.headingCells widths)
  let rows ← t.rows.mapM fun row => writeRow '│' (t.rowCells widths row)
  return top.write widths ++ heading ++ underHeading.write widths ++ rows.flatten ++
    bottom.write widths

end Table

end LayoutLint.Report.Console
