import LayoutLint.Report.Console.Line
import LayoutLint.Text.LineBreak
import LayoutLint.Text.Wrap

/-! Breaking a line with marks into lines of a given width. -/
namespace LayoutLint.Report.Console.Line

def tabStop : Nat := 8

/-- A part that starts at a cell and ends in a tab, with blanks up to the next stop for the tab.
Marks that reach the tab reach the stop. -/
def expandTab (cell : Nat) (l : Line) : Line :=
  let t : Text := l.text.dropLast ++ [' ']
  let more := (tabStop - (cell + t.cells) % tabStop) % tabStop
  let extend (m : Mark) : Mark :=
    if l.text.length ≤ m.stop then { m with stop := m.stop + more } else m
  ⟨t ++ List.replicate more ' ', l.marks.map extend⟩

def expandParts (cell : Nat) : List Line → List Line
  | [] => []
  | l :: rest =>
    let shown := if l.text.getLast? = some '\t' then l.expandTab cell else l
    shown :: expandParts (cell + shown.text.cells) rest

def tabParts : Text → List Text
  | [] => []
  | c :: rest =>
    if c = '\t' then [c] :: tabParts rest
    else
      match tabParts rest with
      | [] => [[c]]
      | part :: more => (c :: part) :: more

def expandTabs (l : Line) : Line :=
  if l.text.contains '\t' then join (expandParts 0 (l.split (tabParts l.text))) else l

def trimEnd (width : Nat) (l : Line) : Line :=
  l.withText (l.text.take
    (l.text.length - min (l.text.length - l.text.stripEnd.length) (l.text.length - width)))

/-- A line that is not broken keeps all of its marks, also those that cover nothing. -/
def divide (l : Line) (parts : List Text) : List Line :=
  match parts with
  | [_] => [l]
  | parts => l.split parts

def lines (l : Line) : List Line :=
  if l.text.contains '\n' then
    (l.split (List.intersperse ['\n'] (l.text.linesBy (· = '\n')))).filter (·.text ≠ ['\n'])
  else [l]

def wrap (width : Nat) (fold : Bool) (l : Line) : List Line :=
  l.lines.flatMap fun l =>
    let l := l.expandTabs
    (l.divide (l.text.wrap width fold)).map (trimEnd width)

end LayoutLint.Report.Console.Line
