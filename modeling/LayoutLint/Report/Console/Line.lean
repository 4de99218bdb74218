import LayoutLint.Report.Console.Strip

/-! A line of text with marks. A mark gives a style to the characters between two offsets, and
the text is divided into segments wherever a mark starts or stops, even where the look stays. A
style that cannot be had does no harm before the line is shown. -/
namespace LayoutLint.Report.Console

structure Mark where
  start : Nat
  stop : Nat
  style : Except Fault Style

namespace Mark

def shift (n : Nat) (m : Mark) : Mark :=
  { m with start := m.start + n, stop := m.stop + n }

def covers (m : Mark) (offset : Nat) : Bool :=
  m.start ≤ offset && offset < m.stop

def isEdge (m : Mark) (offset : Nat) : Bool :=
  m.start = offset || m.stop = offset

def clip? (length : Nat) (m : Mark) : Option Mark :=
  if m.start < length then some { m with stop := min m.stop length } else none

/-- What a mark gives to the `length` characters from `start` on, in their own offsets. An empty
mark gives nothing. -/
def within? (start length : Nat) (m : Mark) : Option Mark :=
  let first := m.start - start
  let last := min (m.stop - start) length
  if first < last then some ⟨first, last, m.style⟩ else none

end Mark

structure Line where
  text : Text
  marks : List Mark := []

namespace Line

def styled (style : Style) (t : Text) : Line :=
  ⟨t, [⟨0, t.length, .ok style⟩]⟩

def append (l m : Line) : Line :=
  ⟨l.text ++ m.text, l.marks ++ m.marks.map (Mark.shift l.text.length)⟩

instance : Append Line := ⟨append⟩

def join (ls : List Line) : Line :=
  ls.foldr append ⟨[], []⟩

def withText (l : Line) (t : Text) : Line :=
  if t.length < l.text.length then ⟨t, l.marks.filterMap (Mark.clip? t.length)⟩
  else { l with text := t }

def pad (width : Nat) (l : Line) : Line :=
  { l with text := l.text ++ List.replicate (width - l.text.cells) ' ' }

def fit (width : Nat) (l : Line) : Line :=
  l.withText (l.text.fitCells width)

def crop (width : Nat) (l : Line) : Line :=
  if l.text.cells ≤ width then l else l.fit width

def truncate (width : Nat) (l : Line) : Line :=
  if l.text.cells ≤ width then l else l.withText (l.text.fitCells (width - 1) ++ ['…'])

def splitFrom (marks : List Mark) (start : Nat) : List Text → List Line
  | [] => []
  | part :: rest =>
    ⟨part, marks.filterMap (Mark.within? start part.length)⟩ ::
      splitFrom marks (start + part.length) rest

def split (l : Line) (parts : List Text) : List Line :=
  splitFrom l.marks 0 parts

/-- The style of the character at `offset`. Of marks that differ the last one counts. -/
def styleAt (base : Style) (marks : List (Mark × Style)) (offset : Nat) : Style :=
  (marks.filter (·.1.covers offset)).foldl (fun s (_, style) => style.onto s) base

/-- The text from `offset` on, divided at the edges of marks. Each segment has its offset. -/
def segmentsFrom (marks : List Mark) (offset : Nat) : Text → List (Nat × Text)
  | [] => []
  | c :: rest =>
    match segmentsFrom marks (offset + 1) rest with
    | (next, t) :: more =>
      if marks.any (·.isEdge (offset + 1)) then (offset, [c]) :: (next, t) :: more
      else (offset, c :: t) :: more
    | [] => [(offset, [c])]

def segments (l : Line) : List (Nat × Text) :=
  segmentsFrom l.marks 0 l.text

/-- The line over a base style. Every mark has to have a style, also one that covers nothing. -/
def strip (base : Style) (l : Line) : Except Fault Strip := do
  let marks ← l.marks.mapM fun m => m.style.map (m, ·)
  return l.segments.map fun (offset, t) => (styleAt base marks offset, t)

theorem flatMap_segmentsFrom (marks : List Mark) (offset : Nat) (t : Text) :
    (segmentsFrom marks offset t).flatMap (·.2) = t := by
  fun_induction segmentsFrom marks offset t <;> simp_all

theorem flatMap_segments (l : Line) : l.segments.flatMap (·.2) = l.text :=
  flatMap_segmentsFrom ..

theorem map_text_splitFrom (marks : List Mark) (start : Nat) (parts : List Text) :
    (splitFrom marks start parts).map (·.text) = parts := by
  induction parts generalizing start with
  | nil => rfl
  | cons part rest ih => simp [splitFrom, ih]

@[simp] theorem map_text_split (l : Line) (parts : List Text) :
    (l.split parts).map (·.text) = parts :=
  map_text_splitFrom ..

@[simp] theorem text_withText (l : Line) (t : Text) : (l.withText t).text = t := by
  unfold withText
  split <;> rfl

end Line

end LayoutLint.Report.Console
