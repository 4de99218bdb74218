import LayoutLint.Text.Basic
import LayoutLint.Text.Cells

/-! Characters that are shown as one. A mark belongs to the character before it, a joiner takes in
the character after it, and a selector asks for the picture form of the character before it. -/
namespace LayoutLint

def joiner : Char := '\u200d'

def pictureSelector : Char := '\ufe0f'

/-- How far a text has been read: the last character with cells of its own, until its form is
chosen, and whether the next character is joined to it. -/
structure Reading where
  shown : Option Char := none
  joined : Bool := false

namespace Reading

def cells (r : Reading) (c : Char) : Nat :=
  if r.joined then 0
  else if c = pictureSelector then (if r.shown.any hasTwoForms then 1 else 0)
  else cellsOf c

def begins (r : Reading) (c : Char) : Bool :=
  !r.joined && 0 < cellsOf c

def next (r : Reading) (c : Char) : Reading :=
  if r.joined then { r with joined := false }
  else if c = joiner then { r with joined := true }
  else if c = pictureSelector then { shown := none }
  else if cellsOf c = 0 then r
  else { shown := some c }

end Reading

structure Grapheme where
  text : Text
  cells : Nat

namespace Text

def cellsFrom (r : Reading) : Text → Nat
  | [] => 0
  | c :: rest => r.cells c + cellsFrom (r.next c) rest

def cells (t : Text) : Nat :=
  cellsFrom {} t

/-- What still belongs to the grapheme before the text, and the graphemes after it. -/
def graphemesFrom (r : Reading) : Text → Grapheme × List Grapheme
  | [] => (⟨[], 0⟩, [])
  | c :: rest =>
    let (marks, more) := graphemesFrom (r.next c) rest
    let g : Grapheme := ⟨c :: marks.text, r.cells c + marks.cells⟩
    if r.begins c then (⟨[], 0⟩, g :: more) else (g, more)

def graphemes : Text → List Grapheme
  | [] => []
  | c :: rest =>
    let (marks, more) := graphemesFrom { Reading.next {} c with joined := false } rest
    ⟨c :: marks.text, cellsOf c + marks.cells⟩ :: more

/-- Graphemes up to `n` cells. A blank stands for one that would stick out. -/
def takeCells (n : Nat) : List Grapheme → Text
  | [] => []
  | g :: rest =>
    if n = 0 then []
    else if g.cells ≤ n then g.text ++ takeCells (n - g.cells) rest
    else [' ']

def fitCells (n : Nat) (t : Text) : Text :=
  if t.cells ≤ n then t ++ List.replicate (n - t.cells) ' ' else takeCells n t.graphemes

theorem text_graphemesFrom (r : Reading) (t : Text) :
    (graphemesFrom r t).1.text ++ (graphemesFrom r t).2.flatMap (·.text) = t := by
  induction t generalizing r with
  | nil => rfl
  | cons c rest ih =>
    simp only [graphemesFrom]
    split <;> simp [ih]

theorem flatMap_graphemes (t : Text) : t.graphemes.flatMap (·.text) = t := by
  cases t with
  | nil => rfl
  | cons c rest => simp [graphemes, text_graphemesFrom]

end Text

end LayoutLint
