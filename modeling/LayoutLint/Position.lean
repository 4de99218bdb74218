import LayoutLint.Fault
import LayoutLint.Text.LineBreak

/-! Places in a text by line and column, both counted from zero and shown from one. -/
namespace LayoutLint

structure Position where
  line : Nat
  character : Nat
deriving DecidableEq

namespace Position

def ofInts (line character : Int) : Except Fault Position := do
  return ⟨← Quantity.line.check line, ← Quantity.character.check character⟩

theorem ofInts_eq_ok {line character : Int} {p : Position} (hline : line = p.line)
    (hcharacter : character = p.character) : ofInts line character = .ok p := by
  have hl : Quantity.line.check line = .ok p.line :=
    Quantity.check_eq_ok_iff.2 ⟨hline, Nat.zero_le _⟩
  have hc : Quantity.character.check character = .ok p.character :=
    Quantity.check_eq_ok_iff.2 ⟨hcharacter, Nat.zero_le _⟩
  rw [ofInts, hl, hc]
  rfl

def phrase (p : Position) : Phrase :=
  [.number (p.line + 1 : Nat), .words [':'], .number (p.character + 1 : Nat)]

def text (p : Position) : Text :=
  p.phrase.text

theorem text_eq (p : Position) :
    p.text = Text.ofNat (p.line + 1) ++ ':' :: Text.ofNat (p.character + 1) :=
  congrArg (fun t => _ ++ ':' :: t) (List.append_nil _)

def order (p q : Position) : Ordering :=
  (compare p.line q.line).then (compare p.character q.character)

instance : LT Position where
  lt p q := p.line < q.line ∨ p.line = q.line ∧ p.character < q.character

instance (p q : Position) : Decidable (p < q) :=
  inferInstanceAs (Decidable (p.line < q.line ∨ p.line = q.line ∧ p.character < q.character))

theorem lt_iff {p q : Position} :
    p < q ↔ p.line < q.line ∨ p.line = q.line ∧ p.character < q.character :=
  Iff.rfl

def sorted (ps : List Position) : List Position :=
  ps.mergeSort fun p q => (p.order q).isLE

end Position

namespace Text

def startsAfter (i : Nat) : Text → List Nat
  | [] => []
  | c :: rest =>
    if endsLine c rest then (i + 1) :: startsAfter (i + 1) rest else startsAfter (i + 1) rest

def lineStarts (t : Text) : List Nat :=
  0 :: startsAfter 0 t

/-- Line and column of an offset, measured from the last line start that does not lie after
it. -/
def positionAt (t : Text) (offset : Nat) : Position :=
  let passed := t.lineStarts.takeWhile (· ≤ offset)
  ⟨passed.length - 1, offset - passed.getLastD 0⟩

def position (t : Text) (offset : Int) : Except Fault Position :=
  if 0 ≤ offset ∧ offset ≤ t.length then .ok (t.positionAt offset.toNat)
  else .error (.offsetOutside offset t.length)

theorem position_natCast {t : Text} {offset : Nat} (h : offset ≤ t.length) :
    t.position offset = .ok (t.positionAt offset) := by
  rw [position, if_pos (by omega)]
  rfl

theorem position_natCast_of_lt {t : Text} {offset : Nat} (h : t.length < offset) :
    t.position offset = .error (.offsetOutside offset t.length) := by
  rw [position, if_neg (by omega)]

end Text

end LayoutLint
