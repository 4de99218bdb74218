import LayoutLint.Fault

/-! The extent of a node. Leading trivia, blanks and comments, lie between `fullStart` and
`start`, the node's own characters between `start` and `stop`. -/
namespace LayoutLint

structure Span where
  fullStart : Nat
  start : Nat
  stop : Nat
  fullStart_le_start : fullStart ≤ start := by omega
  start_le_stop : start ≤ stop := by omega
deriving DecidableEq

namespace Span

def ofOffsets (fullStart start stop : Int) : Except Fault Span :=
  if fullStart < 0 then .error (.belowLeast .fullStart fullStart)
  else if _ : start < fullStart then .error (.startBeforeFullStart start fullStart)
  else if _ : stop < start then .error (.endBeforeStart stop start)
  else .ok { fullStart := fullStart.toNat, start := start.toNat, stop := stop.toNat }

def width (s : Span) : Nat :=
  s.stop - s.start

def fullWidth (s : Span) : Nat :=
  s.stop - s.fullStart

def triviaWidth (s : Span) : Nat :=
  s.start - s.fullStart

def text (s : Span) (source : Text) : Text :=
  source.slice s.start s.stop

theorem ofOffsets_natCast (s : Span) : ofOffsets s.fullStart s.start s.stop = .ok s := by
  have h := s.fullStart_le_start
  have h' := s.start_le_stop
  unfold ofOffsets
  rw [if_neg (by omega), dif_neg (by omega), dif_neg (by omega)]
  rfl

end Span

end LayoutLint
