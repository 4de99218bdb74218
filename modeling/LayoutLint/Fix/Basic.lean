import LayoutLint.Phrase

/-! A fix replaces a number of characters at an offset by a text. -/
namespace LayoutLint

structure Fix where
  start : Nat
  width : Nat
  insert : Text
deriving DecidableEq

namespace Fix

def stop (f : Fix) : Nat :=
  f.start + f.width

def phrase (f : Fix) : Phrase :=
  [.words "fix@".toList, .number f.start, .words ['+'], .number f.width,
    .words (" -> ".toList ++ f.insert.quoted)]

def text (f : Fix) : Text :=
  f.phrase.text

theorem start_le_stop (f : Fix) : f.start ≤ f.stop :=
  Nat.le_add_right ..

end Fix

end LayoutLint
