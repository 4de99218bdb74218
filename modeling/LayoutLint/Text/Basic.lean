/-! Text is a list of characters. Offsets, widths and columns count characters, and the
part of a text between two offsets is `slice`. -/
namespace LayoutLint

abbrev Text := List Char

namespace Text

/-- The characters from offset `i` up to offset `j`. An offset past the end means the end. -/
def slice (t : Text) (i j : Nat) : Text :=
  (t.drop i).take (j - i)

def splice (t : Text) (i j : Nat) (insert : Text) : Text :=
  t.take i ++ insert ++ t.drop j

/-- The decimal digits, however many. Whether so many may be written is for `Limits` to say. -/
def ofNat (n : Nat) : Text :=
  Nat.toDigits 10 n

def ofInt : Int → Text
  | .ofNat n => ofNat n
  | .negSucc n => '-' :: ofNat (n + 1)

@[simp] theorem ofInt_natCast (n : Nat) : ofInt n = ofNat n :=
  rfl

def hex (width n : Nat) : Text :=
  let digits := Nat.toDigits 16 n
  List.replicate (width - digits.length) '0' ++ digits

def hexDigit? (c : Char) : Option Nat :=
  if '0' ≤ c && c ≤ '9' then some (c.toNat - 48)
  else if 'a' ≤ c && c ≤ 'f' then some (c.toNat - 87)
  else if 'A' ≤ c && c ≤ 'F' then some (c.toNat - 55)
  else none

def hexValue? (t : Text) : Option Nat :=
  t.foldlM (fun n c => (hexDigit? c).map (16 * n + ·)) 0

def decimalValue? (t : Text) : Option Nat :=
  if t ≠ [] && t.all Char.isDigit then some (Nat.ofDigitChars 10 t 0) else none

@[simp] theorem length_slice (t : Text) (i j : Nat) :
    (slice t i j).length = min (j - i) (t.length - i) := by
  simp [slice]

@[simp] theorem slice_self (t : Text) (i : Nat) : slice t i i = [] := by
  simp [slice]

theorem slice_append_slice (t : Text) {i j k : Nat} (hij : i ≤ j) (hjk : j ≤ k) :
    t.slice i j ++ t.slice j k = t.slice i k := by
  have hwidth : k - i = (j - i) + (k - j) := by omega
  have hdrop : t.drop j = (t.drop i).drop (j - i) := by rw [List.drop_drop, Nat.add_sub_cancel' hij]
  rw [slice, slice, slice, hwidth, List.take_add, hdrop]

theorem slice_append_drop (t : Text) {i j : Nat} (hij : i ≤ j) :
    t.slice i j ++ t.drop j = t.drop i := by
  have hdrop : t.drop j = (t.drop i).drop (j - i) := by rw [List.drop_drop, Nat.add_sub_cancel' hij]
  rw [slice, hdrop, List.take_append_drop]

theorem splice_slice (t : Text) {i j : Nat} (hij : i ≤ j) : t.splice i j (t.slice i j) = t := by
  rw [splice, List.append_assoc, slice_append_drop t hij, List.take_append_drop]

end Text

end LayoutLint
