import LayoutLint.Proofs.Measure
import Mathlib.Order.Basic

/-! The level of a column that no text need have is known from the nearest binary number only. For
columns of at most 53 bits nothing is lost by that: rounded up, the nearest binary number to a
quotient is the quotient rounded up, but for quotients so small that their nearest binary number is
zero. -/
namespace LayoutLint

theorem roundDiv_le {num den n : Nat} (hden : 0 < den) (h : num ≤ n * den) :
    roundDiv num den ≤ n := by
  have hbound := roundDiv_mul_le num den
  by_contra hlt
  have hmul : (n + 1) * den ≤ roundDiv num den * den :=
    Nat.mul_le_mul_right den (Nat.lt_of_not_le hlt)
  rw [Nat.add_mul, Nat.one_mul] at hmul
  omega

theorem lt_roundDiv {num den n : Nat} (hden : 0 < den) (h : 2 * (n * den) + den < 2 * num) :
    n < roundDiv num den := by
  have hbound := le_roundDiv_mul hden num
  by_contra hle
  have hmul := Nat.mul_le_mul_right den (Nat.le_of_not_lt hle)
  omega

theorem roundDiv_eq_zero {num den : Nat} (hden : 0 < den) (h : 2 * num ≤ den) :
    roundDiv num den = 0 := by
  have hlt : num < den := by omega
  have hnear : den ≤ 2 * num → 2 * num = den := by omega
  simpa [roundDiv, Nat.div_eq_of_lt hlt, Nat.mod_eq_of_lt hlt] using hnear

/-- A quotient that is scaled before it is rounded stays on its side of every whole number, if the
scale is fine enough to tell it from the next one. -/
theorem roundDiv_le_iff {a b scale : Nat} (hb : 0 < b)
    (h : b < 2 * scale ∨ a ≤ b ∧ b < 2 * (a * scale)) (n : Nat) :
    roundDiv (a * scale) b ≤ n * scale ↔ a ≤ n * b := by
  constructor
  · intro hle
    by_contra hlt
    refine Nat.not_lt.2 hle (lt_roundDiv hb ?_)
    have hscaled : (n * b + 1) * scale ≤ a * scale :=
      Nat.mul_le_mul_right scale (Nat.lt_of_not_le hlt)
    rw [Nat.add_mul, Nat.one_mul, Nat.mul_right_comm] at hscaled
    rcases h with hfine | ⟨hsmall, hfine⟩
    · omega
    · -- A quotient up to one lies above no whole number but zero.
      obtain rfl : n = 0 := by
        refine Nat.eq_zero_of_not_pos fun hn => ?_
        have := Nat.le_mul_of_pos_left b hn
        omega
      omega
  · intro hle
    have hscaled := Nat.mul_le_mul_right scale hle
    rw [Nat.mul_right_comm] at hscaled
    exact roundDiv_le hb hscaled

namespace Decimal

theorem Ratio.ceil_le_iff {r : Ratio} (h : 0 < r.den) (n : Nat) :
    r.ceil ≤ n ↔ r.num ≤ n * r.den := by
  rw [Ratio.ceil, Nat.div_le_iff_le_mul_add_pred h, Nat.add_le_add_iff_right, Nat.mul_comm]

theorem Ratio.shift_natCast (r : Ratio) (base k : Nat) :
    r.shift base k = ⟨r.num * Nat.pow base k, r.den⟩ := by
  have hzero : (-(k : Int)).toNat = 0 := by omega
  rw [Ratio.shift, hzero, Int.toNat_natCast]
  exact congrArg (Ratio.mk _) (Nat.mul_one _)

theorem Ratio.shift_neg_natCast (r : Ratio) (base k : Nat) :
    r.shift base (-(k : Int)) = ⟨r.num, r.den * Nat.pow base k⟩ := by
  have hzero : (-(k : Int)).toNat = 0 := by omega
  rw [Ratio.shift, hzero, Int.neg_neg, Int.toNat_natCast]
  exact congrArg (Ratio.mk · _) (Nat.mul_one _)

/-- A significand of 53 bits that ends at place `k` behind the point. One that has been rounded up
to 54 bits is halved. -/
def Binary.atPlace (m k : Nat) : Binary :=
  if m = Nat.pow 2 53 then ⟨Nat.pow 2 52, -(k : Int) + 1⟩ else ⟨m, -(k : Int)⟩

theorem Binary.not_overflows_atPlace (m k : Nat) : (atPlace m k).overflows = false := by
  unfold atPlace
  split
  · exact decide_eq_false (show ¬ 971 < -(k : Int) + 1 by omega)
  · exact decide_eq_false (show ¬ 971 < -(k : Int) by omega)

theorem Binary.ceil_atPlace_le_iff (m k n : Nat) :
    (atPlace m k).ratio.ceil ≤ n ↔ m ≤ n * Nat.pow 2 k := by
  have hpos : ∀ j, 0 < 1 * Nat.pow 2 j := fun j => Nat.one_mul _ ▸ Nat.two_pow_pos j
  unfold atPlace ratio
  split
  · rename_i hm
    rw [hm, show Nat.pow 2 53 = Nat.pow 2 52 * 2 from rfl]
    generalize Nat.pow 2 52 = half
    cases k with
    | zero =>
      rw [show -((0 : Nat) : Int) + 1 = ((1 : Nat) : Int) from rfl, Ratio.shift_natCast,
        Ratio.ceil_le_iff Nat.one_pos]
    | succ k =>
      rw [show -((k + 1 : Nat) : Int) + 1 = -(k : Int) by omega, Ratio.shift_neg_natCast,
        Ratio.ceil_le_iff (hpos k)]
      change half ≤ n * (1 * Nat.pow 2 k) ↔ half * 2 ≤ n * (Nat.pow 2 k * 2)
      rw [Nat.one_mul, ← Nat.mul_assoc]
      generalize n * Nat.pow 2 k = most
      omega
  · rw [Ratio.shift_neg_natCast, Ratio.ceil_le_iff (hpos k)]
    change m ≤ n * (1 * Nat.pow 2 k) ↔ m ≤ n * Nat.pow 2 k
    rw [Nat.one_mul]

theorem mul_pow_le_mul_pow {a b low : Nat} (ha : a ≠ 0) (h : low + a.log2 = b.log2 + 53) :
    b * Nat.pow 2 52 ≤ a * Nat.pow 2 low :=
  calc b * Nat.pow 2 52 ≤ Nat.pow 2 (b.log2 + 1) * Nat.pow 2 52 :=
        Nat.mul_le_mul_right _ (Nat.le_of_lt Nat.lt_log2_self)
    _ = Nat.pow 2 (a.log2 + low) := by
      rw [show a.log2 + low = b.log2 + 1 + 52 by omega]
      exact (Nat.pow_add 2 (b.log2 + 1) 52).symm
    _ = Nat.pow 2 a.log2 * Nat.pow 2 low := Nat.pow_add 2 a.log2 low
    _ ≤ a * Nat.pow 2 low := Nat.mul_le_mul_right _ (Nat.log2_self_le ha)

theorem exists_toBinary_eq {a b : Nat} (hb : 0 < b) (ha : a < Nat.pow 2 53) : ∃ k ≤ 1074,
    (Ratio.mk a b).toBinary = .atPlace (roundDiv (a * Nat.pow 2 k) b) k ∧
      (a = 0 ∨ b * Nat.pow 2 52 ≤ a * Nat.pow 2 k ∨ k = 1074) := by
  have hbits : a.log2 < 53 := by
    rcases Nat.eq_zero_or_pos a with rfl | hpos
    · decide
    · exact (Nat.log2_lt hpos.ne').2 ha
  -- The first guess is a negative exponent that leaves 53 or 54 bits.
  obtain ⟨low, hlow, hpos, hle, hguess⟩ : ∃ low : Nat,
      max ((a.log2 : Int) - b.log2 - 53) (-1074) = -(low : Int) ∧ 0 < low ∧ low ≤ 1074 ∧
        (low = 1074 ∨ low + a.log2 = b.log2 + 53) :=
    ⟨(-(max ((a.log2 : Int) - b.log2 - 53) (-1074))).toNat, by omega⟩
  unfold Ratio.toBinary
  simp only [hlow, Int.neg_neg, Ratio.shift_natCast, Ratio.floor, Ratio.nearest]
  by_cases hshort : a * Nat.pow 2 low / b < Nat.pow 2 53
  · refine ⟨low, hle, ?_, ?_⟩
    · simp only [if_pos hshort, Int.neg_neg, Ratio.shift_natCast]
      rfl
    · by_cases hzero : a = 0
      · exact Or.inl hzero
      · exact Or.inr (hguess.elim Or.inr fun h => Or.inl (mul_pow_le_mul_pow hzero h))
  · obtain ⟨k, rfl⟩ := Nat.exists_eq_succ_of_ne_zero hpos.ne'
    have hexponent : -((k + 1 : Nat) : Int) + 1 = -(k : Int) := by omega
    refine ⟨k, by omega, ?_, Or.inr (Or.inl ?_)⟩
    · simp only [if_neg hshort, Nat.succ_eq_add_one, hexponent, Int.neg_neg, Ratio.shift_natCast]
      rfl
    · have hlong := (Nat.le_div_iff_mul_le hb).1 (Nat.le_of_not_lt hshort)
      change Nat.pow 2 52 * 2 * b ≤ a * (Nat.pow 2 k * 2) at hlong
      rw [Nat.mul_right_comm, ← Nat.mul_assoc, Nat.mul_comm _ b] at hlong
      exact Nat.le_of_mul_le_mul_right hlong Nat.two_pos

end Decimal

namespace Options

theorem mul_pow_two_succ (n k : Nat) :
    n * Nat.pow 2 (k + 1) = 2 * (n * Nat.pow 2 k) := by
  change n * (Nat.pow 2 k * 2) = _
  rw [← Nat.mul_assoc, Nat.mul_comm]

theorem pow_two_mono {j k : Nat} (h : j ≤ k) : Nat.pow 2 j ≤ Nat.pow 2 k :=
  Nat.pow_le_pow_right Nat.two_pos h

theorem fine_of_not_lost {column size k deepest : Nat} (hcolumn : column < Nat.pow 2 53)
    (hdeepest : 52 ≤ deepest) (hnot : size < 2 * (column * Nat.pow 2 deepest))
    (hk : size * Nat.pow 2 52 ≤ column * Nat.pow 2 k ∨ k = deepest) :
    size < 2 * Nat.pow 2 k ∨ column ≤ size ∧ size < 2 * (column * Nat.pow 2 k) := by
  -- With 53 bits of its own a quotient is scaled far enough, since the column has no more bits.
  -- Otherwise the column is at most one unit, and has not been lost at the least exponent.
  by_cases hfull : size * Nat.pow 2 52 ≤ column * Nat.pow 2 k
  · have hbits := Nat.mul_lt_mul_of_pos_right hcolumn (Nat.two_pow_pos k)
    change column * Nat.pow 2 k < Nat.pow 2 52 * 2 * Nat.pow 2 k at hbits
    rw [Nat.mul_assoc, Nat.mul_comm (Nat.pow 2 52)] at hbits
    exact Or.inl (Nat.lt_of_mul_lt_mul_right (Nat.lt_of_le_of_lt hfull hbits))
  · obtain rfl := hk.resolve_left hfull
    refine Or.inr ⟨?_, hnot⟩
    by_contra hlt
    exact hfull (Nat.mul_le_mul (Nat.le_of_not_le hlt) (pow_two_mono hdeepest))

theorem roundDiv_of_lost {column size k deepest : Nat} (hsize : 0 < size) (hk : k ≤ deepest)
    (hlost : 2 * (column * Nat.pow 2 deepest) ≤ size) :
    roundDiv (column * Nat.pow 2 k) size = 0 := by
  have hscale := Nat.mul_le_mul_left column (pow_two_mono hk)
  exact roundDiv_eq_zero hsize (by omega)

theorem ceil_toBinary {column size deepest : Nat} (hsize : 0 < size)
    (h : column < Nat.pow 2 53) (hdeepest : deepest = 1074) :
    (Decimal.Ratio.mk column size).toBinary.ratio.ceil =
      if column * Nat.pow 2 (deepest + 1) ≤ size then 0 else (column + (size - 1)) / size := by
  obtain ⟨k, hk, hunits, hfine⟩ := Decimal.exists_toBinary_eq hsize h
  rw [← hdeepest] at hk hfine
  refine eq_of_forall_ge_iff fun n => ?_
  rw [hunits, Decimal.Binary.ceil_atPlace_le_iff, mul_pow_two_succ]
  by_cases hlost : 2 * (column * Nat.pow 2 deepest) ≤ size
  · rw [if_pos hlost, roundDiv_of_lost hsize hk hlost]
    exact iff_of_true (Nat.zero_le _) (Nat.zero_le _)
  · have hnonzero : column ≠ 0 := by
      rintro rfl
      exact hlost (by rw [Nat.zero_mul]; exact Nat.zero_le _)
    have hsame := roundDiv_le_iff hsize (fine_of_not_lost h (by omega)
      (Nat.lt_of_not_le hlost) (hfine.resolve_left hnonzero)) n
    rw [if_neg hlost]
    exact hsame.trans (Decimal.Ratio.ceil_le_iff (r := ⟨column, size⟩) hsize n).symm

/-- Where a column has at most 53 bits its level is the same, whether it is a column of a text or
one that no text need have. -/
theorem levelOfWide_eq_levelOf (o : Options) {column : Nat} (h : column < Nat.pow 2 53) :
    o.levelOfWide column = .ok (o.levelOf column) := by
  cases htabs : o.useTabs with
  | true => rw [levelOfWide, levelOf, if_pos htabs, if_pos htabs]
  | false =>
    obtain ⟨k, -, hunits, -⟩ := Decimal.exists_toBinary_eq o.size_pos h
    have hfits : (Decimal.Ratio.mk column o.size).toBinary.overflows = false :=
      hunits ▸ Decimal.Binary.not_overflows_atPlace _ k
    -- The least exponent gets a name, so that nothing evaluates its power.
    obtain ⟨deepest, hdeepest⟩ : ∃ n, n = 1074 := ⟨_, rfl⟩
    have hsucc : 1075 = deepest + 1 := by omega
    rw [levelOfWide, levelOf, htabs, if_neg Bool.false_ne_true, if_neg Bool.false_ne_true, hsucc]
    simp only [hfits, Bool.false_eq_true, if_false]
    exact congrArg Except.ok (ceil_toBinary o.size_pos h hdeepest)

end Options

end LayoutLint
