/-! Quotients rounded to the nearest natural number. -/
namespace LayoutLint

/-- `num / den` to the nearest, a half to the even neighbour. -/
def roundDiv (num den : Nat) : Nat :=
  let q := num / den
  let r := num % den
  if 2 * r < den || (2 * r = den && q % 2 = 0) then q else q + 1

theorem roundDiv_mul_le (num den : Nat) : 2 * (roundDiv num den * den) ≤ 2 * num + den := by
  have h := Nat.div_add_mod num den
  have hc : den * (num / den) = num / den * den := Nat.mul_comm ..
  unfold roundDiv
  dsimp only
  split
  · omega
  · rename_i hn
    simp only [Bool.or_eq_true, Bool.and_eq_true, decide_eq_true_eq, not_or] at hn
    rw [Nat.add_mul, Nat.one_mul]
    omega

theorem le_roundDiv_mul {den : Nat} (hd : 0 < den) (num : Nat) :
    2 * num ≤ 2 * (roundDiv num den * den) + den := by
  have h := Nat.div_add_mod num den
  have hc : den * (num / den) = num / den * den := Nat.mul_comm ..
  have hm := Nat.mod_lt num hd
  unfold roundDiv
  dsimp only
  split
  · rename_i hn
    simp only [Bool.or_eq_true, Bool.and_eq_true, decide_eq_true_eq] at hn
    omega
  · rw [Nat.add_mul, Nat.one_mul]
    omega

end LayoutLint
