import LayoutLint.Position

/-! Lines as counts. The line of an offset is the number of line ends before it. Whether a
character ends a line depends only on what follows it, so the lines can be counted from the end
of the text, where nothing that stands before an offset matters. -/
namespace LayoutLint.Text

def breaks : Text → Nat
  | [] => 0
  | c :: rest => (if endsLine c rest then 1 else 0) + breaks rest

def endsLineAt (t : Text) (j : Nat) : Bool :=
  match t.drop j with
  | [] => false
  | c :: rest => endsLine c rest

theorem endsLine_lineFeed (rest : Text) : endsLine '\n' rest := by
  simp [endsLine, isLineBreak]

/-- Of what follows, only a line feed right behind a carriage return matters. -/
theorem endsLine_congr {c : Char} {rest rest' : Text} (h : rest.head? = rest'.head?) :
    endsLine c rest = endsLine c rest' := by
  simp only [endsLine, h]

theorem endsLineAt_eq (t : Text) (j : Nat) : t.endsLineAt j =
    match t[j]? with
    | none => false
    | some c => endsLine c t[j + 1]?.toList := by
  unfold endsLineAt
  rw [← List.head?_drop, ← List.head?_drop, ← List.tail_drop]
  cases t.drop j with
  | nil => rfl
  | cons c rest =>
    refine endsLine_congr ?_
    cases rest <;> rfl

theorem endsLineAt_congr {t u : Text} {j k : Nat} (h : t[j]? = u[k]?)
    (hnext : t[j + 1]? = u[k + 1]?) : t.endsLineAt j = u.endsLineAt k := by
  rw [endsLineAt_eq, endsLineAt_eq, h, hnext]

theorem lt_of_mem_startsAfter {t : Text} {i s : Nat} (h : s ∈ startsAfter i t) :
    i < s := by
  induction t generalizing i with
  | nil => simp [startsAfter] at h
  | cons c rest ih =>
    simp only [startsAfter] at h
    split at h
    · rcases List.mem_cons.1 h with rfl | h
      · omega
      · have := ih h
        omega
    · have := ih h
      omega

private theorem length_takeWhile_startsAfter (t : Text) (i k : Nat) :
    ((startsAfter i t).takeWhile (· ≤ i + k)).length + breaks (t.drop k) = breaks t := by
  induction t generalizing i k with
  | nil => simp [startsAfter, breaks]
  | cons c rest ih =>
    cases k with
    | zero =>
      have hnone : (startsAfter i (c :: rest)).takeWhile (· ≤ i) = [] := by
        cases hs : startsAfter i (c :: rest) with
        | nil => rfl
        | cons s more =>
          have hlt : i < s := lt_of_mem_startsAfter (t := c :: rest) (by simp [hs])
          rw [List.takeWhile_cons_of_neg (by simpa using hlt)]
      simp [hnone]
    | succ k =>
      have hk : i + (k + 1) = i + 1 + k := by omega
      have hrest := ih (i + 1) k
      simp only [startsAfter, List.drop_succ_cons, breaks, hk]
      split
      · rw [List.takeWhile_cons_of_pos (by simp), List.length_cons]
        omega
      · omega

theorem line_add_breaks_drop (t : Text) (k : Nat) :
    (t.positionAt k).line + breaks (t.drop k) = breaks t := by
  have h := length_takeWhile_startsAfter t 0 k
  rw [Nat.zero_add] at h
  rw [← h]
  simp [positionAt, lineStarts]

theorem breaks_drop_eq (t : Text) (k : Nat) :
    breaks (t.drop k) = (if t.endsLineAt k then 1 else 0) + breaks (t.drop (k + 1)) := by
  unfold endsLineAt
  rw [← List.drop_drop]
  cases t.drop k with
  | nil => simp [breaks]
  | cons c rest => simp [breaks]

section

variable {marks : Nat → Bool} {left : Nat → Nat}

private theorem left_cases (hstep : ∀ k, left k = (if marks k then 1 else 0) + left (k + 1))
    (a n : Nat) :
    left (a + n) < left a ∧ (∃ j, a ≤ j ∧ j < a + n ∧ marks j) ∨
      left (a + n) = left a ∧ ∀ j, a ≤ j → j < a + n → marks j = false := by
  induction n with
  | zero => exact Or.inr ⟨rfl, fun j haj hj => by omega⟩
  | succ n ih =>
    have hnext := hstep (a + n)
    rw [Nat.add_assoc] at hnext
    cases hmark : marks (a + n) with
    | true =>
      simp only [hmark, if_true] at hnext
      refine Or.inl ⟨?_, a + n, by omega, by omega, hmark⟩
      rcases ih with ⟨hlt, -⟩ | ⟨heq, -⟩ <;> omega
    | false =>
      simp only [hmark, Bool.false_eq_true, if_false, Nat.zero_add] at hnext
      rcases ih with ⟨hlt, j, haj, hj, hmarks⟩ | ⟨heq, hnone⟩
      · exact Or.inl ⟨by omega, j, haj, by omega, hmarks⟩
      · refine Or.inr ⟨by omega, fun j haj hj => ?_⟩
        rcases Nat.lt_succ_iff_lt_or_eq.1 (show j < (a + n) + 1 by omega) with hj | rfl
        · exact hnone j haj hj
        · exact hmark

theorem left_lt_iff (hstep : ∀ k, left k = (if marks k then 1 else 0) + left (k + 1))
    {a b : Nat} (hab : a ≤ b) : left b < left a ↔ ∃ j, a ≤ j ∧ j < b ∧ marks j := by
  obtain ⟨n, rfl⟩ := Nat.exists_eq_add_of_le hab
  rcases left_cases hstep a n with ⟨hlt, hmarks⟩ | ⟨heq, hnone⟩
  · exact iff_of_true hlt hmarks
  · refine iff_of_false (by omega) ?_
    rintro ⟨j, haj, hj, hmark⟩
    simp [hnone j haj hj] at hmark

theorem left_anti (hstep : ∀ k, left k = (if marks k then 1 else 0) + left (k + 1))
    {a b : Nat} (hab : a ≤ b) : left b ≤ left a := by
  obtain ⟨n, rfl⟩ := Nat.exists_eq_add_of_le hab
  rcases left_cases hstep a n with ⟨hlt, -⟩ | ⟨heq, -⟩ <;> omega

end

theorem line_lt_iff {t : Text} {a b : Nat} (hab : a ≤ b) :
    (t.positionAt a).line < (t.positionAt b).line ↔ ∃ j, a ≤ j ∧ j < b ∧ t.endsLineAt j := by
  have ha := line_add_breaks_drop t a
  have hb := line_add_breaks_drop t b
  rw [← left_lt_iff (breaks_drop_eq t) hab]
  omega

theorem line_mono {t : Text} {a b : Nat} (hab : a ≤ b) :
    (t.positionAt a).line ≤ (t.positionAt b).line := by
  have ha := line_add_breaks_drop t a
  have hb := line_add_breaks_drop t b
  have hanti := left_anti (breaks_drop_eq t) hab
  omega

/-- Two offsets are on different lines if a line ends between them. -/
theorem line_ne_iff {t : Text} {a b : Nat} (hab : a ≤ b) :
    (t.positionAt a).line ≠ (t.positionAt b).line ↔ ∃ j, a ≤ j ∧ j < b ∧ t.endsLineAt j := by
  have hmono := line_mono (t := t) hab
  rw [← line_lt_iff hab]
  omega

end LayoutLint.Text
