import LayoutLint.Proofs.Json.Strings

/-! Values that are neither arrays nor objects survive being written and read. A whole number is
read to its end only if what follows could not belong to it. -/
namespace LayoutLint.Json

namespace Reader

/-- A text that does not go on with a number that stands in front of it. -/
def EndsNumber (t : Text) : Prop :=
  ∀ c ∈ t.head?, c.isDigit = false ∧ c ≠ '.' ∧ c ≠ 'e' ∧ c ≠ 'E'

theorem endsNumber_nil : EndsNumber [] := by
  simp [EndsNumber]

theorem endsNumber_cons {c : Char} (h : c.isDigit = false ∧ c ≠ '.' ∧ c ≠ 'e' ∧ c ≠ 'E')
    (t : Text) : EndsNumber (c :: t) := by
  simpa [EndsNumber] using h

variable {rest : Text}

theorem digits_ofNat (h : EndsNumber rest) (n : Nat) :
    digits (Text.ofNat n ++ rest) = some (Text.ofNat n, rest) := by
  have hall : ∀ c ∈ Text.ofNat n, c.isDigit := fun c hc => Text.isDigit_of_mem_ofNat hc
  have htake : rest.takeWhile Char.isDigit = [] := by
    cases rest with
    | nil => rfl
    | cons c more => exact List.takeWhile_cons_of_neg (by simp [(h c rfl).1])
  have hdrop : rest.dropWhile Char.isDigit = rest := by
    cases rest with
    | nil => rfl
    | cons c more => exact List.dropWhile_cons_of_neg (by simp [(h c rfl).1])
  rw [digits, List.takeWhile_append_of_pos hall, List.dropWhile_append_of_pos hall, htake, hdrop,
    List.append_nil]
  split
  · rename_i hnil
    exact absurd hnil (Text.ofNat_ne_nil n)
  · rfl

theorem fraction_of_endsNumber (h : EndsNumber rest) : fraction rest = some (none, rest) := by
  cases rest with
  | nil => rfl
  | cons c more =>
    rw [fraction]
    exact fun _ hc => (h c rfl).2.1 (List.cons.inj hc).1

theorem exponent_of_endsNumber (h : EndsNumber rest) : exponent rest = some (none, rest) := by
  cases rest with
  | nil => rfl
  | cons c more =>
    rw [exponent]
    · exact fun _ hc => (h c rfl).2.2.1 (List.cons.inj hc).1
    · exact fun _ hc => (h c rfl).2.2.2 (List.cons.inj hc).1

theorem magnitude_ofNat (h : EndsNumber rest) (negative : Bool) (n : Nat) :
    magnitude negative (Text.ofNat n ++ rest) =
      some (.int (if negative then -(n : Int) else n), rest) := by
  have hzero : (Text.ofNat n).head? ≠ some '0' ∨ Text.ofNat n = ['0'] := by
    by_cases hhead : (Text.ofNat n).head? = some '0'
    · exact Or.inr (Text.eq_zero_of_head?_ofNat hhead ▸ rfl)
    · exact Or.inl hhead
  have hguard : (guard ((Text.ofNat n).head? ≠ some '0' ∨ Text.ofNat n = ['0']) : Option Unit) =
      some () := if_pos hzero
  rw [magnitude, digits_ofNat h]
  refine (congrArg (Option.bind · _) hguard).trans ?_
  simp [fraction_of_endsNumber h, exponent_of_endsNumber h, value, Text.ofDigitChars_ofNat]

theorem exists_ofNat_eq_cons (n : Nat) : ∃ c more, Text.ofNat n = c :: more ∧ c.isDigit := by
  cases hn : Text.ofNat n with
  | nil => exact absurd hn (Text.ofNat_ne_nil n)
  | cons c more => exact ⟨c, more, rfl, Text.isDigit_of_mem_ofNat (by rw [hn]; simp)⟩

theorem infinity_ofNat (negative : Bool) (n : Nat) (rest : Text) :
    infinity negative (Text.ofNat n ++ rest) = none := by
  obtain ⟨c, more, hn, hc⟩ := exists_ofNat_eq_cons n
  have hI : c ≠ 'I' := by
    rintro rfl
    simp at hc
  have hword : "Infinity".toList.isPrefixOf (c :: more ++ rest) = false := by
    simp [List.isPrefixOf, hI.symm]
  rw [infinity, word, hn, hword, if_neg Bool.false_ne_true]

theorem number_ofInt (h : EndsNumber rest) (i : Int) :
    number (Text.ofInt i ++ rest) = some (.int i, rest) := by
  cases i with
  | ofNat n =>
    have hsign : number (Text.ofNat n ++ rest) =
        (infinity false (Text.ofNat n ++ rest) <|> magnitude false (Text.ofNat n ++ rest)) := by
      obtain ⟨c, more, hn, hc⟩ := exists_ofNat_eq_cons n
      rw [hn, List.cons_append, number]
      rintro _ heq
      obtain rfl := (List.cons.inj heq).1
      simp at hc
    rw [Text.ofInt, hsign, infinity_ofNat, magnitude_ofNat h]
    rfl
  | negSucc n =>
    rw [Text.ofInt, List.cons_append, number, infinity_ofNat, magnitude_ofNat h]
    rfl

theorem exists_ofInt_eq_cons (i : Int) :
    ∃ c more, Text.ofInt i = c :: more ∧ (c = '-' ∨ c.isDigit) := by
  cases i with
  | ofNat n =>
    obtain ⟨c, more, hn, hc⟩ := exists_ofNat_eq_cons n
    exact ⟨c, more, hn, Or.inr hc⟩
  | negSucc n => exact ⟨'-', _, rfl, Or.inl rfl⟩

theorem ne_of_begins_number {c d : Char} (hc : c = '-' ∨ c.isDigit) (hdigit : d.isDigit = false)
    (hminus : d ≠ '-') : c ≠ d := by
  rintro rfl
  simp [hminus, hdigit] at hc

theorem scalar_ofInt (h : EndsNumber rest) (i : Int) :
    scalar (Text.ofInt i ++ rest) = some (.int i, rest) := by
  rw [← number_ofInt h i]
  obtain ⟨c, more, hi, hc⟩ := exists_ofInt_eq_cons i
  rw [hi, List.cons_append, scalar]
  all_goals exact fun _ heq => ne_of_begins_number hc rfl (by decide) (List.cons.inj heq).1

theorem scalar_stringText (s rest : Text) :
    scalar (stringText s ++ rest) = some (.str s, rest) := by
  rw [stringText_append, scalar, string_stringText]
  rfl

theorem scalar_null (rest : Text) : scalar ("null".toList ++ rest) = some (.null, rest) := rfl

theorem scalar_bool (b : Bool) (rest : Text) :
    scalar ((if b then "true".toList else "false".toList) ++ rest) = some (.bool b, rest) := by
  cases b <;> rfl

theorem scalar_nan (rest : Text) : scalar ("NaN".toList ++ rest) = some (.nan, rest) := rfl

end Reader

end LayoutLint.Json
