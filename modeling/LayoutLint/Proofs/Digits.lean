import LayoutLint.Text.Basic

/-! Numbers written in digits can be read back. In hexadecimal the zeros in front do not count, and
in decimal there are none. All digits are ASCII. -/
namespace LayoutLint.Text

theorem hexDigit?_digitChar {d : Nat} (h : d < 16) : hexDigit? d.digitChar = some d := by
  have hall : ∀ d < 16, hexDigit? d.digitChar = some d := by decide
  exact hall d h

theorem hexValue?_toDigits (n : Nat) : hexValue? (Nat.toDigits 16 n) = some n := by
  induction n using Nat.strongRecOn with
  | ind n ih =>
    rcases Nat.lt_or_ge n 16 with hlt | hge
    · simp [Nat.toDigits_of_lt_base hlt, hexValue?, hexDigit?_digitChar hlt]
    · have hrest : hexValue? (Nat.toDigits 16 (n / 16)) = some (n / 16) := ih _ (by omega)
      have hlast := hexDigit?_digitChar (Nat.mod_lt n (by decide : 0 < 16))
      unfold hexValue? at hrest ⊢
      rw [Nat.toDigits_of_base_le (by decide) hge, List.foldlM_append, hrest]
      simp [hlast, Nat.div_add_mod]

theorem hexValue?_replicate_append (k : Nat) (t : Text) :
    hexValue? (List.replicate k '0' ++ t) = hexValue? t := by
  induction k with
  | zero => rfl
  | succ k ih => exact ih

theorem hexValue?_hex (width n : Nat) : hexValue? (hex width n) = some n := by
  rw [hex, hexValue?_replicate_append, hexValue?_toDigits]

theorem length_hex {width n : Nat} (hwidth : 0 < width) (h : n < Nat.pow 16 width) :
    (hex width n).length = width := by
  have hdigits := (Nat.length_toDigits_le_iff (by decide) hwidth).2 h
  rw [hex, List.length_append, List.length_replicate]
  omega

theorem isDigit_of_mem_ofNat {n : Nat} {c : Char} (h : c ∈ ofNat n) : c.isDigit :=
  Nat.isDigit_of_mem_toDigits (by decide) (by decide) h

theorem mem_of_mem_ofNat {n : Nat} {c : Char} (h : c ∈ ofNat n) : c ∈ "0123456789".toList := by
  have hall : ∀ k < 58, 48 ≤ k → Char.ofNat k ∈ "0123456789".toList := by decide
  have hdigit := isDigit_of_mem_ofNat h
  simp only [Char.isDigit, Bool.and_eq_true, decide_eq_true_eq] at hdigit
  rw [← Char.ofNat_toNat c]
  exact hall c.toNat (Nat.lt_succ_of_le hdigit.2) hdigit.1

theorem ofNat_ne_nil (n : Nat) : ofNat n ≠ [] :=
  Nat.toDigits_ne_nil

theorem ofDigitChars_ofNat (n : Nat) : Nat.ofDigitChars 10 (ofNat n) 0 = n :=
  Nat.ofDigitChars_ten_toDigits

theorem ofNat_inj {n m : Nat} : ofNat n = ofNat m ↔ n = m := by
  constructor
  · intro h
    rw [← ofDigitChars_ofNat n, h, ofDigitChars_ofNat]
  · exact congrArg ofNat

theorem takeWhile_ofNat_append {c : Char} (hc : c.isDigit = false) (n : Nat) (t : Text) :
    (ofNat n ++ c :: t).takeWhile Char.isDigit = ofNat n := by
  rw [List.takeWhile_append_of_pos fun _ => isDigit_of_mem_ofNat,
    List.takeWhile_cons_of_neg (by simp [hc]), List.append_nil]

theorem ofNat_append_inj {c : Char} (hc : c.isDigit = false) {n m : Nat} {t u : Text}
    (h : ofNat n ++ c :: t = ofNat m ++ c :: u) : n = m ∧ t = u := by
  have hdigits := congrArg (List.takeWhile Char.isDigit) h
  rw [takeWhile_ofNat_append hc, takeWhile_ofNat_append hc] at hdigits
  rw [hdigits, List.append_cancel_left_eq] at h
  exact ⟨ofNat_inj.1 hdigits, (List.cons.inj h).2⟩

theorem eq_zero_of_head?_ofNat {n : Nat} (h : (ofNat n).head? = some '0') : n = 0 := by
  unfold ofNat at h
  induction n using Nat.strongRecOn with
  | ind n ih =>
    rcases Nat.lt_or_ge n 10 with hlt | hge
    · simpa [Nat.toDigits_of_lt_base hlt] using h
    · have hhead := List.head?_eq_some_head (Nat.toDigits_ne_nil (n := n / 10) (b := 10))
      rw [Nat.toDigits_of_base_le (by decide) hge, List.head?_append, hhead, Option.some_or,
        ← hhead] at h
      have := ih (n / 10) (by omega) h
      omega

/-! ## ASCII -/

def Ascii (t : Text) : Prop :=
  ∀ c ∈ t, ' ' ≤ c ∧ c ≤ '~'

instance (t : Text) : Decidable t.Ascii :=
  List.decidableBAll (fun c => ' ' ≤ c ∧ c ≤ '~') t

@[simp] theorem ascii_nil : Ascii [] := by
  simp [Ascii]

@[simp] theorem ascii_append {t u : Text} : Ascii (t ++ u) ↔ t.Ascii ∧ u.Ascii := by
  simp only [Ascii, List.forall_mem_append]

@[simp] theorem ascii_cons {c : Char} {t : Text} :
    Ascii (c :: t) ↔ (' ' ≤ c ∧ c ≤ '~') ∧ t.Ascii := by
  simp [Ascii]

theorem ascii_flatMap {t : Text} {f : Char → Text} (h : ∀ c ∈ t, (f c).Ascii) :
    Ascii (t.flatMap f) := by
  intro d hd
  obtain ⟨c, hc, hd⟩ := List.mem_flatMap.1 hd
  exact h c hc d hd

theorem ascii_toDigits (n : Nat) : Ascii (Nat.toDigits 16 n) := by
  have hdigit : ∀ d < 16, ' ' ≤ d.digitChar ∧ d.digitChar ≤ '~' := by decide
  induction n using Nat.strongRecOn with
  | ind n ih =>
    rcases Nat.lt_or_ge n 16 with hlt | hge
    · simpa [Nat.toDigits_of_lt_base hlt] using hdigit n hlt
    · have hrest : Ascii (Nat.toDigits 16 (n / 16)) := ih _ (by omega)
      rw [Nat.toDigits_of_base_le (by decide) hge]
      simpa using ⟨hrest, hdigit _ (Nat.mod_lt n (by decide))⟩

theorem ascii_hex (width n : Nat) : (hex width n).Ascii :=
  ascii_append.2 ⟨fun c hc => (List.mem_replicate.1 hc).2 ▸ by decide, ascii_toDigits n⟩

theorem ascii_ofNat (n : Nat) : (ofNat n).Ascii := by
  intro c hc
  have hdigit := isDigit_of_mem_ofNat hc
  simp only [Char.isDigit, ge_iff_le, Bool.and_eq_true, decide_eq_true_eq] at hdigit
  exact ⟨Char.le_trans (by decide) hdigit.1, Char.le_trans hdigit.2 (by decide)⟩

end LayoutLint.Text
