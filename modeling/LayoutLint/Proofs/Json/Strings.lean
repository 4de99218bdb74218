import LayoutLint.Json.Printer
import LayoutLint.Json.Reader
import LayoutLint.Proofs.Digits

/-! Strings survive being written and read. A character is written as units that the reader takes
up one by one: the character itself, a short escape, one UTF-16 unit or a pair of surrogates. From
the units of a text the reader puts its characters together again. -/
namespace LayoutLint.Json

namespace Reader

/-- What the reader makes of a written character before surrogates are joined. -/
def charUnits (c : Char) : List Nat :=
  if c.toNat < 0x10000 then [c.toNat]
  else [0xD800 + (c.toNat - 0x10000) / 0x400, 0xDC00 + (c.toNat - 0x10000) % 0x400]

theorem lt_of_shortEscape? {e : Char} {unit : Nat} (h : shortEscape? e = some unit) :
    unit < 0x10000 := by
  unfold shortEscape? at h
  split at h
  all_goals simp only [Option.some.injEq, reduceCtorEq] at h
  all_goals omega

theorem escapedChar_cases (c : Char) :
    (∃ e, escapedChar c = ['\\', e] ∧ shortEscape? e = some c.toNat) ∨
      (escapedChar c = [c] ∧ c ≠ '"' ∧ c ≠ '\\' ∧ ' ' ≤ c ∧ c ≤ '~') ∨
      escapedChar c = codePointEscape c.toNat := by
  unfold escapedChar
  split
  · rename_i hself
    simp only [Bool.or_eq_true, decide_eq_true_eq] at hself
    rcases hself with rfl | rfl
    · exact Or.inl ⟨'"', rfl, rfl⟩
    · exact Or.inl ⟨'\\', rfl, rfl⟩
  rename_i hself
  split
  · rename_i hc
    exact Or.inl ⟨'n', rfl, hc ▸ rfl⟩
  split
  · rename_i hc
    exact Or.inl ⟨'r', rfl, hc ▸ rfl⟩
  split
  · rename_i hc
    exact Or.inl ⟨'t', rfl, hc ▸ rfl⟩
  split
  · rename_i hc
    exact Or.inl ⟨'b', rfl, hc ▸ rfl⟩
  split
  · rename_i hc
    exact Or.inl ⟨'f', rfl, hc ▸ rfl⟩
  split
  · rename_i hascii
    simp only [Bool.or_eq_true, Bool.and_eq_true, decide_eq_true_eq, not_or] at hself hascii
    exact Or.inr (Or.inl ⟨rfl, hself.1, hself.2, hascii⟩)
  · exact Or.inr (Or.inr rfl)

theorem units_unitEscape {unit : Nat} (h : unit < 0x10000) (rest : Text) :
    units (unitEscape unit ++ rest) =
      (units rest).map fun (more, rest) => (unit :: more, rest) := by
  have hlength : (Text.hex 4 unit).length = 4 := Text.length_hex (by decide) h
  have hvalue := Text.hexValue?_hex 4 unit
  rw [unitEscape]
  match hhex : Text.hex 4 unit, hlength with
  | [a, b, c, d], _ =>
    rw [hhex] at hvalue
    simp only [List.cons_append, List.nil_append, units, hvalue]
    cases units rest <;> rfl

theorem units_short {e : Char} {unit : Nat} (h : shortEscape? e = some unit) (rest : Text) :
    units ('\\' :: e :: rest) = (units rest).map fun (more, rest) => (unit :: more, rest) := by
  have hu : e ≠ 'u' := by
    rintro rfl
    simp [shortEscape?] at h
  rw [units]
  · rw [h]
    cases units rest <;> rfl
  · intro a b c d rest' he _
    exact hu he

theorem units_plain {c : Char} (hquote : c ≠ '"') (hslash : c ≠ '\\') (hblank : ¬ c < ' ')
    (rest : Text) :
    units (c :: rest) = (units rest).map fun (more, rest) => (c.toNat :: more, rest) := by
  rw [units]
  · rw [if_neg hblank]
    cases units rest <;> rfl
  · exact hquote
  · exact fun _ _ _ _ _ h _ => hslash h
  · exact fun _ _ h _ => hslash h

theorem toNat_lt_or_gt (c : Char) :
    c.toNat < 0xD800 ∨ 0xDFFF < c.toNat ∧ c.toNat < 0x110000 :=
  c.valid

theorem charUnits_of_lt {c : Char} (h : c.toNat < 0x10000) : charUnits c = [c.toNat] :=
  if_pos h

theorem units_escapedChar (c : Char) (rest : Text) : units (escapedChar c ++ rest) =
    (units rest).map fun (more, rest) => (charUnits c ++ more, rest) := by
  rcases escapedChar_cases c with ⟨e, hescaped, he⟩ | ⟨hescaped, hquote, hslash, hlow, hhigh⟩ |
    hescaped
  · rw [hescaped, charUnits_of_lt (lt_of_shortEscape? he)]
    exact units_short he rest
  · have hascii : c.toNat ≤ '~'.toNat := hhigh
    have hc : c.toNat < 0x10000 := Nat.lt_of_le_of_lt hascii (by decide)
    rw [hescaped, charUnits_of_lt hc]
    exact units_plain hquote hslash (Char.not_lt.2 hlow) rest
  · rw [hescaped, codePointEscape, charUnits]
    -- No character is beyond U+10FFFF, so both surrogates have four digits.
    have hvalid := toNat_lt_or_gt c
    split
    · rename_i hc
      exact units_unitEscape hc rest
    · rw [List.append_assoc, units_unitEscape (by omega), units_unitEscape (by omega)]
      cases units rest <;> rfl

theorem charsOfUnits?_cons {unit : Nat} (h : unit < 0xD800 ∨ 0xDFFF < unit) (more : List Nat) :
    charsOfUnits? (unit :: more) = (charsOfUnits? more).map (Char.ofNat unit :: ·) := by
  have hhigh : isHigh unit = false := by
    simp only [isHigh, Bool.and_eq_false_iff, decide_eq_false_iff_not]
    omega
  have hlow : isLow unit = false := by
    simp only [isLow, Bool.and_eq_false_iff, decide_eq_false_iff_not]
    omega
  cases more with
  | nil => simp [charsOfUnits?, hhigh, hlow]
  | cons low rest => simp [charsOfUnits?, hhigh, hlow]

theorem charsOfUnits?_charUnits (c : Char) (more : List Nat) :
    charsOfUnits? (charUnits c ++ more) = (charsOfUnits? more).map (c :: ·) := by
  have hvalid := toNat_lt_or_gt c
  unfold charUnits
  split
  · rename_i hc
    rw [List.singleton_append, charsOfUnits?_cons (by omega), Char.ofNat_toNat]
  · rename_i hc
    have hhigh : isHigh (0xD800 + (c.toNat - 0x10000) / 0x400) := by
      simp only [isHigh, Bool.and_eq_true, decide_eq_true_eq]
      omega
    have hlow : isLow (0xDC00 + (c.toNat - 0x10000) % 0x400) := by
      simp only [isLow, Bool.and_eq_true, decide_eq_true_eq]
      omega
    have hjoined : 0x10000 + (0xD800 + (c.toNat - 0x10000) / 0x400 - 0xD800) * 0x400 +
        (0xDC00 + (c.toNat - 0x10000) % 0x400 - 0xDC00) = c.toNat := by omega
    rw [List.cons_append, List.cons_append, charsOfUnits?, hhigh, hlow, Bool.and_self, if_pos rfl,
      hjoined, Char.ofNat_toNat, List.nil_append]

theorem units_flatMap_escapedChar (s rest : Text) :
    units (s.flatMap escapedChar ++ '"' :: rest) = some (s.flatMap charUnits, rest) := by
  induction s with
  | nil => rw [List.flatMap_nil, List.nil_append, units, List.flatMap_nil]
  | cons c more ih =>
    rw [List.flatMap_cons, List.append_assoc, units_escapedChar, ih, List.flatMap_cons]
    rfl

theorem charsOfUnits?_flatMap_charUnits (s : Text) :
    charsOfUnits? (s.flatMap charUnits) = some s := by
  induction s with
  | nil => rfl
  | cons c more ih => rw [List.flatMap_cons, charsOfUnits?_charUnits, ih, Option.map_some]

theorem stringText_append (s rest : Text) :
    stringText s ++ rest = '"' :: (s.flatMap escapedChar ++ '"' :: rest) := by
  simp [stringText]

/-- A written string is read back, whatever follows its closing quote. -/
theorem string_stringText (s rest : Text) :
    string (s.flatMap escapedChar ++ '"' :: rest) = some (s, rest) := by
  rw [string, units_flatMap_escapedChar]
  simp [charsOfUnits?_flatMap_charUnits]

end Reader

end LayoutLint.Json
