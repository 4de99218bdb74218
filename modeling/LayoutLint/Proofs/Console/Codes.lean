import LayoutLint.Report.Console.Strip
import LayoutLint.Proofs.Digits

/-! What is left of a report when the codes that switch styles on and off are taken out. Of painted
text that is the text. -/
namespace LayoutLint

def isCodeSign (c : Char) : Bool :=
  c.isDigit || c = ';'

def isOutsideCodes (c : Char) : Bool :=
  !(isCodeSign c || c = '\x1b' || c = '[' || c = 'm')

namespace Text

def signsTail? : Text → Option Nat
  | [] => none
  | c :: rest =>
    if c = 'm' then some 1
    else if isCodeSign c then (signsTail? rest).map (· + 1)
    else none

def codeTail? : Text → Option Nat
  | c :: d :: rest =>
    if c = '\x1b' && d = '[' then (signsTail? rest).map (· + 1) else none
  | _ => none

/-- The text without codes, when the next `covered` characters are those of a code. -/
def withoutCodesFrom (covered : Nat) : Text → Text
  | [] => []
  | c :: rest =>
    match covered with
    | covered + 1 => withoutCodesFrom covered rest
    | 0 =>
      match codeTail? (c :: rest) with
      | some n => withoutCodesFrom n rest
      | none => c :: withoutCodesFrom 0 rest

def withoutCodes (t : Text) : Text :=
  withoutCodesFrom 0 t

theorem mem_of_mem_withoutCodesFrom {c : Char} {covered : Nat} {t : Text}
    (h : c ∈ withoutCodesFrom covered t) : c ∈ t := by
  fun_induction withoutCodesFrom covered t with
  | case1 => exact h
  | case2 d rest covered ih => exact List.mem_cons_of_mem d (ih h)
  | case3 d rest n _ ih => exact List.mem_cons_of_mem d (ih h)
  | case4 d rest _ ih =>
    rcases List.mem_cons.1 h with rfl | h
    · exact List.mem_cons_self
    · exact List.mem_cons_of_mem d (ih h)

/-! ## Text that holds no escape -/

theorem codeTail?_of_ne {c : Char} (h : c ≠ '\x1b') (t : Text) : codeTail? (c :: t) = none := by
  cases t <;> simp [codeTail?, h]

theorem withoutCodes_append_of_not_mem {t : Text} (h : '\x1b' ∉ t) (rest : Text) :
    (t ++ rest).withoutCodes = t ++ rest.withoutCodes := by
  induction t with
  | nil => rfl
  | cons c t ih =>
    rw [List.mem_cons, not_or] at h
    have hnone := codeTail?_of_ne (Ne.symm h.1) (t ++ rest)
    simp only [List.cons_append, withoutCodes, withoutCodesFrom, hnone]
    exact congrArg (c :: ·) (ih h.2)

theorem withoutCodes_of_not_mem {t : Text} (h : '\x1b' ∉ t) : t.withoutCodes = t := by
  simpa [withoutCodes, withoutCodesFrom] using withoutCodes_append_of_not_mem h []

/-! ## Text cut between codes -/

theorem signsTail?_append {c : Char} (hc : isOutsideCodes c) (t rest : Text) :
    signsTail? (t ++ c :: rest) = signsTail? t := by
  induction t with
  | nil =>
    simp only [isOutsideCodes, Bool.not_eq_true', Bool.or_eq_false_iff,
      decide_eq_false_iff_not] at hc
    simp [signsTail?, hc]
  | cons d t ih => simp [signsTail?, ih]

theorem length_of_signsTail? {t : Text} {n : Nat} (h : signsTail? t = some n) : n ≤ t.length := by
  induction t generalizing n with
  | nil => cases h
  | cons c t ih =>
    simp only [signsTail?] at h
    split at h
    · obtain rfl := Option.some.inj h
      simp
    · split at h
      · obtain ⟨m, hm, rfl⟩ := Option.map_eq_some_iff.1 h
        simpa using ih hm
      · cases h

theorem codeTail?_append {c : Char} (hc : isOutsideCodes c) {t : Text} (ht : t ≠ [])
    (rest : Text) : codeTail? (t ++ c :: rest) = codeTail? t := by
  match t with
  | [] => exact absurd rfl ht
  | [d] =>
    have hbracket : c ≠ '[' := by
      rintro rfl
      exact absurd hc (by decide)
    simp [codeTail?, hbracket]
  | d :: e :: signs => simp [codeTail?, signsTail?_append hc]

theorem length_of_codeTail? {c : Char} {t : Text} {n : Nat} (h : codeTail? (c :: t) = some n) :
    n ≤ t.length := by
  match t with
  | [] => cases h
  | d :: signs =>
    simp only [codeTail?] at h
    split at h
    · obtain ⟨m, hm, rfl⟩ := Option.map_eq_some_iff.1 h
      simpa using length_of_signsTail? hm
    · cases h

theorem withoutCodesFrom_append {c : Char} (hc : isOutsideCodes c) {covered : Nat} {t : Text}
    (h : covered ≤ t.length) (rest : Text) : withoutCodesFrom covered (t ++ c :: rest) =
      withoutCodesFrom covered t ++ withoutCodes (c :: rest) := by
  induction t generalizing covered with
  | nil =>
    obtain rfl : covered = 0 := by simpa using h
    rfl
  | cons d t ih =>
    cases covered with
    | succ covered => exact ih (by simpa using h)
    | zero =>
      have htail := codeTail?_append hc (List.cons_ne_nil d t) rest
      rw [List.cons_append] at htail
      simp only [List.cons_append, withoutCodesFrom, htail]
      split
      · rename_i n hn
        exact ih (length_of_codeTail? hn)
      · exact congrArg (d :: ·) (ih (Nat.zero_le _))

/-- No code reaches over a character that no code holds. -/
theorem withoutCodes_append {c : Char} (hc : isOutsideCodes c) (t rest : Text) :
    (t ++ c :: rest).withoutCodes = t.withoutCodes ++ withoutCodes (c :: rest) :=
  withoutCodesFrom_append hc (Nat.zero_le _) rest

theorem withoutCodes_append_of_last {c : Char} (hc : isOutsideCodes c) (t rest : Text) :
    (t ++ [c] ++ rest).withoutCodes = (t ++ [c]).withoutCodes ++ rest.withoutCodes := by
  have hne : '\x1b' ≠ c := by
    rintro rfl
    exact absurd hc (by decide)
  have hlast := withoutCodes_append_of_not_mem (t := [c]) (by simpa using hne)
  have hrest : withoutCodes (c :: rest) = [c] ++ rest.withoutCodes := hlast rest
  have hend : withoutCodes [c] = [c] := withoutCodes_of_not_mem (by simpa using hne)
  rw [List.append_assoc, List.singleton_append, withoutCodes_append hc, withoutCodes_append hc,
    hrest, hend, List.append_assoc]

/-! ## Codes that are written -/

theorem mem_intercalate {c : Char} {sep : Text} {ts : List Text} (h : c ∈ sep.intercalate ts) :
    c ∈ sep ∨ ∃ t ∈ ts, c ∈ t := by
  induction ts with
  | nil => simp at h
  | cons t ts ih =>
    cases ts with
    | nil => exact Or.inr ⟨t, List.mem_cons_self, by simpa using h⟩
    | cons u ts =>
      rw [List.intercalate_cons_cons, List.append_assoc, List.mem_append, List.mem_append] at h
      rcases h with h | h | h
      · exact Or.inr ⟨t, List.mem_cons_self, h⟩
      · exact Or.inl h
      · exact (ih h).imp_right fun ⟨v, hv, hc⟩ => ⟨v, List.mem_cons_of_mem t hv, hc⟩

theorem signsTail?_code {signs : Text} (h : ∀ c ∈ signs, isCodeSign c) (rest : Text) :
    signsTail? (signs ++ 'm' :: rest) = some (signs.length + 1) := by
  induction signs with
  | nil => rfl
  | cons c signs ih =>
    rw [List.forall_mem_cons] at h
    have hc : c ≠ 'm' := by
      rintro rfl
      exact absurd h.1 (by decide)
    simp [signsTail?, hc, h.1, ih h.2]

theorem withoutCodesFrom_covered (t rest : Text) :
    withoutCodesFrom t.length (t ++ rest) = rest.withoutCodes := by
  induction t with
  | nil => rfl
  | cons c t ih => exact ih

theorem withoutCodes_code {signs : Text} (h : ∀ c ∈ signs, isCodeSign c) (rest : Text) :
    withoutCodes ('\x1b' :: '[' :: (signs ++ 'm' :: rest)) = rest.withoutCodes := by
  have htail : codeTail? ('\x1b' :: '[' :: (signs ++ 'm' :: rest)) = some (signs.length + 2) := by
    simp [codeTail?, signsTail?_code h]
  have hcovered := withoutCodesFrom_covered ('[' :: (signs ++ ['m'])) rest
  rw [withoutCodes, withoutCodesFrom, htail]
  simpa using hcovered

end Text

namespace Report.Console

theorem Style.isCodeSign_of_mem (numbers : List Nat) {c : Char}
    (h : c ∈ [';'].intercalate (numbers.map Text.ofNat)) : isCodeSign c := by
  rcases Text.mem_intercalate h with h | ⟨t, ht, h⟩
  · obtain rfl := List.mem_singleton.1 h
    rfl
  · obtain ⟨n, -, rfl⟩ := List.mem_map.1 ht
    rw [isCodeSign, Text.isDigit_of_mem_ofNat h, Bool.true_or]

theorem Style.withoutCodes_paint (s : Style) {t : Text} (h : '\x1b' ∉ t) (rest : Text) :
    (s.paint t ++ rest).withoutCodes = t ++ rest.withoutCodes := by
  unfold Style.paint
  split
  · exact Text.withoutCodes_append_of_not_mem h rest
  · have hzero : ∀ c ∈ ['0'], isCodeSign c := List.forall_mem_singleton.2 (by decide)
    have hend := Text.withoutCodes_code hzero rest
    have hstart := Text.withoutCodes_code (fun _ hc => Style.isCodeSign_of_mem s.codes hc)
      (t ++ ("\x1b[0m".toList ++ rest))
    rw [Text.withoutCodes_append_of_not_mem h] at hstart
    simpa using hstart.trans (congrArg (t ++ ·) hend)

theorem Strip.withoutCodes_write {s : Strip} (h : ∀ p ∈ s, '\x1b' ∉ p.2) (rest : Text) :
    (s.write ++ rest).withoutCodes = s.flatMap (·.2) ++ rest.withoutCodes := by
  induction s with
  | nil => rfl
  | cons p s ih =>
    rw [List.forall_mem_cons] at h
    have hpaint := p.1.withoutCodes_paint h.1 (Strip.write s ++ rest)
    rw [ih h.2] at hpaint
    simpa [Strip.write] using hpaint

theorem Style.not_mem_paint (s : Style) {t : Text} {c : Char} (hc : isOutsideCodes c) (h : c ∉ t) :
    c ∉ s.paint t := by
  have hsigns : c ∉ [';'].intercalate (s.codes.map Text.ofNat) := by
    intro hmem
    simp [isOutsideCodes, isCodeSign_of_mem _ hmem] at hc
  have hzero : c ≠ '0' := by
    rintro rfl
    exact absurd hc (by decide)
  simp only [isOutsideCodes, Bool.not_eq_true', Bool.or_eq_false_iff, decide_eq_false_iff_not] at hc
  unfold Style.paint
  split
  · exact h
  · simp [h, hsigns, hzero, hc]

theorem Strip.not_mem_write {s : Strip} {c : Char} (hc : isOutsideCodes c)
    (h : c ∉ s.flatMap (·.2)) : c ∉ s.write := by
  intro hmem
  obtain ⟨p, hp, hmem⟩ := List.mem_flatMap.1 hmem
  exact p.1.not_mem_paint hc (fun hc => h (List.mem_flatMap.2 ⟨p, hp, hc⟩)) hmem

end Report.Console

end LayoutLint
