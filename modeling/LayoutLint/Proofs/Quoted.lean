import LayoutLint.Proofs.Digits
import LayoutLint.Text.LineBreak
import LayoutLint.Text.Quoted

/-! A quoted text is on one line, and it tells the text as well as where it ends. The written form
of a character ends without regard to what follows, and none begins with the quote that ends the
text. -/
namespace LayoutLint

theorem isHeadlineEnd_of_isPrintable {c : Char} (h : isPrintable c) : isHeadlineEnd c = false := by
  rw [Bool.eq_false_iff]
  intro hend
  simp only [isHeadlineEnd, isLineBreak, Bool.or_eq_true, decide_eq_true_eq] at hend
  rcases hend with ((((((((rfl | rfl) | rfl) | rfl) | rfl) | rfl) | rfl) | rfl) | rfl) | rfl
  all_goals exact absurd h (by decide +kernel)

theorem isPrintable_of_ascii {c : Char} (h : ' ' ≤ c ∧ c ≤ '~') : isPrintable c := by
  have hlast : c.toNat < 0x7F := Nat.lt_succ_of_le h.2
  rw [isPrintable, if_pos hlast]
  exact decide_eq_true h.1

namespace Text

def Printable (t : Text) : Prop :=
  ∀ c ∈ t, isPrintable c

@[simp] theorem printable_append {t u : Text} :
    Printable (t ++ u) ↔ t.Printable ∧ u.Printable := by
  simp only [Printable, List.forall_mem_append]

@[simp] theorem printable_cons {c : Char} {t : Text} :
    Printable (c :: t) ↔ isPrintable c ∧ t.Printable := by
  simp [Printable]

theorem Printable.not_mem {t : Text} {c : Char} (h : t.Printable) (hc : isPrintable c = false) :
    c ∉ t := fun hmem => by
  rw [h c hmem] at hc
  cases hc

theorem Ascii.printable {t : Text} (h : t.Ascii) : t.Printable :=
  fun c hc => isPrintable_of_ascii (h c hc)

/-! ## Reading a character -/

def readCode? (digits : Nat) (t : Text) : Option (Char × Text) :=
  (hexValue? (t.take digits)).map fun n => (Char.ofNat n, t.drop digits)

def readChar? : Text → Option (Char × Text)
  | '\\' :: 'n' :: rest => some ('\n', rest)
  | '\\' :: 'r' :: rest => some ('\r', rest)
  | '\\' :: 't' :: rest => some ('\t', rest)
  | '\\' :: 'x' :: rest => readCode? 2 rest
  | '\\' :: 'u' :: rest => readCode? 4 rest
  | '\\' :: 'U' :: rest => readCode? 8 rest
  | '\\' :: c :: rest => some (c, rest)
  | c :: rest => some (c, rest)
  | [] => none

theorem readCode?_hex_append {digits : Nat} (hdigits : 0 < digits) {c : Char}
    (h : c.toNat < Nat.pow 16 digits) (rest : Text) :
    readCode? digits (hex digits c.toNat ++ rest) = some (c, rest) := by
  have hlength := length_hex hdigits h
  rw [readCode?, List.take_left' hlength, List.drop_left' hlength, hexValue?_hex, Option.map_some,
    Char.ofNat_toNat]

theorem readChar?_codePointEscape (c : Char) (rest : Text) :
    readChar? (codePointEscape c ++ rest) = some (c, rest) := by
  unfold codePointEscape
  split
  · rename_i hc
    exact readCode?_hex_append (by decide) hc rest
  · split
    · rename_i hc
      exact readCode?_hex_append (by decide) hc rest
    · have hc : c.toNat < Nat.pow 16 8 := c.val.toNat_lt
      exact readCode?_hex_append (by decide) hc rest

theorem readChar?_of_ne {c : Char} (h : c ≠ '\\') (rest : Text) :
    readChar? (c :: rest) = some (c, rest) := by
  unfold readChar?
  split <;> simp_all

/-! ## Between quotes -/

def IsQuote (q : Char) : Prop :=
  q = '\'' ∨ q = '"'

theorem isQuote_delimiter (t : Text) : IsQuote t.delimiter := by
  unfold delimiter
  split
  · exact Or.inr rfl
  · exact Or.inl rfl

variable {q : Char}

theorem readChar?_quotedChar (hq : IsQuote q) (c : Char) (rest : Text) :
    readChar? (quotedChar q c ++ rest) = some (c, rest) := by
  unfold quotedChar
  split
  · rename_i hself
    simp only [Bool.or_eq_true, decide_eq_true_eq] at hself
    rcases hself with rfl | rfl
    · rcases hq with rfl | rfl <;> rfl
    · rfl
  rename_i hself
  split
  · rename_i hc
    exact hc ▸ rfl
  split
  · rename_i hc
    exact hc ▸ rfl
  split
  · rename_i hc
    exact hc ▸ rfl
  split
  · simp only [Bool.or_eq_true, decide_eq_true_eq, not_or] at hself
    exact readChar?_of_ne hself.2 rest
  · exact readChar?_codePointEscape c rest

theorem exists_quotedChar_eq_cons (hq : IsQuote q) (c : Char) :
    ∃ d more, quotedChar q c = d :: more ∧ d ≠ q := by
  have hslash : '\\' ≠ q := by rcases hq with rfl | rfl <;> decide
  have hcode : ∃ more, codePointEscape c = '\\' :: more := by
    unfold codePointEscape
    split
    · exact ⟨_, rfl⟩
    · split <;> exact ⟨_, rfl⟩
  unfold quotedChar
  split
  · exact ⟨_, _, rfl, hslash⟩
  rename_i hself
  split
  · exact ⟨_, _, rfl, hslash⟩
  split
  · exact ⟨_, _, rfl, hslash⟩
  split
  · exact ⟨_, _, rfl, hslash⟩
  split
  · simp only [Bool.or_eq_true, decide_eq_true_eq, not_or] at hself
    exact ⟨c, [], rfl, hself.1⟩
  · obtain ⟨more, hmore⟩ := hcode
    exact ⟨_, more, hmore, hslash⟩

theorem printable_codePointEscape (c : Char) : (codePointEscape c).Printable := by
  have hmark : ∀ letter width, Ascii ['\\', letter] →
      Ascii ('\\' :: letter :: hex width c.toNat) := fun letter width hletter =>
    ascii_append.2 ⟨hletter, ascii_hex width c.toNat⟩
  refine Ascii.printable ?_
  unfold codePointEscape
  split
  · exact hmark _ _ (by decide)
  · split
    · exact hmark _ _ (by decide)
    · exact hmark _ _ (by decide)

theorem printable_quotedChar (hq : isPrintable q) (c : Char) : (quotedChar q c).Printable := by
  have hslash : isPrintable '\\' := rfl
  have hletter : ∀ d, isPrintable d → Printable ['\\', d] := fun d hd => by
    simp [Printable, hslash, hd]
  unfold quotedChar
  split
  · rename_i hself
    simp only [Bool.or_eq_true, decide_eq_true_eq] at hself
    rcases hself with rfl | rfl
    · exact hletter c hq
    · exact hletter '\\' hslash
  split
  · exact hletter 'n' rfl
  split
  · exact hletter 'r' rfl
  split
  · exact hletter 't' rfl
  split
  · rename_i hc
    simpa [Printable] using hc
  · exact printable_codePointEscape c

theorem printable_quoted (t : Text) : t.quoted.Printable := by
  have hq : isPrintable t.delimiter := by
    rcases isQuote_delimiter t with h | h <;> rw [h] <;> rfl
  have hbody : Printable (t.flatMap (quotedChar t.delimiter)) := fun d hd => by
    obtain ⟨c, -, hd⟩ := List.mem_flatMap.1 hd
    exact printable_quotedChar hq c d hd
  have hlast : Printable [t.delimiter] := by simpa [Printable] using hq
  exact printable_append.2 ⟨printable_cons.2 ⟨hq, hbody⟩, hlast⟩

variable {t u rest rest' : Text}

/-- The induction goes along the first text. At each character both texts are read, and where one
of them ends the other one does, since only there the quote stands. -/
theorem flatMap_quotedChar_append_inj (hq : IsQuote q)
    (h : t.flatMap (quotedChar q) ++ q :: rest = u.flatMap (quotedChar q) ++ q :: rest') :
    t = u ∧ rest = rest' := by
  induction t generalizing u with
  | nil =>
    cases u with
    | nil => simpa using h
    | cons d u =>
      -- The first text has ended in a quote, which no written character begins with.
      obtain ⟨first, more, hd, hne⟩ := exists_quotedChar_eq_cons hq d
      rw [List.flatMap_cons, hd] at h
      exact absurd (List.cons.inj h).1.symm hne
  | cons c t ih =>
    cases u with
    | nil =>
      obtain ⟨first, more, hc, hne⟩ := exists_quotedChar_eq_cons hq c
      rw [List.flatMap_cons, hc] at h
      exact absurd (List.cons.inj h).1 hne
    | cons d u =>
      have hread := congrArg readChar? h
      rw [List.flatMap_cons, List.flatMap_cons, List.append_assoc, List.append_assoc,
        readChar?_quotedChar hq, readChar?_quotedChar hq, Option.some.injEq, Prod.mk.injEq] at hread
      obtain ⟨rfl, hbehind⟩ := hread
      obtain ⟨rfl, hrest⟩ := ih hbehind
      exact ⟨rfl, hrest⟩

theorem quoted_append (t rest : Text) : t.quoted ++ rest =
    t.delimiter :: (t.flatMap (quotedChar t.delimiter) ++ t.delimiter :: rest) := by
  simp [quoted]

/-- Two quoted texts that are equal as far as both reach are those of one text. -/
theorem quoted_append_inj (h : t.quoted ++ rest = u.quoted ++ rest') : t = u ∧ rest = rest' := by
  rw [quoted_append, quoted_append] at h
  obtain ⟨hquote, hbehind⟩ := List.cons.inj h
  rw [← hquote] at hbehind
  exact flatMap_quotedChar_append_inj (isQuote_delimiter t) hbehind

end Text

end LayoutLint
