import LayoutLint.Report.Console.Markup

/-! Which texts hold tags. A text without tags is one piece, and escaping leaves none in any text:
each tag gets an odd number of backslashes and is taken literally. -/
namespace LayoutLint.Report.Console.Markup

/-- No tag begins in the text, with or without backslashes before it. -/
def TagFree : Text → Prop
  | [] => True
  | c :: rest => tagAt? (c :: rest) = none ∧ TagFree rest

instance decidableTagFree : (t : Text) → Decidable (TagFree t)
  | [] => inferInstanceAs (Decidable True)
  | c :: rest =>
    have := decidableTagFree rest
    inferInstanceAs (Decidable (tagAt? (c :: rest) = none ∧ TagFree rest))

def Unbracketed (t : Text) : Prop :=
  ∀ c ∈ t, isBracket c = false

instance (t : Text) : Decidable (Unbracketed t) :=
  List.decidableBAll (isBracket · = false) t

structure IsBody (body : Text) : Prop where
  begins : body.head?.any beginsTag
  unbracketed : Unbracketed body

def writtenTag (slashes : Nat) (body : Text) : Text :=
  List.replicate slashes '\\' ++ '[' :: body ++ [']']

theorem IsBody.ne_nil {body : Text} (h : IsBody body) : body ≠ [] := by
  rintro rfl
  exact absurd h.begins (by simp)

@[simp] theorem length_writtenTag (slashes : Nat) (body : Text) :
    (writtenTag slashes body).length = slashes + body.length + 2 := by
  simp [writtenTag]
  omega

/-! ## Where a tag begins -/

theorem head?_drop_takeWhile (t : Text) :
    (t.drop (t.takeWhile (!isBracket ·)).length).head? = t.find? isBracket := by
  induction t with
  | nil => rfl
  | cons c t ih => cases hc : isBracket c <;> simp [hc, ih]

theorem isBracket_of_beginsTag {c : Char} (h : beginsTag c) : isBracket c = false := by
  rw [Bool.eq_false_iff]
  intro hb
  simp only [isBracket, Bool.or_eq_true, decide_eq_true_eq] at hb
  rcases hb with rfl | rfl <;> exact absurd h (by decide)

theorem isSome_tagBody?_iff (t : Text) :
    (tagBody? t).isSome ↔ t.head?.any beginsTag ∧ t.find? isBracket = some ']' := by
  have hhead : (t.takeWhile (!isBracket ·)).head?.any beginsTag = t.head?.any beginsTag := by
    cases t with
    | nil => rfl
    | cons c t =>
      cases hc : isBracket c
      · simp [hc]
      · have hnot : beginsTag c = false := by
          rw [Bool.eq_false_iff]
          intro hbegins
          simp [isBracket_of_beginsTag hbegins] at hc
        simp [hc, hnot]
  simp only [tagBody?, hhead, head?_drop_takeWhile, Bool.and_eq_true, decide_eq_true_eq]
  split <;> simp_all

theorem isSome_tagAt?_cons_iff (c : Char) (t : Text) : (tagAt? (c :: t)).isSome ↔
    c = '\\' ∧ (tagAt? t).isSome ∨ c = '[' ∧ (tagBody? t).isSome := by
  by_cases hslash : c = '\\'
  · subst hslash
    simp only [tagAt?, List.takeWhile_cons, decide_true, if_true, List.length_cons,
      List.drop_succ_cons]
    split <;> simp_all
  · by_cases hopen : c = '['
    · subst hopen
      simp [tagAt?]
    · simp [tagAt?, hslash, hopen]

theorem tagAt?_of_ne {c : Char} (hslash : c ≠ '\\') (hopen : c ≠ '[') (t : Text) :
    tagAt? (c :: t) = none := by
  rw [← Option.not_isSome_iff_eq_none, isSome_tagAt?_cons_iff]
  simp [hslash, hopen]

theorem tagBody?_append {body : Text} (h : IsBody body) (rest : Text) :
    tagBody? (body ++ ']' :: rest) = some body := by
  have htake : (body ++ ']' :: rest).takeWhile (!isBracket ·) = body := by
    rw [List.takeWhile_append_of_pos (by simpa [Unbracketed] using h.unbracketed)]
    simp [isBracket]
  simp [tagBody?, htake, h.begins]

theorem tagAt?_writtenTag {body : Text} (h : IsBody body) (slashes : Nat) (rest : Text) :
    tagAt? (writtenTag slashes body ++ rest) = some (slashes, body) := by
  have htake : (writtenTag slashes body ++ rest).takeWhile (· = '\\') =
      List.replicate slashes '\\' := by
    rw [writtenTag, List.append_assoc, List.append_assoc,
      List.takeWhile_append_of_pos (by simp), List.cons_append]
    simp
  have hdrop : (writtenTag slashes body ++ rest).drop slashes = '[' :: (body ++ ']' :: rest) := by
    simp [writtenTag]
  simp [tagAt?, htake, hdrop, tagBody?_append h]

theorem exists_of_tagBody? {t body : Text} (h : tagBody? t = some body) :
    IsBody body ∧ ∃ rest, t = body ++ ']' :: rest := by
  simp only [tagBody?, Bool.and_eq_true, decide_eq_true_eq] at h
  split at h
  · rename_i hbody
    obtain rfl := Option.some.inj h
    refine ⟨⟨hbody.1, fun c hc => ?_⟩, ?_⟩
    · have hall := List.all_takeWhile (l := t) (p := (!isBracket ·))
      rw [List.all_eq_true] at hall
      simpa using hall c hc
    · obtain ⟨rest, hrest⟩ := List.head?_eq_some_iff.1 hbody.2
      exact ⟨rest, hrest ▸ (List.prefix_iff_eq_append.1 (List.takeWhile_prefix _)).symm⟩
  · cases h

theorem exists_of_tagAt? {t body : Text} {slashes : Nat} (h : tagAt? t = some (slashes, body)) :
    IsBody body ∧ ∃ rest, t = writtenTag slashes body ++ rest := by
  simp only [tagAt?] at h
  split at h
  · rename_i rest hdrop
    obtain ⟨read, hread, hpair⟩ := Option.map_eq_some_iff.1 h
    obtain ⟨rfl, rfl⟩ := Prod.mk.inj hpair
    obtain ⟨hbody, more, rfl⟩ := exists_of_tagBody? hread
    have hslashes : t.takeWhile (· = '\\') =
        List.replicate (t.takeWhile (· = '\\')).length '\\' := by
      refine List.eq_replicate_of_mem fun c hc => ?_
      have hall := List.all_takeWhile (l := t) (p := (· = '\\'))
      rw [List.all_eq_true] at hall
      simpa using hall c hc
    have hparts := List.prefix_iff_eq_append.1 (List.takeWhile_prefix (l := t) (· = '\\'))
    rw [hdrop] at hparts
    refine ⟨hbody, more, ?_⟩
    rw [writtenTag, ← hslashes]
    simpa using hparts.symm
  · cases h

/-- Texts are read from the front, a tag or else a character at a time. -/
theorem tagInduction {motive : Text → Prop} (nil : motive [])
    (char : ∀ c t, tagAt? (c :: t) = none → motive t → motive (c :: t))
    (tag : ∀ slashes body rest, IsBody body → motive rest →
      motive (writtenTag slashes body ++ rest)) (t : Text) : motive t := by
  induction hn : t.length using Nat.strongRecOn generalizing t with
  | ind n ih =>
    cases t with
    | nil => exact nil
    | cons c t =>
      cases htag : tagAt? (c :: t) with
      | none => exact char c t htag (ih _ (by simp [← hn]) t rfl)
      | some found =>
        obtain ⟨hbody, rest, hrest⟩ := exists_of_tagAt? htag
        have hlength := congrArg List.length hrest
        rw [List.length_append, length_writtenTag] at hlength
        exact hrest ▸ tag _ _ rest hbody (ih _ (by omega) rest rfl)

/-! ## Escaping -/

theorem escapeTags_append (t rest : Text) :
    escapeTags t.length (t ++ rest) = escapeTags 0 rest := by
  induction t with
  | nil => rfl
  | cons c t ih => simpa [escapeTags] using ih

theorem escapeTags_cons {c : Char} {t : Text} (h : tagAt? (c :: t) = none) :
    escapeTags 0 (c :: t) = c :: escapeTags 0 t := by
  rw [escapeTags, h]

theorem escapeTags_writtenTag {body : Text} (h : IsBody body) (slashes : Nat) (rest : Text) :
    escapeTags 0 (writtenTag slashes body ++ rest) =
      writtenTag (2 * slashes + 1) body ++ escapeTags 0 rest := by
  have htag := tagAt?_writtenTag h slashes rest
  have hlength := length_writtenTag slashes body
  cases hwritten : writtenTag slashes body with
  | nil => simp [hwritten] at hlength
  | cons c t =>
    rw [hwritten, List.length_cons] at hlength
    rw [hwritten, List.cons_append] at htag
    have hcovered : slashes + body.length + 1 = t.length := by omega
    rw [List.cons_append, escapeTags, htag]
    simp only [hcovered, escapeTags_append]
    simp [writtenTag]

theorem find?_isBracket_writtenTag (slashes : Nat) (body rest : Text) :
    (writtenTag slashes body ++ rest).find? isBracket = some '[' := by
  have hnone : (List.replicate slashes '\\').find? isBracket = none := by
    simp [isBracket]
  rw [writtenTag, List.append_assoc, List.append_assoc, List.find?_append, hnone]
  simp [isBracket]

theorem find?_isBracket_escapeTags (t : Text) :
    (escapeTags 0 t).find? isBracket = t.find? isBracket := by
  induction t using tagInduction with
  | nil => rfl
  | char c t h ih => rw [escapeTags_cons h, List.find?_cons, List.find?_cons, ih]
  | tag slashes body rest h ih =>
    rw [escapeTags_writtenTag h, find?_isBracket_writtenTag, find?_isBracket_writtenTag]

theorem head?_escapeTags {t : Text} (h : (escapeTags 0 t).head?.any beginsTag) :
    t.head?.any beginsTag := by
  induction t using tagInduction with
  | nil => exact h
  | char c t hnone ih => rwa [escapeTags_cons hnone] at h
  | tag slashes body rest hbody ih =>
    rw [escapeTags_writtenTag hbody, writtenTag, List.replicate_succ] at h
    exact absurd h (by simp [beginsTag])

theorem tagAt?_escapeTags {t : Text} (h : tagAt? t = none) : tagAt? (escapeTags 0 t) = none := by
  induction t using tagInduction with
  | nil => rfl
  | char c t hnone ih =>
    rw [escapeTags_cons hnone]
    rw [← Option.not_isSome_iff_eq_none, isSome_tagAt?_cons_iff] at h ⊢
    rintro (⟨rfl, htag⟩ | ⟨rfl, hbody⟩)
    · refine absurd htag ?_
      rw [Option.not_isSome_iff_eq_none]
      refine ih ?_
      rw [← Option.not_isSome_iff_eq_none]
      exact fun htag => h (Or.inl ⟨rfl, htag⟩)
    · rw [isSome_tagBody?_iff, find?_isBracket_escapeTags] at hbody
      exact h (Or.inr ⟨rfl, (isSome_tagBody?_iff t).2 ⟨head?_escapeTags hbody.1, hbody.2⟩⟩)
  | tag slashes body rest hbody ih => simp [tagAt?_writtenTag hbody] at h

theorem getLast?_escapeTags (t : Text) : (escapeTags 0 t).getLast? = t.getLast? := by
  induction t using tagInduction with
  | nil => rfl
  | char c t h ih => rw [escapeTags_cons h, List.getLast?_cons, List.getLast?_cons, ih]
  | tag slashes body rest h ih =>
    rw [escapeTags_writtenTag h, List.getLast?_append, List.getLast?_append, ih, writtenTag,
      writtenTag, List.getLast?_concat, List.getLast?_concat]

theorem escape_eq_escapeTags {t : Text} (h : t.getLast? ≠ some '\\') :
    escape t = escapeTags 0 t := by
  rw [← getLast?_escapeTags, ← List.head?_reverse] at h
  simp only [escape]
  split
  · rfl
  · rename_i heq
    simp [heq] at h
  · rfl

theorem tagAt?_of_not_mem {t : Text} (h : '[' ∉ t) : tagAt? t = none := by
  induction t with
  | nil => rfl
  | cons c t ih =>
    rw [List.mem_cons, not_or] at h
    rw [← Option.not_isSome_iff_eq_none, isSome_tagAt?_cons_iff]
    simp [Ne.symm h.1, ih h.2]

theorem Unbracketed.not_mem {t : Text} (h : Unbracketed t) : '[' ∉ t :=
  fun hmem => absurd (h _ hmem) (by decide)

theorem tagAt?_append {t u : Text} (ht : tagAt? t = none) (hu : Unbracketed u) :
    tagAt? (t ++ u) = none := by
  have hnone : u.find? isBracket = none := by simpa [Unbracketed] using hu
  induction t with
  | nil => exact tagAt?_of_not_mem hu.not_mem
  | cons c t ih =>
    rw [← Option.not_isSome_iff_eq_none, isSome_tagAt?_cons_iff] at ht
    rw [List.cons_append, ← Option.not_isSome_iff_eq_none, isSome_tagAt?_cons_iff]
    rintro (⟨rfl, htag⟩ | ⟨rfl, hbody⟩)
    · refine absurd htag ?_
      rw [Option.not_isSome_iff_eq_none]
      refine ih ?_
      rw [← Option.not_isSome_iff_eq_none]
      exact fun htag => ht (Or.inl ⟨rfl, htag⟩)
    · rw [isSome_tagBody?_iff, List.find?_append, hnone, Option.or_none] at hbody
      refine ht (Or.inr ⟨rfl, (isSome_tagBody?_iff t).2 ⟨?_, hbody.2⟩⟩)
      cases t with
      | nil => simp at hbody
      | cons d t => exact hbody.1

theorem tagFree_of_not_mem {t : Text} (h : '[' ∉ t) : TagFree t := by
  induction t with
  | nil => trivial
  | cons c t ih => exact ⟨tagAt?_of_not_mem h, ih fun hmem => h (List.mem_cons_of_mem c hmem)⟩

theorem TagFree.append {t u : Text} (ht : TagFree t) (hu : Unbracketed u) : TagFree (t ++ u) := by
  induction t with
  | nil => exact tagFree_of_not_mem hu.not_mem
  | cons c t ih => exact ⟨tagAt?_append ht.1 hu, ih ht.2⟩

/-! ## Pieces -/

def Literal (ps : List Piece) : Prop :=
  ∀ p ∈ ps, ∃ t, p = .plain t

theorem literal_plainPiece (t : Text) : Literal (plainPiece t) := by
  unfold plainPiece
  split
  · simp [Literal]
  · simp [Literal]

def Piece.text : Piece → Text
  | .plain t => t
  | .tag _ body => '[' :: body ++ [']']

theorem flatMap_text_plainPiece (t : Text) : (plainPiece t).flatMap Piece.text = t := by
  unfold plainPiece
  split
  · rename_i h
    exact h.symm
  · simp [Piece.text]

theorem literal_append {ps qs : List Piece} : Literal (ps ++ qs) ↔ Literal ps ∧ Literal qs := by
  simp only [Literal, List.forall_mem_append]

theorem pieces_append (offset : Nat) (plain t rest : Text) :
    pieces offset t.length plain (t ++ rest) = pieces (offset + t.length) 0 plain rest := by
  induction t generalizing offset with
  | nil => rfl
  | cons c t ih =>
    rw [List.cons_append, List.length_cons, pieces, ih (offset + 1)]
    congr 1
    omega

theorem pieces_cons {c : Char} {t : Text} (h : tagAt? (c :: t) = none) (offset : Nat)
    (plain : Text) : pieces offset 0 plain (c :: t) = pieces (offset + 1) 0 (c :: plain) t := by
  rw [pieces, h]

theorem pieces_writtenTag {body : Text} (h : IsBody body) (offset slashes : Nat)
    (plain rest : Text) : pieces offset 0 plain (writtenTag slashes body ++ rest) =
      plainPiece plain.reverse ++ tagPieces offset slashes body ++
        pieces (offset + slashes + body.length + 2) 0 [] rest := by
  have htag := tagAt?_writtenTag h slashes rest
  have hlength := length_writtenTag slashes body
  cases hwritten : writtenTag slashes body with
  | nil => simp [hwritten] at hlength
  | cons c t =>
    rw [hwritten, List.length_cons] at hlength
    rw [hwritten, List.cons_append] at htag
    have hcovered : slashes + body.length + 1 = t.length := by omega
    have hoffset : offset + 1 + t.length = offset + slashes + body.length + 2 := by omega
    rw [List.cons_append, pieces, htag]
    simp only [hcovered, pieces_append, hoffset]

theorem pieces_append_of_inert {t : Text} (h : ∀ c ∈ t, c ≠ '\\' ∧ c ≠ '[') (rest : Text)
    (offset : Nat) (plain : Text) : pieces offset 0 plain (t ++ rest) =
      pieces (offset + t.length) 0 (t.reverse ++ plain) rest := by
  induction t generalizing offset plain with
  | nil => rfl
  | cons c t ih =>
    rw [List.forall_mem_cons] at h
    rw [List.cons_append, pieces_cons (tagAt?_of_ne h.1.1 h.1.2 _), ih h.2, List.length_cons,
      List.reverse_cons, List.append_assoc, List.singleton_append]
    congr 1
    omega

/-- An odd number of backslashes takes a tag literally. -/
theorem literal_tagPieces (offset slashes : Nat) (body : Text) :
    Literal (tagPieces offset (2 * slashes + 1) body) := by
  rw [tagPieces, if_neg (by omega), literal_append]
  exact ⟨literal_plainPiece _, by simp [Literal]⟩

theorem pieces_of_tagFree {t : Text} (h : TagFree t) (offset : Nat) (plain : Text) :
    pieces offset 0 plain t = plainPiece (plain.reverse ++ t) := by
  induction t generalizing offset plain with
  | nil => simp [pieces]
  | cons c t ih =>
    rw [pieces_cons h.1, ih h.2]
    simp

theorem literal_pieces_escapeTags {u : Text} (hu : Unbracketed u) (t : Text) (offset : Nat)
    (plain : Text) : Literal (pieces offset 0 plain (escapeTags 0 t ++ u)) := by
  induction t using tagInduction generalizing offset plain with
  | nil =>
    rw [escapeTags, List.nil_append, pieces_of_tagFree (tagFree_of_not_mem hu.not_mem)]
    exact literal_plainPiece _
  | char c t h ih =>
    have hnone := tagAt?_append (tagAt?_escapeTags h) hu
    rw [escapeTags_cons h, List.cons_append] at hnone ⊢
    rw [pieces_cons hnone]
    exact ih _ _
  | tag slashes body rest h ih =>
    rw [escapeTags_writtenTag h, List.append_assoc, pieces_writtenTag h, literal_append,
      literal_append]
    exact ⟨⟨literal_plainPiece _, literal_tagPieces _ _ _⟩, ih _ _⟩

/-- Escaped text is taken literally, whatever it holds. -/
theorem literal_pieces_escape (t : Text) (offset : Nat) (plain : Text) :
    Literal (pieces offset 0 plain (escape t)) := by
  have hescaped := literal_pieces_escapeTags (u := []) (by simp [Unbracketed]) t offset plain
  rw [List.append_nil] at hescaped
  simp only [escape]
  split
  · exact hescaped
  · exact literal_pieces_escapeTags (by decide) t offset plain
  · exact hescaped

theorem flatMap_pieces_escapeTags {t : Text} (h : ¬ ['\\', '['] <:+: t) (offset : Nat)
    (plain : Text) :
    (pieces offset 0 plain (escapeTags 0 t)).flatMap Piece.text = plain.reverse ++ t := by
  induction t using tagInduction generalizing offset plain with
  | nil => rw [escapeTags, pieces, flatMap_text_plainPiece, List.append_nil]
  | char c t hnone ih =>
    have hpieces := pieces_cons (escapeTags_cons hnone ▸ tagAt?_escapeTags hnone) offset plain
    have ht : ¬ ['\\', '['] <:+: t := fun hmem => h (hmem.trans (List.suffix_cons c t).isInfix)
    rw [escapeTags_cons hnone, hpieces, ih ht, List.reverse_cons, List.append_assoc,
      List.singleton_append]
  | tag slashes body rest hbody ih =>
    have hrest : ¬ ['\\', '['] <:+: rest := fun hmem =>
      h (hmem.trans (List.suffix_append _ rest).isInfix)
    obtain rfl : slashes = 0 := by
      cases slashes with
      | zero => rfl
      | succ n =>
        refine absurd ⟨List.replicate n '\\', body ++ ']' :: rest, ?_⟩ h
        simp [writtenTag, List.replicate_succ']
    rw [escapeTags_writtenTag hbody, pieces_writtenTag hbody, List.flatMap_append,
      List.flatMap_append, flatMap_text_plainPiece, ih hrest]
    simp [tagPieces, plainPiece, Piece.text, writtenTag]

theorem tagAt?_append_writtenTag {t : Text} (ht : tagAt? t = none) (body : Text) :
    tagAt? (t ++ writtenTag 0 body) = none ∨ t = List.replicate t.length '\\' := by
  induction t with
  | nil => exact Or.inr rfl
  | cons c t ih =>
    rw [← Option.not_isSome_iff_eq_none, isSome_tagAt?_cons_iff, not_or] at ht
    rw [List.cons_append, ← Option.not_isSome_iff_eq_none, isSome_tagAt?_cons_iff,
      Classical.or_iff_not_imp_left, Classical.not_not]
    rintro (⟨rfl, htag⟩ | ⟨rfl, hread⟩)
    · have hnone : tagAt? t = none := by simpa using ht.1
      rcases ih hnone with hall | hall
      · simp [hall] at htag
      · rw [List.length_cons, List.replicate_succ, ← hall]
    · -- The next bracket is the one that opens the tag, unless it stood in the text before.
      have hopen : (writtenTag 0 body).find? isBracket = some '[' :=
        List.append_nil (writtenTag 0 body) ▸ find?_isBracket_writtenTag 0 body []
      rw [isSome_tagBody?_iff, List.find?_append, hopen] at hread
      refine absurd ⟨rfl, (isSome_tagBody?_iff t).2 ?_⟩ ht.2
      cases t with
      | nil => simp at hread
      | cons d t =>
        refine ⟨hread.1, ?_⟩
        cases hfind : (d :: t).find? isBracket with
        | none => simp [hfind] at hread
        | some b => simpa [hfind] using hread.2

/-- Pieces that are taken literally, and behind them at most one tag. -/
def EndsInTag (body : Text) (ps : List Piece) : Prop :=
  ∃ front, Literal front ∧ (ps = front ∨ ∃ place, ps = front ++ [.tag place body])

theorem endsInTag_writtenTag {body : Text} (h : IsBody body) (offset slashes : Nat)
    (plain : Text) : EndsInTag body (pieces offset 0 plain (writtenTag slashes body)) := by
  have hpieces := pieces_writtenTag h offset slashes plain []
  rw [List.append_nil, pieces, tagPieces, ← List.append_assoc] at hpieces
  have hfront : Literal (plainPiece plain.reverse ++
      plainPiece (List.replicate (slashes / 2) '\\')) :=
    literal_append.2 ⟨literal_plainPiece _, literal_plainPiece _⟩
  rw [hpieces]
  by_cases heven : slashes % 2 = 0
  · refine ⟨_, hfront, Or.inr ⟨offset + slashes, ?_⟩⟩
    simp [heven, plainPiece]
  · have hlast : Literal [.plain ('[' :: body ++ [']'])] := by simp [Literal]
    refine ⟨_, literal_append.2 ⟨hfront, hlast⟩, Or.inl ?_⟩
    simp [heven, plainPiece]

theorem TagFree.endsInTag {t body : Text} (ht : TagFree t) (hbody : IsBody body)
    (offset : Nat) (plain : Text) :
    EndsInTag body (pieces offset 0 plain (t ++ writtenTag 0 body)) := by
  induction t generalizing offset plain with
  | nil => exact endsInTag_writtenTag hbody offset 0 plain
  | cons c t ih =>
    rcases tagAt?_append_writtenTag ht.1 body with hnone | hall
    · rw [List.cons_append] at hnone ⊢
      rw [pieces_cons hnone]
      exact ih ht.2 _ _
    · have hwritten : c :: t ++ writtenTag 0 body = writtenTag (t.length + 1) body := by
        rw [hall]
        simp [writtenTag]
      rw [hwritten]
      exact endsInTag_writtenTag hbody offset _ plain

end LayoutLint.Report.Console.Markup
