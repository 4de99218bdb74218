import LayoutLint.Proofs.Console.Faults
import LayoutLint.Proofs.Console.Tags

/-! What becomes of texts that are read as markup. Escaped texts and texts without tags have no
marks, and a text between the tags of one style has a mark of that style. -/
namespace LayoutLint.Report.Console.Markup

variable {faults : Fault → Prop}

/-- Reading a text as markup fails with the given faults at most, and so does showing it then. -/
structure ReadsWithin (faults : Fault → Prop) (t : Text) : Prop where
  failsWithin : FailsWithin faults (line t)
  within : ∀ l, line t = .ok l → l.Within faults

theorem ReadsWithin.of_line {t : Text} {l : Line} (ht : line t = .ok l) (hl : l.Within faults) :
    ReadsWithin faults t where
  failsWithin := ht ▸ .ok l
  within _ h := Except.ok.inj (ht.symm.trans h) ▸ hl

def shownPieces (ps : List Piece) : Text :=
  ps.flatMap (shown ·.text)

theorem foldlM_add_of_literal {ps : List Piece} (h : Literal ps) (d : Draft) :
    ps.foldlM Draft.add d = .ok { d with text := d.text ++ shownPieces ps } := by
  induction ps generalizing d with
  | nil => simp [shownPieces, pure, Except.pure]
  | cons p ps ih =>
    obtain ⟨t, rfl⟩ := h p List.mem_cons_self
    have hbehind := ih (fun q hq => h q (List.mem_cons_of_mem _ hq))
      { d with text := d.text ++ shown t }
    rw [List.append_assoc] at hbehind
    exact hbehind

theorem line_of_foldlM {t : Text} {d : Draft} (h : (pieces 0 0 [] t).foldlM Draft.add {} = .ok d) :
    line t = .ok d.line := by
  rw [line, h]
  rfl

theorem line_eq_error {t : Text} {front back : List Piece} {p : Piece} {d : Draft} {fault : Fault}
    (ht : pieces 0 0 [] t = front ++ p :: back) (hfront : front.foldlM Draft.add {} = .ok d)
    (hp : d.add p = .error fault) : line t = .error fault := by
  have hfold : (pieces 0 0 [] t).foldlM Draft.add {} = .error fault := by
    rw [ht, List.foldlM_append, hfront]
    change d.add p >>= _ = _
    rw [hp]
    rfl
  rw [line, hfold]
  rfl

theorem line_escape (t : Text) :
    line (escape t) = .ok ⟨shownPieces (pieces 0 0 [] (escape t)), []⟩ := by
  rw [line_of_foldlM (foldlM_add_of_literal (literal_pieces_escape t 0 []) {})]
  simp [Draft.line]

theorem line_of_tagFree {t : Text} (h : TagFree t) : line t = .ok ⟨shown t, []⟩ := by
  have hfold : (pieces 0 0 [] t).foldlM Draft.add {} = .ok { text := shown t } := by
    rw [pieces_of_tagFree h]
    cases t <;> rfl
  simp [line_of_foldlM hfold, Draft.line]

theorem readsWithin_escape (t : Text) : ReadsWithin faults (escape t) :=
  .of_line (line_escape t) (.plain _)

theorem TagFree.readsWithin {t : Text} (h : TagFree t) : ReadsWithin faults t :=
  .of_line (line_of_tagFree h) (.plain _)

theorem within_line {d : Draft}
    (hopen : ∀ tag ∈ d.tags, ∀ stop, FailsWithin faults (tag.mark stop).style)
    (hclosed : ∀ p ∈ d.closed, FailsWithin faults (p.1.mark p.2).style) :
    d.line.Within faults := by
  intro m hm
  rw [Draft.line, List.mem_mergeSort] at hm
  obtain ⟨p, hp, rfl⟩ := List.mem_map.1 hm
  rcases List.mem_append.1 hp with hp | hp
  · obtain ⟨tag, htag, rfl⟩ := List.mem_map.1 (List.mem_reverse.1 hp)
    exact hopen tag htag d.text.length
  · exact hclosed p hp

theorem withoutBracketEscapes_eq_self {t : Text} (h : ¬ ['\\', '['] <:+: t) :
    withoutBracketEscapes t = t := by
  fun_induction withoutBracketEscapes t with
  | case1 => rfl
  | case2 rest ih => exact absurd (List.prefix_append ['\\', '['] rest).isInfix h
  | case3 c rest _ ih => rw [ih fun hmem => h (hmem.trans (List.suffix_cons c rest).isInfix)]

/-! ## Between the tags of a style -/

/-- A word in a tag that asks for a style and is closed by itself. -/
structure IsStyleName (name : Text) : Prop where
  body : IsBody name
  closing : IsBody ('/' :: name)
  opens : name.head? ≠ some '/'
  nameOf_eq : nameOf name = name
  parameterOf?_eq : parameterOf? name = none
  trim_eq : name.trim = name
  normalName_eq : normalName name = .ok name
  check_eq : ∀ start, Tag.check ⟨name, none, start⟩ = .ok ()
  style : ∃ style, Style.ofName name = .ok style

theorem isStyleName_bold : IsStyleName "bold".toList where
  body := ⟨by decide, by decide⟩
  closing := ⟨by decide, by decide⟩
  opens := by decide
  nameOf_eq := by decide
  parameterOf?_eq := by decide
  trim_eq := by decide
  normalName_eq := by rfl
  check_eq start := by rfl
  style := Highlight.exists_style (List.mem_append_left _ (by decide))

theorem isStyleName_dim : IsStyleName "dim".toList where
  body := ⟨by decide, by decide⟩
  closing := ⟨by decide, by decide⟩
  opens := by decide
  nameOf_eq := by decide
  parameterOf?_eq := by decide
  trim_eq := by decide
  normalName_eq := by rfl
  check_eq start := by rfl
  style := Highlight.exists_style (List.mem_append_left _ (by decide))

namespace IsStyleName

variable {name : Text} (h : IsStyleName name)

include h

theorem add_tag (d : Draft) (place : Nat) : d.add (.tag place name) =
    .ok { d with tags := ⟨name, none, d.text.length⟩ :: d.tags } := by
  simp [Draft.add, h.opens, Draft.opened, h.nameOf_eq, h.normalName_eq, h.parameterOf?_eq]

theorem add_closing {d : Draft} {start : Nat} (hd : d.tags = [⟨name, none, start⟩])
    (place : Nat) : d.add (.tag place ('/' :: name)) =
      .ok { d with tags := [], closed := (⟨name, none, start⟩, d.text.length) :: d.closed } := by
  have hgiven : (nameOf (('/' :: name).drop 1)).trim = name := by
    rw [List.drop_one, List.tail_cons, h.nameOf_eq, h.trim_eq]
  have hclose : d.close place ('/' :: name) =
      d.withClosed ⟨name, none, start⟩ [] := by
    rw [Draft.close, hgiven]
    split
    · exact absurd rfl h.body.ne_nil
    · simp [h.normalName_eq, hd, bind, Except.bind]
  rw [Draft.add, if_pos (List.head?_cons (a := '/')), hclose, Draft.withClosed, h.check_eq]
  rfl

theorem add_closing_eq_error {d : Draft} (hd : ∀ tag ∈ d.tags, tag.name ≠ name) (place : Nat) :
    d.add (.tag place ('/' :: name)) = .error (.unmatchedClosingTag ('/' :: name) place) := by
  have hnone : d.tags.find? (·.name = name) = none := by simpa using hd
  rw [Draft.add, if_pos (List.head?_cons (a := '/')), Draft.close, List.drop_one, List.tail_cons,
    h.nameOf_eq, h.trim_eq]
  split
  · exact absurd rfl h.body.ne_nil
  · simp [h.normalName_eq, hnone, bind, Except.bind]

theorem line_eq {t : Text} {front back : List Piece} {place : Nat} (hfront : Literal front)
    (hback : Literal back)
    (ht : pieces 0 0 [] t = .tag 0 name :: front ++ .tag place ('/' :: name) :: back) :
    line t = .ok ⟨shownPieces front ++ shownPieces back,
      [⟨0, (shownPieces front).length, Style.ofName name⟩]⟩ := by
  have hfold : (pieces 0 0 [] t).foldlM Draft.add {} =
      .ok { text := shownPieces front ++ shownPieces back,
            closed := [(⟨name, none, 0⟩, (shownPieces front).length)] } := by
    rw [ht, List.cons_append, List.foldlM_cons, h.add_tag]
    change List.foldlM Draft.add _ _ = _
    rw [List.foldlM_append, foldlM_add_of_literal hfront]
    change List.foldlM Draft.add _ _ = _
    rw [List.foldlM_cons, h.add_closing rfl]
    exact foldlM_add_of_literal hback _
  rw [line_of_foldlM hfold]
  simp [Draft.line, Tag.mark, Tag.look]

theorem exists_line {t : Text} {front back : List Piece} (hfront : Literal front)
    (hback : Literal back) (ht : pieces 0 0 [] t = .tag 0 name :: front ++ back ∨
      ∃ place, pieces 0 0 [] t = .tag 0 name :: front ++ .tag place ('/' :: name) :: back) :
    ∃ l, line t = .ok l ∧ l.Within faults := by
  obtain ⟨style, hstyle⟩ := h.style
  rcases ht with ht | ⟨place, ht⟩
  -- A tag that is not closed reaches to the end of the text.
  · have hfold : (pieces 0 0 [] t).foldlM Draft.add {} =
        .ok { tags := [⟨name, none, 0⟩], text := shownPieces (front ++ back) } := by
      rw [ht, List.cons_append, List.foldlM_cons, h.add_tag]
      exact foldlM_add_of_literal (literal_append.2 ⟨hfront, hback⟩) _
    refine ⟨_, line_of_foldlM hfold, within_line (fun tag htag stop => ?_) (by simp)⟩
    obtain rfl := List.mem_singleton.1 htag
    simp only [Tag.mark, Tag.look, Option.map_none, Option.getD_none, List.append_nil, hstyle]
    exact .ok style
  · refine ⟨_, h.line_eq hfront hback ht, fun m hm => ?_⟩
    obtain rfl := List.mem_singleton.1 hm
    exact hstyle ▸ .ok style

theorem pieces_eq (rest : Text) : pieces 0 0 [] (writtenTag 0 name ++ rest) =
    .tag 0 name :: pieces (name.length + 2) 0 [] rest := by
  simp [pieces_writtenTag h.body, tagPieces, plainPiece]

end IsStyleName

theorem TagFree.readsWithin_boldMarkup {t : Text} (h : TagFree t) :
    ReadsWithin faults (boldMarkup t) := by
  have hpieces := isStyleName_bold.pieces_eq (t ++ writtenTag 0 "/bold".toList)
  obtain ⟨front, hfront, hends⟩ :=
    h.endsInTag isStyleName_bold.closing ("bold".toList.length + 2) []
  have htext : boldMarkup t = writtenTag 0 "bold".toList ++ (t ++ writtenTag 0 "/bold".toList) :=
    List.append_assoc ..
  have hback : Literal [] := by simp [Literal]
  obtain ⟨l, hl, hwithin⟩ := isStyleName_bold.exists_line hfront hback (t := boldMarkup t) (by
    rw [htext, hpieces]
    rcases hends with hends | ⟨place, hends⟩
    · exact Or.inl (congrArg _ (hends.trans (List.append_nil _).symm))
    · exact Or.inr ⟨place, congrArg _ hends⟩)
  exact .of_line hl hwithin

theorem pieces_dimmed {t : Text} (h : ∀ c ∈ t, c ≠ '\\' ∧ c ≠ '[') (u : Text) :
    pieces 0 0 [] ("[dim]".toList ++ t ++ "[/dim] ".toList ++ escape u) =
      .tag 0 "dim".toList :: plainPiece t ++ .tag (5 + t.length) "/dim".toList ::
        pieces (5 + t.length + 7) 0 [' '] (escape u) := by
  have htext : "[dim]".toList ++ t ++ "[/dim] ".toList ++ escape u =
      writtenTag 0 "dim".toList ++
        (t ++ (writtenTag 0 ('/' :: "dim".toList) ++ (' ' :: escape u))) := by
    simp [writtenTag]
  rw [htext, isStyleName_dim.pieces_eq, pieces_append_of_inert h,
    pieces_writtenTag isStyleName_dim.closing,
    pieces_cons (tagAt?_of_ne (by decide) (by decide) _)]
  simp [tagPieces, plainPiece]

theorem readsWithin_dimmed {t : Text} (h : ∀ c ∈ t, c ≠ '\\' ∧ c ≠ '[') (u : Text) :
    ReadsWithin faults ("[dim]".toList ++ t ++ "[/dim] ".toList ++ escape u) := by
  obtain ⟨l, hl, hwithin⟩ := isStyleName_dim.exists_line (literal_plainPiece t)
    (literal_pieces_escape u _ [' ']) (Or.inr ⟨_, pieces_dimmed h u⟩)
  exact .of_line hl hwithin

end LayoutLint.Report.Console.Markup
