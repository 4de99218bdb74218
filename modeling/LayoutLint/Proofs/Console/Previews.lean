import LayoutLint.Proofs.Console.Folding
import LayoutLint.Proofs.Console.ReportFaults
import LayoutLint.Proofs.FixTexts

/-! Previews of fixes. A preview that has room on a line is read as the position and the words for
the fix, and so it tells both. A preview that has no room is folded, and blanks are lost there. -/
namespace LayoutLint

namespace Position

variable {p q : Position} {t u : Text}

theorem text_append_blank_inj (h : p.text ++ ' ' :: t = q.text ++ ' ' :: u) :
    p = q ∧ t = u := by
  rw [text_eq, text_eq, List.append_assoc, List.append_assoc] at h
  obtain ⟨hline, hbehind⟩ := Text.ofNat_append_inj (by decide) h
  obtain ⟨hcharacter, hrest⟩ := Text.ofNat_append_inj (by decide) hbehind
  cases p
  cases q
  exact ⟨Position.mk.injEq .. ▸ ⟨Nat.succ.inj hline, Nat.succ.inj hcharacter⟩, hrest⟩

theorem printable_text (p : Position) : p.text.Printable := by
  rw [text_eq]
  exact Text.printable_append.2 ⟨(Text.ascii_ofNat _).printable,
    Text.printable_cons.2 ⟨rfl, (Text.ascii_ofNat _).printable⟩⟩

theorem exists_text_eq_cons (p : Position) : ∃ c rest, p.text = c :: rest ∧ isBlank c = false := by
  cases hline : Text.ofNat (p.line + 1) with
  | nil => exact absurd hline (Text.ofNat_ne_nil _)
  | cons c rest =>
    have hdigits : "0123456789".toList.all (!isBlank ·) := by decide
    have hmem : c ∈ "0123456789".toList := Text.mem_of_mem_ofNat (hline ▸ List.mem_cons_self)
    refine ⟨c, rest ++ ':' :: Text.ofNat (p.character + 1), ?_, ?_⟩
    · rw [text_eq, hline, List.cons_append]
    · simpa using List.all_eq_true.1 hdigits c hmem

end Position

theorem Fix.exists_text_eq_concat (f : Fix) :
    ∃ front q, f.text = front ++ [q] ∧ Text.IsQuote q := by
  have hends : f.insert.quoted = _ ++ [f.insert.delimiter] := rfl
  rw [text_eq, hends]
  simp only [← List.append_assoc]
  exact ⟨_, _, rfl, Text.isQuote_delimiter f.insert⟩

namespace Report.Console

namespace Style

theorem wordsOf?_of_forall_ne {name : String} (h : ∀ p ∈ theme, p.1 ≠ name) :
    wordsOf? name.toList = none := by
  have hnone : theme.find? (·.1.toList = name.toList) = none := by
    refine List.find?_eq_none.2 fun p hp heq => h p hp ?_
    exact String.toList_inj.1 (of_decide_eq_true heq)
  rw [wordsOf?, hnone, Option.map_none]

theorem ofName_dim : ofName "dim".toList = .ok .dim := by
  have hwords : wordsOf? "dim".toList = none := wordsOf?_of_forall_ne (by decide +kernel)
  have hnone : Text.trim "dim".toList ≠ "none".toList := by decide
  have hparts : (Text.words "dim".toList).map Text.trim = ["dim".toList] := by decide
  have hlower : Text.lowerCase "dim".toList = "dim".toList := by decide
  have hattribute : Attribute.ofWord? "dim".toList = some .dim := by decide
  have hstyle : plain.withAttribute .dim true = .dim := by decide
  rw [ofName, hwords, Option.getD_none, ofText, if_neg hnone, hparts, withWords, hlower,
    if_neg (by decide), if_neg (by decide), if_neg (by decide), hattribute]
  simp only [hstyle, withWords]

end Style

namespace Markup

variable {t u : Text}

/-! ## Text that is shown as it is -/

/-- Nothing in the text gives way to something else where it is shown: no code of a symbol stands
between colons, and no backslash before a bracket. -/
structure Verbatim (t : Text) : Prop where
  codeless : ∀ code, ':' :: code ++ [':'] <:+: t → Symbol.ofCode? code = none
  slashless : ¬ ['\\', '['] <:+: t

theorem Verbatim.mono (h : Verbatim t) (hu : u <:+: t) : Verbatim u where
  codeless code hcode := h.codeless code (hcode.trans hu)
  slashless hslash := h.slashless (hslash.trans hu)

theorem Verbatim.blank_cons (h : Verbatim t) : Verbatim (' ' :: t) where
  codeless code hcode := by
    rcases List.infix_cons_iff.1 hcode with hfront | hpart
    · simp at hfront
    · exact h.codeless code hpart
  slashless hslash := by
    rcases List.infix_cons_iff.1 hslash with hfront | hpart
    · simp at hfront
    · exact h.slashless hpart

theorem verbatim_of_not_mem (hcolon : ':' ∉ t) (hbracket : '[' ∉ t) : Verbatim t where
  codeless code hcode := absurd (hcode.subset (by simp)) hcolon
  slashless hslash := absurd (hslash.subset (by simp)) hbracket

theorem begins_of_codeAt? {code : Text} (h : codeAt? t = some code) :
    ':' :: code ++ [':'] <+: t := by
  unfold codeAt? at h
  split at h
  · rename_i rest
    dsimp only at h
    split at h
    · rename_i hlast
      obtain rfl := Option.some.inj h
      obtain ⟨more, hmore⟩ := List.head?_eq_some_iff.1 hlast
      have hparts := List.prefix_iff_eq_append.1
        (List.takeWhile_prefix (l := rest) fun c => c ≠ ':' && !isBlank c)
      rw [hmore] at hparts
      exact ⟨more, by simpa using congrArg (':' :: ·) hparts⟩
    · cases h
  · cases h

theorem withSymbols_eq_drop (h : Verbatim t) (covered : Nat) :
    withSymbols covered t = t.drop covered := by
  induction t generalizing covered with
  | nil => rw [withSymbols, List.drop_nil]
  | cons c t ih =>
    have hrest := ih (h.mono (List.suffix_cons c t).isInfix)
    cases covered with
    | succ covered => exact hrest covered
    | zero =>
      rw [withSymbols]
      split
      · rename_i code hcode
        have hbegins := begins_of_codeAt? hcode
        rw [h.codeless code hbegins.isInfix, Option.getD_none, hrest, List.drop_zero]
        have hparts := List.prefix_iff_eq_append.1 hbegins
        simpa using hparts
      · rw [hrest, List.drop_zero, List.drop_zero]

theorem shown_eq_self (h : Verbatim t) (ht : t.Printable) : shown t = t := by
  have hseen : ∀ c ∈ t, !isUnseen c := by
    intro c hc
    rw [Bool.not_eq_true', Bool.eq_false_iff]
    intro hunseen
    simp only [isUnseen, Bool.or_eq_true, decide_eq_true_eq] at hunseen
    rcases hunseen with (((rfl | rfl) | rfl) | rfl) | rfl
    all_goals exact ht.not_mem (by decide) hc
  rw [shown, withoutBracketEscapes_eq_self h.slashless, withSymbols_eq_drop h, List.drop_zero,
    List.filter_eq_self.2 hseen]

theorem shownPieces_eq {ps : List Piece} (h : Verbatim t) (ht : t.Printable)
    (hps : ps.flatMap Piece.text = t) : shownPieces ps = t := by
  have hpiece : ∀ p ∈ ps, shown p.text = p.text := by
    intro p hp
    have hpart : p.text <:+: t := by
      rw [← hps, List.flatMap_def]
      exact List.infix_of_mem_flatten (List.mem_map_of_mem hp)
    exact shown_eq_self (h.mono hpart) fun c hc => ht c (hpart.subset hc)
  rw [← hps, shownPieces]
  exact List.flatMap_congr hpiece

theorem line_dimmed (hinert : ∀ c ∈ t, c ≠ '\\' ∧ c ≠ '[') (ht : Verbatim t)
    (htprint : t.Printable) (hu : Verbatim u) (huprint : u.Printable)
    (hlast : u.getLast? ≠ some '\\') :
    line ("[dim]".toList ++ t ++ "[/dim] ".toList ++ escape u) =
      .ok (Line.styled .dim t ++ ⟨' ' :: u, []⟩) := by
  have hfront := shownPieces_eq ht htprint (flatMap_text_plainPiece t)
  have hback := shownPieces_eq hu.blank_cons (Text.printable_cons.2 ⟨rfl, huprint⟩)
    (flatMap_pieces_escapeTags hu.slashless (5 + t.length + 7) [' '])
  have hline := isStyleName_dim.line_eq (literal_plainPiece t)
    (literal_pieces_escape u _ [' ']) (pieces_dimmed hinert u)
  rw [escape_eq_escapeTags hlast] at hline ⊢
  rw [hline, hfront, hback, Style.ofName_dim]
  rfl

end Markup

/-! ## Previews -/

def previewText (p : Position) (f : Fix) : Text :=
  p.text ++ ' ' :: f.text

theorem previewText_inj {p q : Position} {f g : Fix} (h : previewText p f = previewText q g) :
    p = q ∧ f = g := by
  obtain ⟨hposition, htext⟩ := Position.text_append_blank_inj h
  exact ⟨hposition, Fix.text_inj htext⟩

theorem printable_previewText (p : Position) (f : Fix) : (previewText p f).Printable :=
  Text.printable_append.2 ⟨p.printable_text, Text.printable_cons.2 ⟨rfl, f.printable_text⟩⟩

/-- The numbers of the preview may be written, nothing in the words for the fix gives way to
something else, and the preview has room on a line. -/
structure IsShownWhole (limits : Limits) (width : Nat) (p : Position) (f : Fix) : Prop where
  writable : Phrase.Writable limits (p.phrase ++ f.phrase)
  verbatim : Markup.Verbatim f.text
  cells_le : (previewText p f).cells ≤ width

variable {limits : Limits} {width : Nat} {p : Position} {f : Fix}

theorem verbatim_position (p : Position) : Markup.Verbatim p.text where
  codeless code hcode := by
    have hcolons := hcode.sublist.count_le ':'
    have hnone : ∀ n, (Text.ofNat n).count ':' = 0 := fun n => by
      refine List.count_eq_zero.2 fun hmem => ?_
      exact absurd (Text.mem_of_mem_ofNat hmem) (by decide)
    simp [Position.text_eq, hnone] at hcolons
  slashless hslash := by
    have hmem : '[' ∈ p.text := hslash.subset (by decide)
    exact absurd (Position.mem_of_mem_text hmem) (by decide)

theorem IsShownWhole.fitsIn (h : IsShownWhole limits width p f) :
    (previewText p f).FitsIn width where
  printable := printable_previewText p f
  begins := by
    obtain ⟨c, rest, hc, hblank⟩ := p.exists_text_eq_cons
    exact ⟨c, rest ++ ' ' :: f.text, by rw [previewText, hc, List.cons_append], hblank⟩
  ends := by
    obtain ⟨front, q, hq, hquote⟩ := f.exists_text_eq_concat
    have hblank : isBlank q = false := by rcases hquote with rfl | rfl <;> decide
    exact ⟨p.text ++ ' ' :: front, q, by simp [previewText, hq], hblank⟩
  cells_le := h.cells_le

theorem preview_eq {v : Violation} (h : Markup.Verbatim f.text) :
    preview v f = .ok (Line.styled .dim v.start.text ++ ⟨' ' :: f.text, []⟩) := by
  have hinert : ∀ c ∈ v.start.text, c ≠ '\\' ∧ c ≠ '[' := fun c hc => by
    have hsigns : "0123456789:".toList.all fun d => d ≠ '\\' && d ≠ '[' := by decide
    simpa using List.all_eq_true.1 hsigns c (Position.mem_of_mem_text hc)
  have hlast : f.text.getLast? ≠ some '\\' := by
    obtain ⟨front, q, hq, hquote⟩ := f.exists_text_eq_concat
    rw [hq, List.getLast?_concat]
    rcases hquote with rfl | rfl <;> decide
  exact Markup.line_dimmed hinert (verbatim_position _) v.start.printable_text h f.printable_text
    hlast

def previewLine (p : Position) (f : Fix) : Text :=
  Style.dim.paint p.text ++ ' ' :: f.text

theorem writeLines_preview (h : IsShownWhole limits width p f) :
    writeLines width (Line.styled .dim p.text ++ ⟨' ' :: f.text, []⟩) =
      .ok (previewLine p f ++ ['\n']) := by
  have hne : p.text ≠ [] := by
    obtain ⟨c, rest, hc, -⟩ := p.exists_text_eq_cons
    rw [hc]
    exact List.cons_ne_nil c rest
  have hdim : Style.dim.onto .plain = .dim := by decide
  have hcells : Strip.cells [(.dim, p.text), (.plain, ' ' :: f.text)] ≤ width := by
    refine Nat.le_trans (Nat.le_of_eq ?_) h.cells_le
    exact (Text.cellsFrom_append_blank p.printable_text.joiner_not_mem rfl f.text).symm
  have hstrip := Line.strip_styled_append .dim hne (List.cons_ne_nil ' ' f.text)
  rw [hdim] at hstrip
  rw [writeLines_of_fits h.fitsIn hstrip hcells]
  simp [Strip.write, previewLine]

def previewTexts (vs : List Violation) : List Text :=
  vs.filterMap fun v => v.fix.map (previewText v.start)

theorem withoutCodes_previewLine (p : Position) (f : Fix) (rest : Text) :
    Text.withoutCodes (previewLine p f ++ '\n' :: rest) =
      previewText p f ++ '\n' :: rest.withoutCodes := by
  have hescape : isPrintable '\x1b' = false := by decide
  have hend : '\x1b' ∉ ' ' :: f.text ++ ['\n'] := by simp [f.printable_text.not_mem hescape]
  have hbehind := Text.withoutCodes_append_of_not_mem hend rest
  simp only [List.append_assoc, List.cons_append, List.nil_append] at hbehind
  rw [previewLine, List.append_assoc, Style.withoutCodes_paint _ (p.printable_text.not_mem hescape),
    List.cons_append, hbehind, previewText, List.append_assoc, List.cons_append]

theorem previews_cons_of_none {v : Violation} (h : v.fix = none) (vs : List Violation) :
    previews limits width (v :: vs) = previews limits width vs := by
  simp [previews, h]

theorem previews_cons_of_some {v : Violation} (h : v.fix = some f)
    (hwritable : Phrase.Writable limits (v.start.phrase ++ f.phrase)) (vs : List Violation) :
    previews limits width (v :: vs) = preview v f >>= writeLines width >>= fun first =>
      previews limits width vs >>= fun others => .ok (first ++ others) := by
  have hcheck := Phrase.check_of_writable hwritable
  simp [previews, h, hcheck, bind_assoc]
  rfl

theorem exists_previews {vs : List Violation}
    (h : ∀ v ∈ vs, ∀ f ∈ v.fix, IsShownWhole limits width v.start f) : ∃ written,
      previews limits width vs = .ok written ∧
      written.withoutCodes = (previewTexts vs).flatMap (· ++ ['\n']) := by
  induction vs with
  | nil => exact ⟨[], rfl, rfl⟩
  | cons v vs ih =>
    rw [List.forall_mem_cons] at h
    obtain ⟨written, hwritten, hread⟩ := ih h.2
    cases hfix : v.fix with
    | none =>
      have htexts : previewTexts (v :: vs) = previewTexts vs := by simp [previewTexts, hfix]
      exact ⟨written, (previews_cons_of_none hfix vs).trans hwritten, htexts ▸ hread⟩
    | some f =>
      have hf := h.1 f hfix
      have htexts : previewTexts (v :: vs) = previewText v.start f :: previewTexts vs := by
        simp [previewTexts, hfix]
      have hline : preview v f >>= writeLines width = .ok (previewLine v.start f ++ ['\n']) := by
        rw [preview_eq hf.verbatim]
        exact writeLines_preview hf
      refine ⟨previewLine v.start f ++ '\n' :: written, ?_, ?_⟩
      · rw [previews_cons_of_some hfix hf.writable, hline, hwritten]
        exact congrArg Except.ok (List.append_assoc ..)
      · rw [withoutCodes_previewLine, hread, htexts, List.flatMap_cons, List.append_assoc,
          List.singleton_append]

theorem exists_append_previews {s : Settings} {f : Findings} {report written : Text}
    (hpreview : s.preview)
    (hwritten : previews limits s.width (s.select f.violations) = .ok written)
    (h : render limits s f = .ok report) : ∃ before, report = before ++ written := by
  rw [render_eq] at h
  obtain ⟨rule, -, h⟩ := exists_of_bind h
  obtain ⟨_, -, h⟩ := exists_of_bind h
  obtain ⟨numbers, -, h⟩ := exists_of_bind h
  obtain ⟨rest, hrest, h⟩ := exists_of_bind h
  obtain rfl := Except.ok.inj h
  split at hrest
  · rename_i hnone
    rw [hnone] at hwritten
    obtain rfl := Except.ok.inj hwritten
    exact ⟨_, (List.append_nil _).symm⟩
  · rw [body_eq] at hrest
    obtain ⟨t, -, hrest⟩ := exists_of_bind hrest
    obtain ⟨rows, -, hrest⟩ := exists_of_bind hrest
    rw [if_pos hpreview, hwritten] at hrest
    obtain rfl := Except.ok.inj hrest
    exact ⟨rule ++ numbers ++ rows, (List.append_assoc ..).symm⟩

/-- A fix is told by its words, a refusal by its message, and a violation with a fix by a preview
that is shown whole. Each of these is one line. -/
theorem printed_forms_tell_fix (limits : Limits) (s : Settings) (f : Findings)
    (hwhole : ∀ v ∈ s.select f.violations, ∀ fix ∈ v.fix,
      IsShownWhole limits s.width v.start fix) :
    (∀ fix other : Fix, fix.text = other.text → fix = other) ∧
    (∀ fix : Fix, fix.text.Unbroken) ∧
    (∀ t fixes fault, Fix.applyAll limits t fixes = .error fault → fault.message.Unbroken ∧
      ∀ u others fault', Fix.applyAll limits u others = .error fault' →
        fault.message = fault'.message → fault = fault') ∧
    ∃ written, previews limits s.width (s.select f.violations) = .ok written ∧
      (∀ report, s.preview → render limits s f = .ok report →
        ∃ before, report = before ++ written) ∧
      written.withoutCodes.shownLines = previewTexts (s.select f.violations) ∧
      ∀ p q fix other, previewText p fix = previewText q other → p = q ∧ fix = other := by
  obtain ⟨written, hwritten, hread⟩ := exists_previews hwhole
  -- A preview is printable, and all that ends a line is not.
  have hunbroken : ∀ line ∈ previewTexts (s.select f.violations), line.Unbroken := by
    intro line hline
    obtain ⟨v, -, hv⟩ := List.mem_filterMap.1 hline
    obtain ⟨fix, -, rfl⟩ := Option.map_eq_some_iff.1 hv
    exact (printable_previewText v.start fix).unbroken
  refine ⟨fun fix other => Fix.text_inj, fun fix => fix.printable_text.unbroken,
    fun t fixes fault h => ⟨(Fix.printable_message_of_applyAll h).unbroken, fun u others fault' =>
      Fix.eq_of_message_eq h⟩, written, hwritten, fun report hpreview =>
      exists_append_previews hpreview hwritten, ?_, fun p q fix other => previewText_inj⟩
  rw [hread, Text.shownLines_flatMap hunbroken]

def quotedFixes : Findings where
  file := "b.ts".toList
  violations := [
    { cause := .ownLine, message := "else shares a line".toList, start := ⟨2, 8⟩
      node := ⟨1, .elseKeyword, { fullStart := 41, start := 41, stop := 45 }, []⟩
      fix := some ⟨41, 0, "it's \\n\n".toList⟩
      message_ne_nil := by decide },
    { cause := .ownLine, message := "catch shares a line".toList, start := ⟨4, 0⟩
      node := ⟨2, .catchClause, { fullStart := 70, start := 70, stop := 75 }, []⟩
      fix := some ⟨70, 5, []⟩
      message_ne_nil := by decide }]
  file_ne_nil := by decide

theorem printed_forms_tell_fix_quotedFixes :
    (∀ v ∈ quotedFixes.violations, ∀ fix ∈ v.fix, IsShownWhole .usual 120 v.start fix) ∧
    ∃ report before written, render .usual { preview := true } quotedFixes = .ok report ∧
      report = before ++ written ∧ written.withoutCodes.shownLines =
        ["3:9 fix@41+0 -> \"it's \\\\n\\n\"".toList, "5:1 fix@70+5 -> ''".toList] := by
  have hwhole : ∀ v ∈ quotedFixes.violations, ∀ fix ∈ v.fix,
      IsShownWhole .usual 120 v.start fix := by
    simp only [quotedFixes, List.forall_mem_cons, Option.mem_def, Option.some.injEq, forall_eq']
    refine ⟨⟨?_, Markup.verbatim_of_not_mem ?_ ?_, ?_⟩,
      ⟨?_, Markup.verbatim_of_not_mem ?_ ?_, ?_⟩, by simp⟩
    all_goals decide +kernel
  have hwritable : Writable .usual { preview := true } quotedFixes :=
    ⟨by decide, by decide, by decide⟩
  have hfile : Markup.TagFree quotedFixes.file := by decide
  obtain ⟨report, hreport⟩ := exists_render_of_tagFree hfile (by decide) hwritable
  obtain ⟨-, -, -, written, -, hends, hlines, -⟩ :=
    printed_forms_tell_fix .usual { preview := true } quotedFixes hwhole
  obtain ⟨before, hbefore⟩ := hends report rfl hreport
  refine ⟨hwhole, report, before, written, hreport, hbefore, hlines.trans ?_⟩
  decide +kernel

def gap (blanks : Nat) : Fix :=
  ⟨52, 0, 'a' :: List.replicate blanks ' ' ++ ['b']⟩

def spaced (blanks : Nat) : Violation where
  cause := .ownLine
  message := "else first".toList
  start := ⟨3, 0⟩
  node := ⟨1, .elseKeyword, { fullStart := 52, start := 52, stop := 56 }, []⟩
  fix := some (gap blanks)
  message_ne_nil := by decide

def foldedPreview : Text :=
  "\x1b[2m4:1\x1b[0m fix@52+0 -> 'a  \nb'\n".toList

theorem previews_spaced {n : Nat} (hn : n = 5 ∨ n = 6) :
    previews .usual 20 [spaced n] = .ok foldedPreview := by
  have hplain : ':' ∉ (gap n).text ∧ '[' ∉ (gap n).text := by
    rcases hn with rfl | rfl <;> decide +kernel
  have hlines : (writeLines 20 (Line.styled .dim (spaced n).start.text ++
      ⟨' ' :: (gap n).text, []⟩)).toOption.any fun written =>
        decide (written = foldedPreview) := by
    rcases hn with rfl | rfl <;> decide +kernel
  obtain ⟨written, hwritten, hsame⟩ := exists_of_any hlines
  obtain rfl : written = foldedPreview := of_decide_eq_true hsame
  have hfirst : preview (spaced n) (gap n) >>= writeLines 20 = .ok foldedPreview := by
    rw [preview_eq (Markup.verbatim_of_not_mem hplain.1 hplain.2)]
    exact hwritten
  have hwritable : Phrase.Writable .usual ((spaced n).start.phrase ++ (gap n).phrase) := by
    rcases hn with rfl | rfl <;> decide +kernel
  have hothers : previews .usual 20 [] = .ok [] := rfl
  rw [previews_cons_of_some rfl hwritable, hfirst, hothers]
  exact congrArg Except.ok (List.append_nil foldedPreview)

theorem previews_lose_blanks : gap 5 ≠ gap 6 ∧
    ∃ written, previews .usual 20 [spaced 5] = .ok written ∧
      previews .usual 20 [spaced 6] = .ok written ∧
      written.withoutCodes.shownLines = ["4:1 fix@52+0 -> 'a  ".toList, "b'".toList] := by
  refine ⟨by decide, foldedPreview, previews_spaced (Or.inl rfl), previews_spaced (Or.inr rfl), ?_⟩
  decide +kernel

end Report.Console

end LayoutLint
