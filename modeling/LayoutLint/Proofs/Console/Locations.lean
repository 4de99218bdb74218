import LayoutLint.Proofs.Console.ReportFaults
import LayoutLint.Proofs.Console.Rows

/-! Which locations a table shows. A location is read as markup, so that tags in the file name are
not shown, and a code between colons is shown as the symbol it stands for. The line number stands
between colons too. -/
namespace LayoutLint

namespace Text

theorem smallLetters_of_isDigit {c : Char} (h : c.isDigit) : smallLetters c = [c] := by
  have hc : c ≠ 'İ' := by
    rintro rfl
    exact absurd h (by decide)
  have hbound : c.toNat ≤ 57 := by
    simp only [Char.isDigit, Bool.and_eq_true, decide_eq_true_eq] at h
    exact h.2
  have hshift : Capitals.shiftOf? c.toNat Capitals.all = none := by
    rw [Capitals.all, Capitals.shiftOf?, if_pos (Nat.le_trans hbound (by decide)), if_neg]
    simp only [Bool.and_eq_true, decide_eq_true_eq, not_and]
    omega
  rw [smallLetters, if_neg hc, hshift]

theorem lowerCase_of_isDigit {t : Text} (h : ∀ c ∈ t, c.isDigit) : t.lowerCase = t := by
  have hlower : ∀ inWord, lowerFrom inWord t = t := by
    induction t with
    | nil => exact fun _ => rfl
    | cons c t ih =>
      rw [List.forall_mem_cons] at h
      intro inWord
      have hc : c ≠ 'Σ' := by
        rintro rfl
        exact absurd h.1 (by decide)
      rw [lowerFrom, if_neg hc, smallLetters_of_isDigit h.1, ih h.2]
      rfl
  exact hlower false

end Text

namespace Report.Console

/-! ## The symbol of a number -/

namespace Symbol

theorem named?_ofNat (n : Nat) : named? (Text.ofNat n) =
    if n = 100 then some ['💯'] else if n = 1234 then some ['🔢'] else none := by
  have hdigits : (Text.ofNat n).head?.any Char.isDigit := by
    cases hn : Text.ofNat n with
    | nil => exact absurd hn (Text.ofNat_ne_nil n)
    | cons c t => exact Text.isDigit_of_mem_ofNat (n := n) (hn ▸ List.mem_cons_self)
  have hundred : "100".toList = Text.ofNat n ↔ n = 100 := by
    rw [eq_comm, ← Text.ofNat_inj]
    rfl
  have hthousand : "1234".toList = Text.ofNat n ↔ n = 1234 := by
    rw [eq_comm, ← Text.ofNat_inj]
    rfl
  -- The other codes that begin with a digit hold something else besides digits.
  have hwords : (numbered.drop 2).find? (·.1.toList = Text.ofNat n) = none := by
    have hall : ∀ p ∈ numbered.drop 2, ¬ p.1.toList.all Char.isDigit := by decide
    refine List.find?_eq_none.2 fun p hp heq => hall p hp (List.all_eq_true.2 fun c hc => ?_)
    exact Text.isDigit_of_mem_ofNat (of_decide_eq_true heq ▸ hc)
  have hnumbered : numbered = ("100", "💯") :: ("1234", "🔢") :: numbered.drop 2 := rfl
  rw [named?, if_pos hdigits, hnumbered]
  simp only [List.find?_cons, hundred, hthousand, hwords]
  by_cases hn : n = 100
  · simp [hn]
  · by_cases hm : n = 1234
    · simp [hm]
    · simp [hn, hm]

/-- Of all numbers two are codes of symbols. -/
theorem ofCode?_ofNat (n : Nat) : ofCode? (Text.ofNat n) =
    if n = 100 then some ['💯'] else if n = 1234 then some ['🔢'] else none := by
  have hdigit : ∀ c ∈ Text.ofNat n, c.isDigit := fun c => Text.isDigit_of_mem_ofNat
  have hform : forms.find? (·.1.toList.isSuffixOf (Text.ofNat n)) = none := by
    have hall : ∀ p ∈ forms, ¬ p.1.toList.all Char.isDigit := by decide
    refine List.find?_eq_none.2 fun p hp hsuffix => hall p hp (List.all_eq_true.2 fun c hc => ?_)
    exact hdigit c ((List.isSuffixOf_iff_suffix.1 hsuffix).subset hc)
  rw [ofCode?, hform]
  simp only [Text.lowerCase_of_isDigit hdigit, named?_ofNat]

end Symbol

namespace Markup

theorem codeAt?_of_ne {c : Char} (h : c ≠ ':') (t : Text) : codeAt? (c :: t) = none := by
  unfold codeAt?
  split
  · rename_i heq
    exact absurd (List.cons.inj heq).1 h
  · rfl

theorem codeAt?_code {code : Text} (h : ∀ c ∈ code, c ≠ ':' ∧ isBlank c = false) (rest : Text) :
    codeAt? (':' :: (code ++ ':' :: rest)) = some code := by
  have htake : (code ++ ':' :: rest).takeWhile (fun c => c ≠ ':' && !isBlank c) = code := by
    rw [List.takeWhile_append_of_pos fun c hc => by simp [h c hc]]
    simp
  rw [codeAt?, htake]
  simp

theorem withSymbols_append {t : Text} (h : ':' ∉ t) (rest : Text) :
    withSymbols 0 (t ++ rest) = t ++ withSymbols 0 rest := by
  induction t with
  | nil => rfl
  | cons c t ih =>
    rw [List.mem_cons, not_or] at h
    rw [List.cons_append, withSymbols, codeAt?_of_ne (Ne.symm h.1)]
    exact congrArg (c :: ·) (ih h.2)

theorem withSymbols_covered (t rest : Text) :
    withSymbols t.length (t ++ rest) = withSymbols 0 rest := by
  induction t with
  | nil => rfl
  | cons c t ih => exact ih

theorem withSymbols_code {code : Text} (h : ∀ c ∈ code, c ≠ ':' ∧ isBlank c = false)
    (rest : Text) : withSymbols 0 (':' :: (code ++ ':' :: rest)) =
      (Symbol.ofCode? code).getD (':' :: code ++ [':']) ++ withSymbols 0 rest := by
  have hcovered := withSymbols_covered (code ++ [':']) rest
  rw [List.append_assoc, List.singleton_append, List.length_append] at hcovered
  rw [withSymbols, codeAt?_code h]
  exact congrArg (_ ++ ·) hcovered

end Markup

/-! ## Names without markup -/

/-- Nothing in the name is markup or is kept from a terminal. -/
def IsPlainName (file : Text) : Prop :=
  ∀ c ∈ file, c ≠ '[' ∧ c ≠ ':' ∧ c ≠ '\x1b' ∧ Markup.isUnseen c = false

instance (file : Text) : Decidable (IsPlainName file) :=
  List.decidableBAll (fun c => c ≠ '[' ∧ c ≠ ':' ∧ c ≠ '\x1b' ∧ Markup.isUnseen c = false) file

def shownLocation (file : Text) (v : Violation) : Text :=
  if v.start.line + 1 = 100 then file ++ '💯' :: Text.ofNat (v.start.character + 1)
  else if v.start.line + 1 = 1234 then file ++ '🔢' :: Text.ofNat (v.start.character + 1)
  else v.location file

theorem IsPlainName.forall_mem_location {file : Text} (h : IsPlainName file) (v : Violation) :
    ∀ c ∈ v.location file, c ≠ '[' ∧ c ≠ '\x1b' ∧ Markup.isUnseen c = false := by
  have hsigns : "0123456789:".toList.all
      fun c => c ≠ '[' && c ≠ '\x1b' && !Markup.isUnseen c := by decide
  rw [Violation.location_eq]
  refine List.forall_mem_append.2 ⟨fun c hc => ⟨(h c hc).1, (h c hc).2.2⟩,
    List.forall_mem_cons.2 ⟨by decide, fun c hc => ?_⟩⟩
  simpa [and_assoc] using List.all_eq_true.1 hsigns c (Position.mem_of_mem_text hc)

theorem withSymbols_location {file : Text} (h : IsPlainName file) (v : Violation) :
    Markup.withSymbols 0 (v.location file) = shownLocation file v := by
  have hfile : ':' ∉ file := fun hmem => (h _ hmem).2.1 rfl
  have hdigits : "0123456789".toList.all fun c => c ≠ ':' && !isBlank c := by decide
  have hcode : ∀ n, ∀ c ∈ Text.ofNat n, c ≠ ':' ∧ isBlank c = false := fun n c hc => by
    simpa using List.all_eq_true.1 hdigits c (Text.mem_of_mem_ofNat hc)
  have hcolumn : Markup.withSymbols 0 (Text.ofNat (v.start.character + 1)) =
      Text.ofNat (v.start.character + 1) := by
    have hnot : ':' ∉ Text.ofNat (v.start.character + 1) := fun hmem => (hcode _ _ hmem).1 rfl
    simpa [Markup.withSymbols] using Markup.withSymbols_append hnot []
  rw [Violation.location_eq, Position.text_eq, Markup.withSymbols_append hfile,
    Markup.withSymbols_code (hcode _), hcolumn, Symbol.ofCode?_ofNat, shownLocation]
  split
  · rfl
  · split
    · rfl
    · simp [Violation.location_eq, Position.text_eq]

theorem mem_of_mem_shownLocation {file : Text} {v : Violation} {c : Char}
    (h : c ∈ shownLocation file v) : c ∈ v.location file ∨ c = '💯' ∨ c = '🔢' := by
  have hsymbol : ∀ symbol, c ∈ file ++ symbol :: Text.ofNat (v.start.character + 1) →
      c ∈ v.location file ∨ c = symbol := by
    intro symbol hc
    simp only [Violation.location_eq, Position.text_eq, List.mem_append, List.mem_cons] at hc ⊢
    tauto
  unfold shownLocation at h
  split at h
  · exact (hsymbol _ h).imp_right Or.inl
  · split at h
    · exact (hsymbol _ h).imp_right Or.inr
    · exact Or.inl h

theorem IsPlainName.forall_mem_shownLocation {file : Text} (h : IsPlainName file)
    (v : Violation) : ∀ c ∈ shownLocation file v, c ≠ '\x1b' ∧ Markup.isUnseen c = false := by
  intro c hc
  rcases mem_of_mem_shownLocation hc with hc | rfl | rfl
  · exact (h.forall_mem_location v c hc).2
  · decide
  · decide

theorem line_location {file : Text} (h : IsPlainName file) (v : Violation) :
    Markup.line (v.location file) = .ok ⟨shownLocation file v, []⟩ := by
  have hfile : '[' ∉ file := fun hmem => (h _ hmem).1 rfl
  have hlocation : ¬ ['\\', '['] <:+: v.location file := fun hslash =>
    (h.forall_mem_location v '[' (hslash.subset (by decide))).1 rfl
  have hseen : ∀ c ∈ shownLocation file v, !Markup.isUnseen c := fun c hc => by
    rw [(h.forall_mem_shownLocation v c hc).2, Bool.not_false]
  rw [Markup.line_of_tagFree (tagFree_location (Markup.tagFree_of_not_mem hfile) v), Markup.shown,
    Markup.withoutBracketEscapes_eq_self hlocation, withSymbols_location h,
    List.filter_eq_self.2 hseen]

/-! ## Locations in a table -/

variable {limits : Limits}

theorem rows_of_table {file : Text} {shown : List Violation} {t : Table}
    (h : table limits file shown = .ok t) :
    t.columns = columns ∧ shown.mapM (row file) = .ok t.rows := by
  obtain ⟨_, -, h⟩ := exists_of_bind h
  obtain ⟨rows, hrows, h⟩ := exists_of_bind h
  obtain rfl := Except.ok.inj h
  exact ⟨rfl, hrows⟩

theorem exists_of_row {file : Text} {v : Violation} {contents : List Line}
    (h : row file v = .ok contents) : ∃ location others, contents = location :: others ∧
      Markup.line (v.location file) = .ok location ∧ contents.length = columns.length := by
  obtain ⟨location, hlocation, h⟩ := exists_of_bind h
  obtain ⟨message, -, h⟩ := exists_of_bind h
  obtain rfl := Except.ok.inj h
  exact ⟨location, _, rfl, hlocation, rfl⟩

theorem isRegular_of_table {file : Text} {shown : List Violation} {t : Table}
    (h : table limits file shown = .ok t) : t.IsRegular := by
  obtain ⟨hcolumns, hrows⟩ := rows_of_table h
  refine ⟨fun contents hmem => ?_, _, _, hcolumns, rfl⟩
  obtain ⟨v, -, hrow⟩ := exists_mem_of_mapM hrows hmem
  obtain ⟨_, _, -, -, hlength⟩ := exists_of_row hrow
  rw [hcolumns, hlength]

/-- The rows of a table are read as one line for each violation shown, in order, and the first cell
of a line shows the location as markup. For a plain name that is the location itself, except that
lines 100 and 1234 give way to a symbol. -/
theorem locations_of_report {s : Settings} {f : Findings} {report : Text}
    (h : render limits s f = .ok report) (hshown : s.select f.violations ≠ [])
    (huncut : ∀ t, table limits f.file (s.select f.violations) = .ok t → t.Uncut s.width) :
    ∃ widths before heading rows behind, report.withoutCodes =
        before ++ (Table.top.write widths ++ (heading ++ (Table.underHeading.write widths ++
          (rows.flatten ++ (Table.bottom.write widths ++ behind))))) ∧
      List.Forall₂ (fun v row => Table.IsRow row ∧ ∃ l, Markup.line (v.location f.file) = .ok l ∧
        ('\x1b' ∉ l.text → Table.ShowsFirst l.text row)) (s.select f.violations) rows ∧
      (IsPlainName f.file → List.Forall₂ (fun v row =>
        Table.ShowsFirst (shownLocation f.file v) row) (s.select f.violations) rows) := by
  rw [render_eq] at h
  obtain ⟨rule, -, h⟩ := exists_of_bind h
  obtain ⟨_, -, h⟩ := exists_of_bind h
  obtain ⟨numbers, -, h⟩ := exists_of_bind h
  obtain ⟨rest, hrest, h⟩ := exists_of_bind h
  obtain rfl := Except.ok.inj h
  -- Rule and counts stand above the table, the previews of fixes below it.
  rw [if_neg hshown, body_eq] at hrest
  obtain ⟨t, ht, hrest⟩ := exists_of_bind hrest
  obtain ⟨written, hwritten, hrest⟩ := exists_of_bind hrest
  obtain ⟨fixes, -, hrest⟩ := exists_of_bind hrest
  obtain rfl := Except.ok.inj hrest
  obtain ⟨heading, rows, hread, hrows⟩ := Table.exists_read_of_write (isRegular_of_table ht)
    (huncut t ht) hwritten (rule ++ numbers) fixes
  have hlocations : List.Forall₂ (fun v row => Table.IsRow row ∧
      ∃ l, Markup.line (v.location f.file) = .ok l ∧
        ('\x1b' ∉ l.text → Table.ShowsFirst l.text row)) (s.select f.violations) rows := by
    refine (forall₂_comp (forall₂_of_mapM (rows_of_table ht).2) hrows).imp ?_
    rintro v line ⟨contents, hcontents, hline, hfirst⟩
    obtain ⟨location, others, rfl, hlocation, -⟩ := exists_of_row hcontents
    exact ⟨hline, location, hlocation, hfirst location rfl⟩
  refine ⟨_, _, heading, rows, _, hread, hlocations, fun hplain => hlocations.imp ?_⟩
  rintro v line ⟨-, l, hl, hfirst⟩
  obtain rfl := Except.ok.inj (hl.symm.trans (line_location hplain v))
  exact hfirst fun hescape => (hplain.forall_mem_shownLocation v _ hescape).1 rfl

def hundredthLine : Findings where
  file := "a.ts".toList
  violations := [
    { cause := .ownLine, message := "else of [/x]".toList, start := ⟨99, 0⟩
      node := ⟨1, .elseKeyword, { fullStart := 200, start := 200, stop := 204 }, []⟩
      fix := some ⟨200, 0, "\n".toList⟩
      message_ne_nil := by decide },
    { cause := .ownLine, message := "else".toList, start := ⟨4, 2⟩
      node := ⟨2, .elseKeyword, { fullStart := 22, start := 22, stop := 26 }, []⟩
      fix := none
      message_ne_nil := by decide }]
  file_ne_nil := by decide

theorem uncut_hundredthLine {t : Table}
    (h : table .usual hundredthLine.file hundredthLine.violations = .ok t) : t.Uncut 120 := by
  have hall : (table .usual hundredthLine.file hundredthLine.violations).toOption.all
      fun t => decide (t.Uncut 120) := by decide +kernel
  rw [h] at hall
  exact of_decide_eq_true hall

theorem exists_report_hundredthLine : ∃ report, render .usual {} hundredthLine = .ok report ∧
    ¬ "a.ts:100:1".toList <:+: report.withoutCodes := by
  have hany : (render .usual {} hundredthLine).toOption.any
      fun report => decide (¬ "a.ts:100:1".toList <:+: report.withoutCodes) := by decide +kernel
  obtain ⟨report, hreport, hnot⟩ := exists_of_any hany
  exact ⟨report, hreport, of_decide_eq_true hnot⟩

theorem locations_of_report_hundredthLine :
    ∃ report before first second behind, render .usual {} hundredthLine = .ok report ∧
      report.withoutCodes = before ++ (first ++ (second ++ behind)) ∧
      Table.ShowsFirst "a.ts💯1".toList first ∧ Table.ShowsFirst "a.ts:5:3".toList second := by
  obtain ⟨report, hreport, -⟩ := exists_report_hundredthLine
  obtain ⟨widths, before, heading, rows, behind, hread, -, hplain⟩ :=
    locations_of_report hreport (by decide) fun _ => uncut_hundredthLine
  cases hplain (by decide) with
  | cons hfirst hrest =>
    cases hrest with
    | cons hsecond hrest =>
      cases hrest
      refine ⟨report, before ++ (Table.top.write widths ++ (heading ++
        Table.underHeading.write widths)), _, _, Table.bottom.write widths ++ behind, hreport,
        ?_, hfirst, hsecond⟩
      simpa using hread

theorem hundredthLine_is_altered :
    hundredthLine.violations.map (·.location hundredthLine.file) =
      ["a.ts:100:1".toList, "a.ts:5:3".toList] ∧
    (∀ t, table .usual hundredthLine.file hundredthLine.violations = .ok t → t.Uncut 120) ∧
    ∃ report, render .usual {} hundredthLine = .ok report ∧
      ¬ "a.ts:100:1".toList <:+: report.withoutCodes :=
  ⟨by decide, fun _ => uncut_hundredthLine, exists_report_hundredthLine⟩

end Report.Console

end LayoutLint
