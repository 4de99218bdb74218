import LayoutLint.Proofs.ParameterTexts
import LayoutLint.Proofs.ReportPlaces

/-! A parameter list as the pieces between the commas at which it is broken. The list is its pieces
joined by a comma and a space, and the rewriting joins the same pieces by a comma, a line break and
the indentation. So nothing but white space is lost or put in, and nothing is left to break. -/
namespace LayoutLint

namespace Constructor

/-- The part of the list from an offset on, cut at some offsets. Each cut drops two characters. -/
def piecesFrom (t : Text) (s : Span) (i : Nat) : List Nat → List Text
  | [] => [t.slice i s.stop]
  | j :: rest => t.slice i j :: piecesFrom t s (j + 2) rest

def cuts (t : Text) (s : Span) : List Nat :=
  (List.range' s.start s.width).filter fun j => decide (SplitsAt t s j)

def pieces (t : Text) (s : Span) : List Text :=
  piecesFrom t s s.start (cuts t s)

theorem intercalate_piecesFrom_cons (sep t : Text) (s : Span) (i j : Nat) (rest : List Nat) :
    sep.intercalate (piecesFrom t s i (j :: rest)) =
      t.slice i j ++ sep ++ sep.intercalate (piecesFrom t s (j + 2) rest) := by
  have hne : piecesFrom t s (j + 2) rest ≠ [] := by
    cases rest <;> exact List.cons_ne_nil _ _
  exact List.intercalate_cons_of_ne_nil hne

/-- All the offsets from `i` on at which the list is broken, in order. -/
structure CutsFrom (t : Text) (s : Span) (i : Nat) (js : List Nat) : Prop where
  sorted : js.Pairwise (· < ·)
  mem_iff : ∀ j, j ∈ js ↔ i ≤ j ∧ SplitsAt t s j

section

variable {t : Text} {s : Span} {i : Nat} {js : List Nat}

theorem cutsFrom_cuts (t : Text) (s : Span) : CutsFrom t s s.start (cuts t s) where
  sorted := (List.pairwise_lt_range' 1).filter _
  mem_iff j := by
    have hstart := s.start_le_stop
    rw [cuts, List.mem_filter, List.mem_range'_1, Span.width, decide_eq_true_eq, and_assoc]
    refine and_congr_right fun _ => and_iff_right_of_imp fun hsplits => ?_
    have hinside := hsplits.2.2.1
    omega

theorem CutsFrom.tail {j : Nat} {rest : List Nat} (h : CutsFrom t s i (j :: rest)) :
    CutsFrom t s (j + 2) rest := by
  obtain ⟨hij, hsplits⟩ := (h.mem_iff j).1 List.mem_cons_self
  obtain ⟨hbefore, hsorted⟩ := List.pairwise_cons.1 h.sorted
  refine ⟨hsorted, fun k => ⟨fun hk => ?_, ?_⟩⟩
  · have hjk := hbefore k hk
    have hcut := ((h.mem_iff k).1 (List.mem_cons_of_mem j hk)).2
    have hspace : k ≠ j + 1 := by
      rintro rfl
      exact absurd (hsplits.2.1.symm.trans hcut.1) (by decide)
    exact ⟨by omega, hcut⟩
  · rintro ⟨hjk, hcut⟩
    rcases List.mem_cons.1 ((h.mem_iff k).2 ⟨by omega, hcut⟩) with rfl | hk
    · omega
    · exact hk

theorem CutsFrom.not_splitsAt {j : Nat} {rest : List Nat} (h : CutsFrom t s i (j :: rest)) {k : Nat}
    (hik : i ≤ k) (hkj : k < j) : ¬ SplitsAt t s k := by
  intro hcut
  have hbefore := (List.pairwise_cons.1 h.sorted).1
  rcases List.mem_cons.1 ((h.mem_iff k).2 ⟨hik, hcut⟩) with rfl | hk
  · omega
  · have hjk := hbefore k hk
    omega

theorem slice_of_splitsAt {j : Nat} (h : SplitsAt t s j) : t.slice j (j + 2) = [',', ' '] := by
  obtain ⟨hcomma, hspace, -⟩ := h
  obtain ⟨hj, hcomma⟩ := List.getElem?_eq_some_iff.1 hcomma
  obtain ⟨hnext, hspace⟩ := List.getElem?_eq_some_iff.1 hspace
  rw [Text.slice_eq_cons hj (by omega), Text.slice_eq_cons hnext (by omega), Text.slice_self,
    hcomma, hspace]

theorem intercalate_piecesFrom (h : CutsFrom t s i js) (hi : i ≤ s.stop) :
    [',', ' '].intercalate (piecesFrom t s i js) = t.slice i s.stop := by
  induction js generalizing i with
  | nil => exact List.intercalate_singleton
  | cons j rest ih =>
    obtain ⟨hij, hsplits⟩ := (h.mem_iff j).1 List.mem_cons_self
    have hinside : j + 2 < s.stop := hsplits.2.2.1
    rw [intercalate_piecesFrom_cons, ih h.tail hinside.le, ← slice_of_splitsAt hsplits,
      Text.slice_append_slice t hij (by omega),
      Text.slice_append_slice t (by omega) hinside.le]

theorem intercalate_pieces (t : Text) (s : Span) :
    [',', ' '].intercalate (pieces t s) = s.text t :=
  intercalate_piecesFrom (cutsFrom_cuts t s) s.start_le_stop

variable {inner outer : Text}

theorem breaksAt_framedPlace_iff (hs : s.stop ≤ t.length) {j : Nat} (hsj : s.start ≤ j)
    (hj : j < s.stop) :
    breaksAt (framed inner outer t s) (framedPlace inner s j) ↔ SplitsAt t s j := by
  rcases Nat.lt_or_eq_of_le hj with hlt | heq
  · exact breaksAt_framed_iff hs hsj hlt
  · -- The list ends with this character, and behind it comes the line feed of the frame.
    have hplace : framedPlace inner s j + 1 = 1 + inner.length + (s.stop - s.start) := by
      unfold framedPlace
      omega
    have hframe : (framed inner outer t s)[1 + inner.length + (s.stop - s.start)]? = some '\n' :=
      getElem?_framed_stop hs
    rw [breaksAt_iff, hplace, hframe]
    refine iff_of_false (fun h => absurd h.2.1 (by decide)) fun hsplits => ?_
    have hinside := hsplits.2.2.1
    omega

theorem breakCommas_framed_stretch (hs : s.stop ≤ t.length) {k : Nat} (hi : s.start ≤ i)
    (hik : i ≤ k) (hk : k ≤ s.stop) (h : ∀ j, i ≤ j → j < k → ¬ SplitsAt t s j) :
    breakCommas inner ((framed inner outer t s).drop (framedPlace inner s i)) =
      t.slice i k ++
        breakCommas inner ((framed inner outer t s).drop (framedPlace inner s k)) := by
  have hlength : (framed inner outer t s).length = _ := length_framed hs
  have hslice : (framed inner outer t s).slice (framedPlace inner s i) (framedPlace inner s k) =
      t.slice i k := slice_framed hs hi hik hk
  rw [← hslice]
  refine breakCommas_stretch inner ?_ ?_ fun m him hmk => ?_
  · unfold framedPlace
    omega
  · unfold framedPlace
    omega
  · unfold framedPlace at him hmk
    obtain ⟨j, hj, rfl⟩ : ∃ j, s.start ≤ j ∧ m = framedPlace inner s j := by
      refine ⟨s.start + (m - (1 + inner.length)), by omega, ?_⟩
      unfold framedPlace
      omega
    unfold framedPlace at him hmk
    rw [Bool.eq_false_iff, Ne, breaksAt_framedPlace_iff hs hj (by omega)]
    exact h j (by omega) (by omega)

theorem breakCommas_piecesFrom (h : CutsFrom t s i js) (hs : s.stop ≤ t.length)
    (houter : ',' ∉ outer) (hi : s.start ≤ i) (histop : i ≤ s.stop) :
    breakCommas inner ((framed inner outer t s).drop (framedPlace inner s i)) =
      (',' :: '\n' :: inner).intercalate (piecesFrom t s i js) ++ '\n' :: outer := by
  induction js generalizing i with
  | nil =>
    have hnone : ∀ j, i ≤ j → j < s.stop → ¬ SplitsAt t s j := fun j hij _ hsplits =>
      List.not_mem_nil ((h.mem_iff j).2 ⟨hij, hsplits⟩)
    -- Behind the last cut the list is copied, and so is the frame behind it, which has no comma.
    have hend : (framed inner outer t s).drop (framedPlace inner s s.stop) = '\n' :: outer := by
      rw [framedPlace, drop_framed hs s.start_le_stop (Nat.le_refl _), Text.slice_self,
        List.nil_append]
    have hframe : ',' ∉ '\n' :: outer := by simpa using houter
    rw [breakCommas_framed_stretch hs hi histop (Nat.le_refl _) hnone, hend,
      breakCommas_of_not_mem hframe, piecesFrom, List.intercalate_singleton]
  | cons j rest ih =>
    obtain ⟨hij, hsplits⟩ := (h.mem_iff j).1 List.mem_cons_self
    have hinside : j + 2 < s.stop := hsplits.2.2.1
    have hbreak : breaksAt (framed inner outer t s) (framedPlace inner s j) :=
      (breaksAt_framedPlace_iff hs (hi.trans hij) (by omega)).2 hsplits
    have hplace : framedPlace inner s j + 2 = framedPlace inner s (j + 2) := by
      unfold framedPlace
      omega
    rw [breakCommas_framed_stretch hs hi hij (by omega) fun k => h.not_splitsAt,
      breakCommas_drop_of_breaksAt hbreak, hplace, ih h.tail (by omega) hinside.le,
      intercalate_piecesFrom_cons]
    simp only [List.append_assoc]

theorem breakCommas_framed (hs : s.stop ≤ t.length) (hinner : ',' ∉ inner) (houter : ',' ∉ outer) :
    breakCommas inner (framed inner outer t s) =
      '\n' :: inner ++ (',' :: '\n' :: inner).intercalate (pieces t s) ++ '\n' :: outer := by
  have hlist : (framed inner outer t s).drop (framedPlace inner s s.start) =
      s.text t ++ '\n' :: outer := by
    rw [framedPlace, drop_framed hs (Nat.le_refl _) s.start_le_stop]
    rfl
  have hpieces : breakCommas inner (s.text t ++ '\n' :: outer) =
      (',' :: '\n' :: inner).intercalate (pieces t s) ++ '\n' :: outer := by
    rw [← hlist]
    exact breakCommas_piecesFrom (cutsFrom_cuts t s) hs houter (Nat.le_refl _) s.start_le_stop
  have hframe : ',' ∉ '\n' :: inner := by simpa using hinner
  rw [framed, List.append_assoc, breakCommas_append_of_not_mem hframe, hpieces, List.append_assoc]

end

theorem breakCommas_eq_self {t : Text} (h : ∀ j, ¬ breaksAt t j) (indent : Text) :
    breakCommas indent t = t := by
  have hcopied := breakCommas_stretch indent (Nat.zero_le t.length) (Nat.le_refl _)
    fun j _ _ => Bool.eq_false_iff.2 (h j)
  rw [List.drop_zero, List.drop_length, breakCommas, List.append_nil] at hcopied
  rw [hcopied, Text.slice, List.drop_zero, Nat.sub_zero, List.take_length]

theorem rewritten_eq (o : Options) (t : Text) (n : Node) {signature : Node}
    (hs : signature.span.stop ≤ t.length) : rewritten o t n signature =
      '\n' :: innerBlanks o t n ++
        (',' :: '\n' :: innerBlanks o t n).intercalate (pieces t signature.span) ++
        '\n' :: outerBlanks o t n :=
  breakCommas_framed hs (o.comma_notMem_blanks _) (o.comma_notMem_blanks _)

/-- The rewriting of a list puts its pieces on lines of their own, each but the last with its
comma. No comma and space are left in it but before a line feed, so it is not rewritten again. -/
theorem multiline_joins_pieces (o : Options) (t : Text) (n signature : Node) (ho : o.Usable)
    (hn : n.span.stop ≤ t.length) (hs : signature.span.stop ≤ t.length) :
    ∃ level inner outer text, n.indentLevel o t 0 = .ok level ∧
      o.indent (level + 1) = .ok inner ∧ o.indent level = .ok outer ∧
      multiline o t n signature = .ok text ∧
      [',', ' '].intercalate (pieces t signature.span) = signature.span.text t ∧
      text = '\n' :: inner ++ (',' :: '\n' :: inner).intercalate (pieces t signature.span) ++
        '\n' :: outer ∧
      (∀ j, text[j]? = some ',' → text[j + 1]? = some ' ' → text[j + 2]? = some '\n') ∧
      ∀ indent, breakCommas indent text = text := by
  have hstart := n.span.start_le_stop.trans hn
  have hunbroken : ∀ j, ¬ breaksAt (rewritten o t n signature) j :=
    not_breaksAt_breakCommas (o.comma_notMem_blanks _) _
  refine ⟨_, _, _, _, Node.indentLevel_of_le hstart o 0, Options.indent_eq_blanks ho _,
    Options.indent_eq_blanks ho _, multiline_eq ho hstart signature,
    intercalate_pieces t signature.span, rewritten_eq o t n hs, fun j hcomma hspace => ?_,
    breakCommas_eq_self hunbroken⟩
  by_contra hnext
  exact hunbroken j (breaksAt_iff.2 ⟨hcomma, hspace, hnext⟩)

def raggedText : Text := "  constructor(a,, b, \n c, d, ) {}".toList

def raggedList : Node :=
  ⟨1, .syntaxList, .between 14 14 29, []⟩

def ragged : Node :=
  ⟨0, .constructor, .between 0 2 33, [raggedList]⟩

theorem multiline_joins_pieces_ragged : Options.Usable { useTabs := true } ∧
    ragged.span.stop ≤ raggedText.length ∧ raggedList.span.stop ≤ raggedText.length ∧
    pieces raggedText raggedList.span = ["a,".toList, "b, \n c".toList, "d, ".toList] ∧
    multiline { useTabs := true } raggedText ragged raggedList =
      .ok "\n\t\t\ta,,\n\t\t\tb, \n c,\n\t\t\td, \n\t\t".toList := by
  have hpieces : pieces raggedText raggedList.span =
      ["a,".toList, "b, \n c".toList, "d, ".toList] := by decide
  obtain ⟨level, inner, outer, text, hlevel, hinner, houter, hmultiline, -, rfl, -⟩ :=
    multiline_joins_pieces { useTabs := true } raggedText ragged raggedList (by decide) (by decide)
      (by decide)
  obtain rfl : 2 = level := Except.ok.inj hlevel
  obtain rfl : List.replicate 3 '\t' = inner := Except.ok.inj hinner
  obtain rfl : List.replicate 2 '\t' = outer := Except.ok.inj houter
  refine ⟨by decide, by decide, by decide, hpieces, hmultiline.trans ?_⟩
  rw [hpieces]
  rfl

end Constructor

namespace Text

def bare (t : Text) : Text :=
  t.filter fun c => c ≠ ' ' && c ≠ '\t' && c ≠ '\n'

@[simp] theorem bare_append (t u : Text) : (t ++ u).bare = t.bare ++ u.bare :=
  List.filter_append t u

theorem bare_intercalate (sep : Text) (parts : List Text) :
    bare (sep.intercalate parts) = sep.bare.intercalate (parts.map bare) := by
  induction parts with
  | nil => rfl
  | cons first rest ih =>
    cases rest with
    | nil => simp only [List.intercalate_singleton, List.map_cons, List.map_nil]
    | cons second rest =>
      rw [List.intercalate_cons_cons, bare_append, bare_append, ih]
      exact List.intercalate_cons_cons.symm

theorem bare_splice {t insert : Text} {i j : Nat} (hij : i ≤ j)
    (h : insert.bare = (t.slice i j).bare) : (t.splice i j insert).bare = t.bare :=
  calc (t.splice i j insert).bare
    _ = bare (t.take i) ++ insert.bare ++ bare (t.drop j) := by
      rw [splice, bare_append, bare_append]
    _ = (t.splice i j (t.slice i j)).bare := by rw [h, splice, bare_append, bare_append]
    _ = t.bare := by rw [splice_slice t hij]

end Text

theorem Options.bare_blanks (o : Options) (level : Nat) : (o.blanks level).bare = [] :=
  o.filter_blanks level (by decide) (by decide)

theorem Constructor.bare_rewritten (o : Options) (t : Text) (n : Node) {signature : Node}
    (hs : signature.span.stop ≤ t.length) :
    (rewritten o t n signature).bare = (signature.span.text t).bare := by
  have hseparator : Text.bare (',' :: '\n' :: innerBlanks o t n) = Text.bare [',', ' '] :=
    congrArg (',' :: ·) (o.bare_blanks _)
  have hframe : ∀ level, Text.bare ('\n' :: o.blanks level) = [] := o.bare_blanks
  rw [rewritten_eq o t n hs, ← intercalate_pieces t signature.span, Text.bare_append,
    Text.bare_append, Text.bare_intercalate, Text.bare_intercalate, hseparator, innerBlanks,
    outerBlanks, hframe, hframe, List.nil_append, List.append_nil]

namespace Source

/-- The fix of a constructor leaves the text of the file the same but for spaces, tabs and line
feeds. -/
theorem bare_constructor_fix (limits : Limits) (o : Options) (s : Source) {vs : List Violation}
    (hs : s.root.InText s.text) (h : (s.inspect o).found = .ok vs) :
    ∀ v ∈ vs, v.cause = .multilineConstructor →
      ∃ f fixed, v.fix = some f ∧ f.apply limits s.text = .ok fixed ∧ fixed.bare = s.text.bare := by
  obtain rfl := eq_violations_of_found hs h
  intro v hv hcause
  obtain ⟨n, hn, c, hreport⟩ := exists_reports_of_mem hv
  have happly : ∀ f, v.fix = some f →
      f.apply limits s.text = .ok (s.text.splice f.start f.stop f.insert) := fun f =>
    hreport.apply_fix (hs.of_mem hn)
  cases hreport with
  | shared => cases hcause
  | @crowded signature hsignature =>
    have hlist := (hs.of_mem hn).child (Node.mem_children_of_firstChild? hsignature)
    refine ⟨_, _, rfl, happly _ rfl, Text.bare_splice (Fix.start_le_stop _) ?_⟩
    rw [Node.stop_replace]
    exact Constructor.bare_rewritten o s.text n hlist.stop_le

def looseList : Node :=
  ⟨2, .syntaxList, .between 12 12 34, [
    Constructor.privateParameter 3 (.between 12 12 21) (.between 12 12 19),
    ⟨6, .parameter, .between 22 26 27, []⟩, ⟨7, .parameter, .between 28 28 29, []⟩,
    ⟨8, .parameter, .between 30 31 32, []⟩]⟩

def looseFile : Source where
  name := "loose.ts".toList
  text := "constructor(private a, \r\n\tb,c, d, ) {}".toList
  root := ⟨0, .sourceFile, .between 0 0 38, [⟨1, .constructor, .between 0 0 38, [looseList]⟩]⟩
  name_ne_nil := by decide
  root_le_length := by decide

def looseFixedText : Text := "constructor(\n    private a,\n    \r\n\tb,c,\n    d, \n) {}".toList

theorem bare_constructor_fix_looseFile : looseFile.root.InText looseFile.text ∧
    ∃ v f, (looseFile.inspect {}).found = .ok [v] ∧ v.cause = .multilineConstructor ∧
      v.fix = some f ∧ f.apply .usual looseFile.text = .ok looseFixedText ∧
      looseFixedText.bare = looseFile.text.bare := by
  have hin : looseFile.root.InText looseFile.text := by decide
  have hfound := found_inspect (o := {}) (by decide) hin
  have hall := bare_constructor_fix .usual {} looseFile hin hfound
  rw [violations, Node.constructs_eq] at hfound hall
  obtain ⟨f, fixed, hf, hfixed, hbare⟩ := hall _ List.mem_cons_self rfl
  obtain rfl := Option.some.inj hf
  obtain rfl : looseFixedText = fixed := by
    refine Except.ok.inj (Eq.trans ?_ hfixed)
    refine ((Constructor.apply_rewritten (by decide)).trans ?_).symm
    rw [Constructor.fixedText_of_column_zero rfl]
    rfl
  exact ⟨hin, _, _, hfound, rfl, hf, hfixed, hbare⟩

end Source

end LayoutLint
