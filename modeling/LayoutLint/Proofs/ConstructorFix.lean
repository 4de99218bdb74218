import LayoutLint.Fix.Apply
import LayoutLint.Proofs.CommaBreaks
import LayoutLint.Proofs.Reports.Constructor

/-! What the fix of a constructor does to the lines of the parameters. The check goes by the
places of the parameters and the fix by the commas of the text, so the fix parts two parameters
if the line is broken at a comma between them, or ended there before. -/
namespace LayoutLint.Constructor

def framed (inner outer t : Text) (s : Span) : Text :=
  '\n' :: inner ++ s.text t ++ '\n' :: outer

def relaid (inner outer t : Text) (s : Span) : Text :=
  t.splice s.start s.stop (breakCommas inner (framed inner outer t s))

/-- The place in the rewritten text of a character of the list. -/
def placeOf (inner outer t : Text) (s : Span) (offset : Nat) : Nat :=
  s.start + carried inner (framed inner outer t s) (1 + inner.length + (offset - s.start))

/-- A comma and one space in the list, with neither a line feed nor the end of the list behind
the space. -/
def SplitsAt (t : Text) (s : Span) (j : Nat) : Prop :=
  t[j]? = some ',' ∧ t[j + 1]? = some ' ' ∧ j + 2 < s.stop ∧ t[j + 2]? ≠ some '\n'

instance (t : Text) (s : Span) (j : Nat) : Decidable (SplitsAt t s j) :=
  inferInstanceAs (Decidable (_ ∧ _ ∧ _ ∧ _))

section

variable {inner outer t : Text} {s : Span}

theorem length_text (hs : s.stop ≤ t.length) : (s.text t).length = s.stop - s.start := by
  rw [Span.text, Text.length_slice]
  omega

theorem getElem?_framed (hs : s.stop ≤ t.length) {j : Nat} (hsj : s.start ≤ j)
    (hj : j < s.stop) : (framed inner outer t s)[1 + inner.length + (j - s.start)]? = t[j]? := by
  have hlength := length_text hs
  have hindex : 1 + inner.length + (j - s.start) - ('\n' :: inner).length = j - s.start := by
    rw [List.length_cons]
    omega
  have hback : s.start + (j - s.start) = j := by omega
  rw [framed, List.append_assoc, List.getElem?_append_right (by rw [List.length_cons]; omega),
    hindex, List.getElem?_append_left (by omega), Span.text, Text.slice,
    List.getElem?_take_of_lt (by omega), List.getElem?_drop, hback]

theorem getElem?_framed_stop (hs : s.stop ≤ t.length) :
    (framed inner outer t s)[1 + inner.length + (s.stop - s.start)]? = some '\n' := by
  have hlength : ('\n' :: inner ++ s.text t).length = 1 + inner.length + (s.stop - s.start) := by
    rw [List.length_append, List.length_cons, length_text hs]
    omega
  rw [framed, List.getElem?_append_right hlength.le, hlength, Nat.sub_self,
    List.getElem?_cons_zero]

theorem length_framed (hs : s.stop ≤ t.length) : (framed inner outer t s).length =
    1 + inner.length + (s.stop - s.start) + (1 + outer.length) := by
  simp only [framed, List.length_append, List.length_cons, length_text hs]
  omega

theorem drop_framed (hs : s.stop ≤ t.length) {a : Nat} (ha : s.start ≤ a) (hstop : a ≤ s.stop) :
    (framed inner outer t s).drop (1 + inner.length + (a - s.start)) =
      t.slice a s.stop ++ '\n' :: outer := by
  have hframe : ('\n' :: inner).length = 1 + inner.length := Nat.add_comm ..
  have hback : s.start + (a - s.start) = a := by omega
  have hwidth : s.stop - s.start - (a - s.start) = s.stop - a := by omega
  rw [framed, List.append_assoc, ← List.drop_drop, List.drop_left' hframe,
    List.drop_append_of_le_length (by rw [length_text hs]; omega), Span.text, Text.slice,
    List.drop_take, List.drop_drop, hback, hwidth, Text.slice]

theorem endsLineAt_framed (hs : s.stop ≤ t.length) (rest : Text) {j : Nat} (hsj : s.start ≤ j)
    (hj : j + 1 < s.stop) :
    Text.endsLineAt (framed inner outer t s ++ rest) (1 + inner.length + (j - s.start)) =
      t.endsLineAt j := by
  have hlength : (framed inner outer t s).length = _ := length_framed hs
  have hindex : 1 + inner.length + (j - s.start) + 1 =
      1 + inner.length + (j + 1 - s.start) := by omega
  refine Text.endsLineAt_congr ?_ ?_
  · rw [List.getElem?_append_left (by omega), getElem?_framed hs hsj (by omega)]
  · rw [hindex, List.getElem?_append_left (by omega), getElem?_framed hs (by omega) hj]

theorem breaksAt_framed_iff (hs : s.stop ≤ t.length) {j : Nat} (hsj : s.start ≤ j)
    (hj : j + 1 < s.stop) :
    breaksAt (framed inner outer t s) (1 + inner.length + (j - s.start)) ↔ SplitsAt t s j := by
  have hindex : ∀ i, 1 + inner.length + (j - s.start) + i =
      1 + inner.length + (j + i - s.start) := fun i => by omega
  rw [breaksAt_iff, hindex 1, hindex 2, getElem?_framed hs hsj (by omega),
    getElem?_framed hs (by omega) hj, SplitsAt]
  rcases Nat.lt_or_eq_of_le (show j + 2 ≤ s.stop by omega) with hlt | heq
  · rw [getElem?_framed hs (by omega) hlt]
    simp [hlt]
  · rw [heq, getElem?_framed_stop hs]
    simp

theorem breaks_drop_relaid (hinner : inner ≠ [])
    (hblank : ∀ c ∈ inner, isLineBreak c = false) (hs : s.stop ≤ t.length) {i : Nat}
    (hi : i ≤ (framed inner outer t s).length) :
    Text.breaks ((relaid inner outer t s).drop
        (s.start + carried inner (framed inner outer t s) i)) =
      Text.breaks ((framed inner outer t s ++ t.drop s.stop).drop i) +
        brokenCommas ((framed inner outer t s).drop i) := by
  have hstart := s.start_le_stop
  have hlength : (t.take s.start).length = s.start := by
    rw [List.length_take]
    omega
  rw [List.drop_append_of_le_length hi, ← breaks_drop_carried hinner hblank, relaid, Text.splice,
    List.append_assoc, ← List.drop_drop, List.drop_left' hlength]

theorem line_start_lt_placeOf (hinner : inner ≠ [])
    (hblank : ∀ c ∈ inner, isLineBreak c = false) (hs : s.stop ≤ t.length) {a : Nat}
    (ha : a < s.stop) :
    ((relaid inner outer t s).positionAt s.start).line <
      ((relaid inner outer t s).positionAt (placeOf inner outer t s a)).line := by
  have hlength : (framed inner outer t s).length = _ := length_framed hs
  have hleft := Text.line_add_breaks_drop (relaid inner outer t s) s.start
  have hright := Text.line_add_breaks_drop (relaid inner outer t s) (placeOf inner outer t s a)
  have hbegin :=
    breaks_drop_relaid hinner hblank hs (Nat.zero_le (framed inner outer t s).length)
  rw [carried_zero, Nat.add_zero] at hbegin
  rw [hbegin] at hleft
  unfold placeOf at hright ⊢
  rw [breaks_drop_relaid hinner hblank hs (by omega)] at hright
  have hle := Nat.zero_le (1 + inner.length + (a - s.start))
  have hcommas := Text.left_anti (brokenCommas_drop_eq (framed inner outer t s)) hle
  have hends : (framed inner outer t s ++ t.drop s.stop).endsLineAt 0 :=
    Text.endsLine_lineFeed _
  have hlines := (Text.left_lt_iff
    (Text.breaks_drop_eq (framed inner outer t s ++ t.drop s.stop)) hle).2
    ⟨0, Nat.le_refl _, by omega, hends⟩
  omega

private theorem exists_shifted_iff {c a p q : Nat} {P Q : Nat → Prop} (hap : a ≤ p)
    (h : ∀ j, p ≤ j → j < q → (P (c + (j - a)) ↔ Q j)) :
    (∃ k, c + (p - a) ≤ k ∧ k < c + (q - a) ∧ P k) ↔ ∃ j, p ≤ j ∧ j < q ∧ Q j := by
  constructor
  · rintro ⟨k, hpk, hkq, hk⟩
    have hback : c + (a + (k - c) - a) = k := by omega
    refine ⟨a + (k - c), by omega, by omega, ?_⟩
    rw [← h _ (by omega) (by omega), hback]
    exact hk
  · rintro ⟨j, hpj, hjq, hj⟩
    exact ⟨c + (j - a), by omega, by omega, (h j hpj hjq).2 hj⟩

theorem line_placeOf_ne_iff (hinner : inner ≠ [])
    (hblank : ∀ c ∈ inner, isLineBreak c = false) (hs : s.stop ≤ t.length) {a b : Nat}
    (ha : s.start ≤ a) (hab : a ≤ b) (hb : b < s.stop) :
    ((relaid inner outer t s).positionAt (placeOf inner outer t s a)).line ≠
        ((relaid inner outer t s).positionAt (placeOf inner outer t s b)).line ↔
      (t.positionAt a).line ≠ (t.positionAt b).line ∨
        ∃ j, a ≤ j ∧ j < b ∧ SplitsAt t s j := by
  have hlength : (framed inner outer t s).length = _ := length_framed hs
  have hleft := Text.line_add_breaks_drop (relaid inner outer t s) (placeOf inner outer t s a)
  have hright := Text.line_add_breaks_drop (relaid inner outer t s) (placeOf inner outer t s b)
  unfold placeOf at hleft hright ⊢
  rw [breaks_drop_relaid hinner hblank hs (by omega)] at hleft hright
  have hle : 1 + inner.length + (a - s.start) ≤ 1 + inner.length + (b - s.start) := by omega
  -- Behind a place there are the line ends of the framed list and one for each broken comma. Both
  -- counts only go down from `a` to `b`, so that the sum changes just when one of them does.
  have hlines := Text.left_anti (Text.breaks_drop_eq (framed inner outer t s ++ t.drop s.stop)) hle
  have hcommas := Text.left_anti (brokenCommas_drop_eq (framed inner outer t s)) hle
  have hlinesIff :=
    Text.left_lt_iff (Text.breaks_drop_eq (framed inner outer t s ++ t.drop s.stop)) hle
  have hcommasIff := Text.left_lt_iff (brokenCommas_drop_eq (framed inner outer t s)) hle
  rw [exists_shifted_iff ha fun j haj hjb => by
    rw [endsLineAt_framed hs _ (ha.trans haj) (by omega)]] at hlinesIff
  rw [exists_shifted_iff ha fun j haj hjb =>
    breaksAt_framed_iff hs (ha.trans haj) (by omega)] at hcommasIff
  rw [Text.line_ne_iff hab, ← hlinesIff, ← hcommasIff]
  omega

theorem drop_placeOf (hinner : inner ≠ []) (hs : s.stop ≤ t.length) {a : Nat}
    (ha : s.start ≤ a) (hstop : a < s.stop) (h : t[a]? ≠ some ' ') :
    (relaid inner outer t s).drop (placeOf inner outer t s a) =
      breakCommas inner (t.slice a s.stop ++ '\n' :: outer) ++ t.drop s.stop := by
  have hstart := s.start_le_stop
  have hlength : (t.take s.start).length = s.start := by
    rw [List.length_take]
    omega
  have hcarried : (framed inner outer t s)[1 + inner.length + (a - s.start)]? ≠ some ' ' := by
    rw [getElem?_framed hs ha hstop]
    exact h
  rw [relaid, placeOf, Text.splice, List.append_assoc, ← List.drop_drop, List.drop_left' hlength,
    List.drop_append_of_le_length (drop_carried hinner _ _).1, drop_carried_eq hinner hcarried,
    drop_framed hs ha hstop.le]

end

variable (o : Options) (t : Text) (n signature : Node)

def outerBlanks : Text :=
  o.blanks (o.levelOf (t.positionAt n.span.start).character)

def innerBlanks : Text :=
  o.blanks (o.levelOf (t.positionAt n.span.start).character + 1)

def newStart (p : Node) : Nat :=
  placeOf (innerBlanks o t n) (outerBlanks o t n) t signature.span p.span.start

def fixedText : Text :=
  relaid (innerBlanks o t n) (outerBlanks o t n) t signature.span

def Separated (p q : Node) : Prop :=
  ∃ j, p.span.stop ≤ j ∧ j < q.span.start ∧ (t.endsLineAt j ∨ SplitsAt t signature.span j)

variable {o t n signature}

theorem innerBlanks_ne_nil : innerBlanks o t n ≠ [] :=
  o.blanks_succ_ne_nil _

theorem isLineBreak_of_mem_innerBlanks {c : Char} (h : c ∈ innerBlanks o t n) :
    isLineBreak c = false :=
  Options.isLineBreak_of_mem_blanks h

theorem newStart_of_column_zero (h : (t.positionAt n.span.start).character = 0) (p : Node) :
    newStart o t n signature p =
      placeOf (o.blanks 1) (o.blanks 0) t signature.span p.span.start := by
  rw [newStart, innerBlanks, outerBlanks, h, Options.levelOf_zero]

theorem fixedText_of_column_zero (h : (t.positionAt n.span.start).character = 0) :
    fixedText o t n signature = relaid (o.blanks 1) (o.blanks 0) t signature.span := by
  rw [fixedText, innerBlanks, outerBlanks, h, Options.levelOf_zero]

theorem apply_rewritten {limits : Limits} (hs : signature.span.stop ≤ t.length) :
    (signature.replace (rewritten o t n signature)).apply limits t =
      .ok (fixedText o t n signature) := by
  have hstop := signature.stop_replace (rewritten o t n signature)
  rw [Fix.apply_of_le (by omega), hstop]
  rfl

theorem line_lt_newStart (hs : signature.span.stop ≤ t.length)
    (hn : n.span.start ≤ signature.span.start) {p : Node}
    (hp : p.span.start < signature.span.stop) :
    ((fixedText o t n signature).positionAt n.span.start).line <
      ((fixedText o t n signature).positionAt (newStart o t n signature p)).line :=
  (Text.line_mono hn).trans_lt
    (line_start_lt_placeOf innerBlanks_ne_nil (fun _ => isLineBreak_of_mem_innerBlanks) hs hp)

/-- Two parameters come to be on different lines if they were or if the line is broken at a comma
between them. -/
theorem line_newStart_ne_iff (hs : signature.span.stop ≤ t.length) {p q : Node}
    (hp : signature.span.start ≤ p.span.start) (hpq : p.span.stop ≤ q.span.start)
    (hq : q.span.start < signature.span.stop) :
    ((fixedText o t n signature).positionAt (newStart o t n signature p)).line ≠
        ((fixedText o t n signature).positionAt (newStart o t n signature q)).line ↔
      p.line t ≠ q.line t ∨
        ∃ j, p.span.start ≤ j ∧ j < q.span.start ∧ SplitsAt t signature.span j :=
  line_placeOf_ne_iff innerBlanks_ne_nil (fun _ => isLineBreak_of_mem_innerBlanks) hs hp
    (p.span.start_le_stop.trans hpq) hq

theorem Separated.line_newStart_ne {p q : Node} (h : Separated t signature p q)
    (hs : signature.span.stop ≤ t.length) (hp : signature.span.start ≤ p.span.start)
    (hq : q.span.start < signature.span.stop) :
    ((fixedText o t n signature).positionAt (newStart o t n signature p)).line ≠
      ((fixedText o t n signature).positionAt (newStart o t n signature q)).line := by
  obtain ⟨j, hpj, hjq, hends⟩ := h
  have hle := p.span.start_le_stop
  rw [line_newStart_ne_iff hs hp (hpj.trans hjq.le) hq]
  rcases hends with hends | hsplits
  · exact Or.inl ((Text.line_ne_iff (by omega)).2 ⟨j, hle.trans hpj, hjq, hends⟩)
  · exact Or.inr ⟨j, hle.trans hpj, hjq, hsplits⟩

theorem inspect_eq_nil {o : Options} {t : Text} {n : Node} {starts : List Nat} (ho : o.Usable)
    (hn : n.InText t)
    (hstarts : ∀ signature ∈ n.firstChild? .syntaxList,
      (signature.childrenOf .parameter).map (·.span.start) = starts)
    (hlines : (n.span.start :: starts).IsChain fun a b =>
      (t.positionAt a).line ≠ (t.positionAt b).line) : inspect o t n = .ok [] := by
  rw [inspect_eq ho hn, violations]
  cases hsignature : n.firstChild? .syntaxList with
  | none => rfl
  | some signature =>
    have hplaces : (parameterLines t signature).map Prod.fst =
        starts.map fun a => (t.positionAt a).line := by
      rw [← hstarts signature hsignature, parameterLines, List.map_map, List.map_map]
      rfl
    have hchain : (n.line t :: (parameterLines t signature).map Prod.fst).IsChain (· ≠ ·) := by
      rw [hplaces]
      exact (List.isChain_map fun a => (t.positionAt a).line).2 hlines
    simp [crowds_eq_false_of_ne hchain]

/-- The fix puts the parameters behind the line of the constructor. Of two parameters in a row it
puts the second on another line if it was on one before, or if the line is broken at a comma
between them. When any two in a row are separated so, the fixed constructor is accepted. -/
theorem fix_parts_parameters (limits : Limits) (o : Options) (t : Text) (n : Node) (ho : o.Usable)
    (hn : n.Tidy)
    (ht : n.span.stop ≤ t.length)
    (hfull : ∀ signature ∈ n.firstChild? .syntaxList, ∀ p ∈ signature.childrenOf .parameter,
      p.span.start < p.span.stop) :
    ∃ found, inspect o t n = .ok found ∧ ∀ v ∈ found,
      n.firstChild? .syntaxList = some v.node ∧ ∃ f ∈ v.fix, ∃ fixed, f.apply limits t = .ok fixed ∧
        (∀ p ∈ v.node.childrenOf .parameter,
          (t[p.span.start]? ≠ some ' ' → fixed.drop (newStart o t n v.node p) =
            breakCommas (innerBlanks o t n)
              (t.slice p.span.start v.node.span.stop ++ '\n' :: outerBlanks o t n) ++
              t.drop v.node.span.stop) ∧
          (fixed.positionAt n.span.start).line <
            (fixed.positionAt (newStart o t n v.node p)).line) ∧
        (v.node.childrenOf .parameter).IsChain (fun p q =>
          (fixed.positionAt (newStart o t n v.node p)).line ≠
              (fixed.positionAt (newStart o t n v.node q)).line ↔
            p.line t ≠ q.line t ∨
              ∃ j, p.span.start ≤ j ∧ j < q.span.start ∧ SplitsAt t v.node.span j) ∧
        ((v.node.childrenOf .parameter).IsChain (Separated t v.node) →
          (v.node.childrenOf .parameter).IsChain (fun p q =>
            (fixed.positionAt (newStart o t n v.node p)).line ≠
              (fixed.positionAt (newStart o t n v.node q)).line) ∧
          ∀ n' : Node, n'.InText fixed → n'.span.start = n.span.start →
            (∀ signature ∈ n'.firstChild? .syntaxList,
              (signature.childrenOf .parameter).map (·.span.start) =
                (v.node.childrenOf .parameter).map (newStart o t n v.node)) →
            inspect o fixed n' = .ok []) := by
  refine ⟨_, inspect_eq ho (hn.inText ht), fun v hv => ?_⟩
  unfold violations at hv
  split at hv
  · simp at hv
  · rename_i signature hsignature
    split at hv
    swap
    · simp at hv
    rw [List.mem_singleton] at hv
    subst hv
    have hmem := Node.mem_children_of_firstChild? hsignature
    have hs := (hn.inText ht).child hmem |>.stop_le
    obtain ⟨hwithin, horder⟩ := pairwise_parameters hn hsignature
    have hinside : ∀ p ∈ signature.childrenOf .parameter,
        signature.span.start ≤ p.span.start ∧ p.span.start < signature.span.stop := fun p hp =>
      ⟨(hwithin p hp).1, (hfull signature hsignature p hp).trans_le (hwithin p hp).2⟩
    -- The rewritten list begins with a line break, and the constructor no later than the list.
    have hbegin : ∀ p ∈ signature.childrenOf .parameter,
        ((fixedText o t n signature).positionAt n.span.start).line <
          ((fixedText o t n signature).positionAt (newStart o t n signature p)).line := fun p hp =>
      line_lt_newStart hs ((hn n n.mem_preorder_self).start_le signature hmem) (hinside p hp).2
    refine ⟨hsignature, _, rfl, _, apply_rewritten hs, ?_, ?_, ?_⟩
    · intro p hp
      exact ⟨drop_placeOf innerBlanks_ne_nil hs (hinside p hp).1 (hinside p hp).2, hbegin p hp⟩
    · refine (List.Pairwise.imp_of_mem ?_ horder).isChain
      intro p q hp hq hpq
      exact line_newStart_ne_iff hs (hinside p hp).1 hpq (hinside q hq).2
    · intro hseparated
      have hlines := hseparated.imp_of_mem_imp fun p q hp hq hpq =>
        hpq.line_newStart_ne (o := o) (n := n) hs (hinside p hp).1 (hinside q hq).2
      -- The lines of the places are all that a second inspection looks at.
      refine ⟨hlines, fun n' hn' hstart hstarts => inspect_eq_nil ho hn' hstarts ?_⟩
      rw [List.isChain_cons, List.isChain_map, hstart]
      refine ⟨fun a ha => ?_, hlines⟩
      obtain ⟨p, hp, rfl⟩ := List.mem_map.1 (List.mem_of_mem_head? ha)
      exact (hbegin p hp).ne

def privateParameter (id : Nat) (span keyword : Span) : Node :=
  ⟨id, .parameter, span, [
    ⟨id + 1, .syntaxList, keyword, [⟨id + 2, .privateKeyword, keyword, []⟩]⟩]⟩

def spacedText : Text := "constructor(private a, b) {}".toList

def spacedList : Node :=
  ⟨1, .syntaxList, .between 12 12 24, [
    privateParameter 2 (.between 12 12 21) (.between 12 12 19),
    ⟨5, .parameter, .between 22 23 24, []⟩]⟩

def spaced : Node :=
  ⟨0, .constructor, .between 0 0 28, [spacedList]⟩

def spacedFixedText : Text := "constructor(\n    private a,\n    b\n) {}".toList

def spacedFixed : Node :=
  ⟨0, .constructor, .between 0 0 38, [
    ⟨1, .syntaxList, .between 12 17 33, [
      privateParameter 2 (.between 12 17 26) (.between 12 17 24),
      ⟨5, .parameter, .between 27 32 33, []⟩]⟩]⟩

theorem fix_parts_parameters_spaced : Options.Usable {} ∧ spaced.Tidy ∧
    spaced.span.stop ≤ spacedText.length ∧
    (∀ signature ∈ spaced.firstChild? .syntaxList, ∀ p ∈ signature.childrenOf .parameter,
      p.span.start < p.span.stop) ∧
    ∃ v f, inspect {} spacedText spaced = .ok [v] ∧ v.fix = some f ∧
      f.apply .usual spacedText = .ok spacedFixedText ∧
      inspect {} spacedFixedText spacedFixed = .ok [] := by
  have htidy : spaced.Tidy := by decide
  have hlength : spaced.span.stop ≤ spacedText.length := by decide
  have hfull : ∀ signature ∈ spaced.firstChild? .syntaxList,
      ∀ p ∈ signature.childrenOf .parameter, p.span.start < p.span.stop := by decide
  have hviolations : violations {} spacedText spaced =
      [violation {} spacedText spaced spacedList] := rfl
  obtain ⟨found, hfound, hall⟩ := fix_parts_parameters .usual {} spacedText spaced (by decide) htidy
    hlength hfull
  have hinspect := inspect_eq (o := {}) (by decide) (htidy.inText hlength)
  obtain rfl := Except.ok.inj (hfound.symm.trans hinspect)
  rw [hviolations] at hall hinspect
  obtain ⟨-, f, hf, fixed, hfixed, -, -, hclean⟩ := hall _ List.mem_cons_self
  obtain rfl := Option.some.inj hf
  have hcolumn : (spacedText.positionAt spaced.span.start).character = 0 := rfl
  have happly : (spacedList.replace (rewritten {} spacedText spaced spacedList)).apply .usual
      spacedText =
      .ok spacedFixedText := by
    rw [apply_rewritten (by decide), fixedText_of_column_zero hcolumn]
    rfl
  have hstarts : (spacedList.childrenOf .parameter).map
      (newStart {} spacedText spaced spacedList) = [17, 32] := by
    rw [List.map_congr_left fun p _ => newStart_of_column_zero hcolumn p]
    rfl
  obtain rfl := Except.ok.inj (hfixed.symm.trans happly)
  refine ⟨by decide, htidy, hlength, hfull, _, _, hinspect, rfl, happly, ?_⟩
  refine (hclean (.cons_cons ?_ (.singleton _))).2 spacedFixed ?_ rfl ?_
  · exact ⟨21, by decide, by decide, Or.inr (by decide)⟩
  · exact (show spacedFixed.Tidy by decide).inText (by decide)
  · intro signature hsignature
    obtain rfl := Option.some.inj hsignature
    exact hstarts.symm

def unspacedText : Text := "constructor(private a,private b){}".toList

def unspacedList : Node :=
  ⟨1, .syntaxList, .between 12 12 31, [
    privateParameter 2 (.between 12 12 21) (.between 12 12 19),
    privateParameter 5 (.between 22 22 31) (.between 22 22 29)]⟩

def unspaced : Node :=
  ⟨0, .constructor, .between 0 0 34, [unspacedList]⟩

def unspacedFixedText : Text := "constructor(\n    private a,private b\n){}".toList

def unspacedFixedList : Node :=
  ⟨1, .syntaxList, .between 12 17 36, [
    privateParameter 2 (.between 12 17 26) (.between 12 17 24),
    privateParameter 5 (.between 27 27 36) (.between 27 27 34)]⟩

def unspacedFixed : Node :=
  ⟨0, .constructor, .between 0 0 40, [unspacedFixedList]⟩

/-- A comma alone does not separate: the fixed constructor is crowded as before. -/
theorem unspaced_stays_crowded : Options.Usable {} ∧ unspaced.Tidy ∧
    unspaced.span.stop ≤ unspacedText.length ∧
    (∀ signature ∈ unspaced.firstChild? .syntaxList,
      (∀ p ∈ signature.childrenOf .parameter, p.span.start < p.span.stop) ∧
      (signature.childrenOf .parameter).IsChain fun p q =>
        ',' ∈ unspacedText.slice p.span.stop q.span.start) ∧
    ∃ v f fixed, inspect {} unspacedText unspaced = .ok [v] ∧
      unspaced.firstChild? .syntaxList = some v.node ∧ v.fix = some f ∧
      f.apply .usual unspacedText = .ok fixed ∧
      ¬ (v.node.childrenOf .parameter).IsChain (fun p q =>
        (fixed.positionAt (newStart {} unspacedText unspaced v.node p)).line ≠
          (fixed.positionAt (newStart {} unspacedText unspaced v.node q)).line) ∧
      unspacedFixed.InText fixed ∧
      (∀ signature ∈ unspacedFixed.firstChild? .syntaxList,
        (signature.childrenOf .parameter).map (·.span.start) =
          (v.node.childrenOf .parameter).map (newStart {} unspacedText unspaced v.node)) ∧
      ∃ w, inspect {} fixed unspacedFixed = .ok [w] := by
  have htidy : unspaced.Tidy := by decide
  have hlength : unspaced.span.stop ≤ unspacedText.length := by decide
  have hcolumn : (unspacedText.positionAt unspaced.span.start).character = 0 := rfl
  have hviolations : violations {} unspacedText unspaced =
      [violation {} unspacedText unspaced unspacedList] := rfl
  have hinspect := inspect_eq (o := {}) (by decide) (htidy.inText hlength)
  rw [hviolations] at hinspect
  have happly : (unspacedList.replace (rewritten {} unspacedText unspaced unspacedList)).apply
      .usual unspacedText = .ok unspacedFixedText := by
    rw [apply_rewritten (by decide), fixedText_of_column_zero hcolumn]
    rfl
  have hstarts : (unspacedList.childrenOf .parameter).map
      (newStart {} unspacedText unspaced unspacedList) = [17, 27] := by
    rw [List.map_congr_left fun p _ => newStart_of_column_zero hcolumn p]
    rfl
  have hin : unspacedFixed.InText unspacedFixedText :=
    (show unspacedFixed.Tidy by decide).inText (by decide)
  have hagain : violations {} unspacedFixedText unspacedFixed =
      [violation {} unspacedFixedText unspacedFixed
        unspacedFixedList] := rfl
  refine ⟨by decide, htidy, hlength, ?_, _, _, _, hinspect, rfl, rfl, happly, ?_, hin, ?_, _,
    (inspect_eq (by decide) hin).trans (congrArg Except.ok hagain)⟩
  · decide
  · have hlines : ¬ [17, 27].IsChain fun a b =>
        (unspacedFixedText.positionAt a).line ≠ (unspacedFixedText.positionAt b).line := by
      decide
    rw [← hstarts, List.isChain_map] at hlines
    exact hlines
  · intro signature hsignature
    obtain rfl := Option.some.inj hsignature
    exact hstarts.symm

end LayoutLint.Constructor
