import LayoutLint.Proofs.ConstructorFix

/-! What becomes of the text of a parameter when its list is rewritten. The rewriting goes from the
left to the right and copies what it does not break, so a part of the list comes through whole
unless a break takes out a space of it. The breaks go by commas and spaces alone, and those of a
literal or of type arguments are taken for separators like any others. -/
namespace LayoutLint

namespace Text

/-- The pieces stand in the text one after the other, with anything around and between them. -/
inductive InOrder : List Text → Text → Prop where
  | nil {t : Text} : InOrder [] t
  | cons (before piece : Text) {pieces : List Text} {rest : Text} (h : InOrder pieces rest) :
      InOrder (piece :: pieces) (before ++ piece ++ rest)

theorem InOrder.append_left {pieces : List Text} {t : Text} (h : InOrder pieces t) (u : Text) :
    InOrder pieces (u ++ t) := by
  cases h with
  | nil => exact .nil
  | cons before piece h =>
    rw [← List.append_assoc, ← List.append_assoc]
    exact .cons (u ++ before) piece h

theorem InOrder.infix_of_mem {pieces : List Text} {t piece : Text} (h : InOrder pieces t)
    (hpiece : piece ∈ pieces) : piece <:+: t := by
  induction h with
  | nil => cases hpiece
  | @cons before first pieces rest _ ih =>
    rcases List.mem_cons.1 hpiece with rfl | hpiece
    · exact ⟨before, rest, rfl⟩
    · exact (ih hpiece).trans (List.suffix_append ..).isInfix

theorem slice_eq_cons {t : Text} {i k : Nat} (hi : i < t.length) (hik : i < k) :
    t.slice i k = t[i] :: t.slice (i + 1) k := by
  have hwidth : k - i = k - (i + 1) + 1 := by omega
  rw [slice, slice, hwidth, List.drop_eq_getElem_cons hi, List.take_succ_cons]

end Text

namespace Constructor

section

variable (indent : Text) {t : Text}

theorem breakCommas_stretch {i k : Nat} (hik : i ≤ k) (hk : k ≤ t.length)
    (h : ∀ j, i ≤ j → j < k → breaksAt t j = false) :
    breakCommas indent (t.drop i) = t.slice i k ++ breakCommas indent (t.drop k) := by
  obtain ⟨n, rfl⟩ := Nat.exists_eq_add_of_le hik
  induction n generalizing i with
  | zero => rw [Nat.add_zero, Text.slice_self, List.nil_append]
  | succ n ih =>
    have hindex : i + (n + 1) = i + 1 + n := by omega
    have hi : i < t.length := by omega
    rw [breakCommas_drop_of_not hi (h i (Nat.le_refl i) (by omega)),
      Text.slice_eq_cons hi (by omega), hindex,
      ih (by omega) (by omega) fun j hj hjk => h j (by omega) (by omega), List.cons_append]

theorem exists_breakCommas_drop {i a : Nat} (hia : i ≤ a) (ha : a ≤ t.length)
    (h : ∀ j, j + 1 = a → breaksAt t j = false) :
    ∃ before, breakCommas indent (t.drop i) = before ++ breakCommas indent (t.drop a) := by
  rcases Nat.eq_or_lt_of_le hia with rfl | hlt
  · exact ⟨[], rfl⟩
  cases hbreak : breaksAt t i with
  | false =>
    obtain ⟨before, hbefore⟩ := exists_breakCommas_drop (i := i + 1) (by omega) ha h
    refine ⟨t[i] :: before, ?_⟩
    rw [breakCommas_drop_of_not (by omega) hbreak, hbefore, List.cons_append]
  | true =>
    have hnext : i + 1 ≠ a := fun heq => by simp [h i heq] at hbreak
    obtain ⟨before, hbefore⟩ := exists_breakCommas_drop (i := i + 2) (by omega) ha h
    refine ⟨',' :: '\n' :: indent ++ before, ?_⟩
    rw [breakCommas_drop_of_breaksAt hbreak, hbefore, List.append_assoc]
termination_by a - i

/-- No break takes out a character of the text between two offsets. -/
def Uncut (t : Text) (a b : Nat) : Prop :=
  ∀ j, breaksAt t j → j + 1 < a ∨ b ≤ j + 1

theorem exists_breakCommas_uncut {a b : Nat} (hab : a < b) (hb : b ≤ t.length)
    (h : Uncut t a b) : ∃ glue k,
      breakCommas indent (t.drop a) = t.slice a b ++ (glue ++ breakCommas indent (t.drop k)) ∧
        (k = b ∨ k = b + 1 ∧ breaksAt t (b - 1)) := by
  have hinside : ∀ j, a ≤ j → j < b - 1 → breaksAt t j = false := by
    intro j haj hjb
    refine Bool.eq_false_iff.2 fun hbreak => ?_
    rcases h j hbreak with hj | hj <;> omega
  -- Only a comma that ends the part can be one at which the line is broken.
  cases hlast : breaksAt t (b - 1) with
  | false =>
    refine ⟨[], b, ?_, Or.inl rfl⟩
    rw [List.nil_append]
    refine breakCommas_stretch indent hab.le hb fun j haj hjb => ?_
    rcases Nat.lt_or_ge j (b - 1) with hj | hj
    · exact hinside j haj hj
    · obtain rfl : j = b - 1 := by omega
      exact hlast
  | true =>
    refine ⟨'\n' :: indent, b + 1, ?_, Or.inr ⟨rfl, rfl⟩⟩
    have hcomma : t.slice (b - 1) b = [','] := by
      have hat := (breaksAt_iff.1 hlast).1
      have hnext : b - 1 + 1 = b := by omega
      rw [List.getElem?_eq_getElem (show b - 1 < t.length by omega), Option.some.injEq] at hat
      rw [Text.slice_eq_cons (show b - 1 < t.length by omega) (by omega), hat, hnext,
        Text.slice_self]
    have hbehind : b - 1 + 2 = b + 1 := by omega
    rw [breakCommas_stretch indent (show a ≤ b - 1 by omega) (by omega) hinside,
      breakCommas_drop_of_breaksAt hlast, hbehind,
      ← Text.slice_append_slice t (show a ≤ b - 1 by omega) (show b - 1 ≤ b by omega), hcomma]
    simp

theorem inOrder_breakCommas {parts : List (Nat × Nat)}
    (hparts : ∀ p ∈ parts, p.1 ≤ p.2 ∧ p.2 ≤ t.length ∧ Uncut t p.1 p.2)
    (hsorted : parts.Pairwise fun p q => p.2 ≤ q.1) {i : Nat}
    (hi : ∀ p ∈ parts, p.1 < p.2 → i ≤ p.1) :
    Text.InOrder (parts.map fun p => t.slice p.1 p.2) (breakCommas indent (t.drop i)) := by
  induction parts generalizing i with
  | nil => exact .nil
  | cons p rest ih =>
    obtain ⟨a, b⟩ := p
    rw [List.pairwise_cons] at hsorted
    simp only [List.forall_mem_cons] at hparts hi
    obtain ⟨⟨hab, hb, huncut⟩, hrest⟩ := hparts
    rw [List.map_cons]
    -- An empty part is found anywhere, even where a break takes out a character.
    rcases Nat.eq_or_lt_of_le hab with rfl | hlt
    · rw [Text.slice_self]
      exact .cons [] [] (ih hrest hsorted.2 hi.2)
    · obtain ⟨before, hbefore⟩ := exists_breakCommas_drop indent (hi.1 hlt) (hlt.le.trans hb)
        fun j hj => Bool.eq_false_iff.2 fun hbreak => by
          rcases huncut j hbreak with h | h <;> omega
      obtain ⟨glue, k, hpiece, hk⟩ := exists_breakCommas_uncut indent hlt hb huncut
      have hbehind : ∀ q ∈ rest, q.1 < q.2 → k ≤ q.1 := by
        intro q hq hfull
        have hbq := hsorted.1 q hq
        rcases hk with rfl | ⟨rfl, hbreak⟩
        · exact hbq
        · -- The space behind the comma is gone, and no part begins with it.
          rcases (hrest q hq).2.2 (b - 1) hbreak with h | h <;> omega
      rw [hbefore, hpiece, ← List.append_assoc]
      exact .cons before _ ((ih hrest hsorted.2 hbehind).append_left glue)

end

theorem not_infix_breakCommas {indent : Text} (hindent : ',' ∉ indent) (t : Text) {piece : Text}
    {m : Nat} (hm : m + 2 < piece.length) (hbreak : breaksAt piece m) :
    ¬ piece <:+: breakCommas indent t := by
  rintro ⟨before, after, hsplit⟩
  have hat : ∀ i < piece.length, (breakCommas indent t)[before.length + i]? = piece[i]? := by
    intro i hi
    rw [← hsplit, List.append_assoc, List.getElem?_append_right (Nat.le_add_right ..),
      Nat.add_sub_cancel_left, List.getElem?_append_left hi]
  refine not_breaksAt_breakCommas hindent t (before.length + m) ?_
  rw [breaksAt_iff] at hbreak ⊢
  rw [Nat.add_assoc, Nat.add_assoc, hat m (by omega), hat (m + 1) (by omega), hat (m + 2) hm]
  exact hbreak

def Spared (t : Text) (s : Span) (p : Node) : Prop :=
  ∀ j, s.start ≤ j → SplitsAt t s j → j + 1 < p.span.start ∨ p.span.stop ≤ j + 1

instance (t : Text) (s : Span) (p : Node) : Decidable (Spared t s p) :=
  decidable_of_iff
    (∀ j < s.stop, s.start ≤ j → SplitsAt t s j → j + 1 < p.span.start ∨ p.span.stop ≤ j + 1)
    ⟨fun h j hj hsplits => h j (Nat.lt_of_add_right_lt hsplits.2.2.1) hj hsplits,
      fun h j _ => h j⟩

def framedPlace (inner : Text) (s : Span) (offset : Nat) : Nat :=
  1 + inner.length + (offset - s.start)

section

variable {inner outer t : Text} {s : Span}

theorem slice_framed (hs : s.stop ≤ t.length) {a b : Nat} (ha : s.start ≤ a) (hab : a ≤ b)
    (hb : b ≤ s.stop) :
    (framed inner outer t s).slice (framedPlace inner s a) (framedPlace inner s b) =
      t.slice a b := by
  have hwidth : framedPlace inner s b - framedPlace inner s a = b - a := by
    unfold framedPlace
    omega
  have hfits : b - a ≤ (t.slice a s.stop).length := by
    rw [Text.length_slice]
    omega
  rw [Text.slice, hwidth, framedPlace, drop_framed hs ha (hab.trans hb),
    List.take_append_of_le_length hfits, Text.slice, List.take_take, Nat.min_eq_left (by omega),
    Text.slice]

theorem Spared.uncut_framed {p : Node} (h : Spared t s p) (hinner : ',' ∉ inner)
    (hs : s.stop ≤ t.length) (hstart : s.start ≤ p.span.start) (hstop : p.span.stop ≤ s.stop) :
    Uncut (framed inner outer t s) (framedPlace inner s p.span.start)
      (framedPlace inner s p.span.stop) := by
  intro k hk
  unfold framedPlace
  have hcomma := (breaksAt_iff.1 hk).1
  rcases Nat.lt_or_ge k ('\n' :: inner).length with hframe | hlist
  · -- The line break and the blanks before the list have no comma.
    rw [framed, List.append_assoc, List.getElem?_append_left hframe] at hcomma
    have hmem := List.mem_of_getElem? hcomma
    simp [hinner] at hmem
  · rw [List.length_cons] at hlist
    obtain ⟨j, hj, rfl⟩ : ∃ j, s.start ≤ j ∧ k = 1 + inner.length + (j - s.start) :=
      ⟨s.start + (k - (1 + inner.length)), by omega, by omega⟩
    have hle := p.span.start_le_stop
    rcases Nat.lt_or_ge (j + 1) s.stop with hinside | hend
    · rcases h j hj ((breaksAt_framed_iff hs hj hinside).1 hk) with hbefore | hbehind <;> omega
    · omega

theorem inOrder_framed {ps : List Node} (hinner : ',' ∉ inner) (hs : s.stop ≤ t.length)
    (hps : ∀ p ∈ ps, s.start ≤ p.span.start ∧ p.span.stop ≤ s.stop)
    (hsorted : ps.Pairwise fun p q => p.span.stop ≤ q.span.start)
    (hspared : ∀ p ∈ ps, Spared t s p) :
    Text.InOrder (ps.map (·.span.text t)) (breakCommas inner (framed inner outer t s)) := by
  have hlength : (framed inner outer t s).length = _ := length_framed hs
  have htexts : ps.map (·.span.text t) =
      (ps.map fun p => (framedPlace inner s p.span.start, framedPlace inner s p.span.stop)).map
        fun part => (framed inner outer t s).slice part.1 part.2 := by
    rw [List.map_map]
    refine List.map_congr_left fun p hp => ?_
    exact (slice_framed hs (hps p hp).1 p.span.start_le_stop (hps p hp).2).symm
  rw [htexts]
  refine inOrder_breakCommas (i := 0) inner ?_ ?_ fun _ _ _ => Nat.zero_le _
  · intro part hpart
    obtain ⟨p, hp, rfl⟩ := List.mem_map.1 hpart
    obtain ⟨hstart, hstop⟩ := hps p hp
    have hle := p.span.start_le_stop
    refine ⟨?_, ?_, (hspared p hp).uncut_framed hinner hs hstart hstop⟩
    all_goals
      unfold framedPlace
      omega
  · rw [List.pairwise_map]
    refine hsorted.imp fun hpq => ?_
    unfold framedPlace
    omega

end

theorem comma_notMem_innerBlanks (o : Options) (t : Text) (n : Node) : ',' ∉ innerBlanks o t n :=
  o.comma_notMem_blanks _

theorem not_infix_of_splitsAt {o : Options} {t : Text} {n : Node} {s : Span} {u : Text} {p : Node}
    (hp : p.span.stop ≤ t.length) {j : Nat} (hsplits : SplitsAt t s j)
    (hstart : p.span.start ≤ j) (hstop : j + 2 < p.span.stop) :
    ¬ p.span.text t <:+: breakCommas (innerBlanks o t n) u := by
  have hat : ∀ i, j + i < p.span.stop → (p.span.text t)[j - p.span.start + i]? = t[j + i]? := by
    intro i hi
    have hback : p.span.start + (j - p.span.start + i) = j + i := by omega
    rw [Span.text, Text.slice, List.getElem?_take_of_lt (by omega), List.getElem?_drop, hback]
  refine not_infix_breakCommas (comma_notMem_innerBlanks o t n) u (m := j - p.span.start) ?_ ?_
  · rw [length_text hp]
    omega
  · obtain ⟨hcomma, hspace, -, hnext⟩ := hsplits
    rw [breaksAt_iff, hat 1 (by omega), hat 2 hstop]
    exact ⟨(hat 0 (by omega)).trans hcomma, hspace, hnext⟩

/-- The fix of a constructor leaves the texts of its parameters as they are and in order, unless
the line is broken at a comma and a space inside of one. That one is not found in the new text at
all. -/
theorem fix_keeps_parameters (o : Options) (t : Text) (n : Node) (hn : n.Tidy)
    (hlength : n.span.stop ≤ t.length) {found : List Violation}
    (h : inspect o t n = .ok found) :
    ∀ v ∈ found, n.firstChild? .syntaxList = some v.node ∧ ∃ f, v.fix = some f ∧
      ((∀ p ∈ v.node.childrenOf .parameter, Spared t v.node.span p) →
        Text.InOrder ((v.node.childrenOf .parameter).map (·.span.text t)) f.insert) ∧
      ∀ p ∈ v.node.childrenOf .parameter, ∀ j, SplitsAt t v.node.span j →
        p.span.start ≤ j → j + 2 < p.span.stop → ¬ p.span.text t <:+: f.insert := by
  have hin := hn.inText hlength
  rw [inspect_eq_outcome hin] at h
  obtain rfl := Options.eq_of_outcome_eq_ok h
  intro v hv
  obtain ⟨signature, hsignature, -, rfl⟩ := exists_of_mem_violations hv
  have hlist := hin.child (Node.mem_children_of_firstChild? hsignature)
  obtain ⟨hwithin, horder⟩ := pairwise_parameters hn hsignature
  refine ⟨hsignature, _, rfl, ?_, ?_⟩
  · exact inOrder_framed (comma_notMem_innerBlanks o t n) hlist.stop_le hwithin horder
  · intro p hp j hsplits hstart hstop
    exact not_infix_of_splitsAt ((hwithin p hp).2.trans hlist.stop_le) hsplits hstart hstop

def literalText : Text := "constructor(private a = 'x,y', b) {}".toList

def literalList : Node :=
  ⟨1, .syntaxList, .between 12 12 32, [
    privateParameter 2 (.between 12 12 29) (.between 12 12 19),
    ⟨5, .parameter, .between 30 31 32, []⟩]⟩

def literal : Node :=
  ⟨0, .constructor, .between 0 0 36, [literalList]⟩

theorem fix_keeps_parameters_literal : literal.Tidy ∧ literal.span.stop ≤ literalText.length ∧
    (∀ p ∈ literalList.childrenOf .parameter, Spared literalText literalList.span p) ∧
    ∃ v f, inspect {} literalText literal = .ok [v] ∧ v.node = literalList ∧ v.fix = some f ∧
      Text.InOrder ["private a = 'x,y'".toList, ['b']] f.insert := by
  have htidy : literal.Tidy := by decide
  have hlength : literal.span.stop ≤ literalText.length := by decide
  have hspared : ∀ p ∈ literalList.childrenOf .parameter,
      Spared literalText literalList.span p := by decide
  have hviolations : violations {} literalText literal =
      [violation {} literalText literal literalList] := rfl
  have hinspect := inspect_eq (o := {}) (by decide) (htidy.inText hlength)
  rw [hviolations] at hinspect
  obtain ⟨-, f, hf, hkept, -⟩ :=
    fix_keeps_parameters {} literalText literal htidy hlength hinspect _ List.mem_cons_self
  have htexts : (literalList.childrenOf .parameter).map (·.span.text literalText) =
      ["private a = 'x,y'".toList, ['b']] := by decide
  have horder := hkept hspared
  exact ⟨htidy, hlength, hspared, _, f, hinspect, rfl, hf, htexts ▸ horder⟩

def spacedLiteralText : Text := "constructor(private a = 'x, y') {}".toList

def spacedLiteralList : Node :=
  ⟨1, .syntaxList, .between 12 12 30, [
    privateParameter 2 (.between 12 12 30) (.between 12 12 19)]⟩

def spacedLiteral : Node :=
  ⟨0, .constructor, .between 0 0 34, [spacedLiteralList]⟩

/-- The fix breaks the line inside of the literal. -/
theorem spacedLiteral_is_cut : spacedLiteral.Tidy ∧
    spacedLiteral.span.stop ≤ spacedLiteralText.length ∧
    ∃ v f, inspect {} spacedLiteralText spacedLiteral = .ok [v] ∧
      spacedLiteral.firstChild? .syntaxList = some v.node ∧ v.fix = some f ∧
      f.insert = "\n    private a = 'x,\n    y'\n".toList ∧
      ¬ Text.InOrder ((v.node.childrenOf .parameter).map (·.span.text spacedLiteralText))
        f.insert := by
  have htidy : spacedLiteral.Tidy := by decide
  have hlength : spacedLiteral.span.stop ≤ spacedLiteralText.length := by decide
  have hviolations : violations {} spacedLiteralText spacedLiteral =
      [violation {} spacedLiteralText spacedLiteral spacedLiteralList] := rfl
  have hinspect := inspect_eq (o := {}) (by decide) (htidy.inText hlength)
  rw [hviolations] at hinspect
  have hcolumn : (spacedLiteralText.positionAt spacedLiteral.span.start).character = 0 := rfl
  have hinsert : rewritten {} spacedLiteralText spacedLiteral spacedLiteralList =
      "\n    private a = 'x,\n    y'\n".toList := by
    rw [rewritten, hcolumn, Options.levelOf_zero]
    rfl
  have hsplits : SplitsAt spacedLiteralText spacedLiteralList.span 26 := by decide
  refine ⟨htidy, hlength, _, _, hinspect, rfl, rfl, hinsert, fun horder => ?_⟩
  exact not_infix_of_splitsAt (by decide) hsplits (by decide) (by decide)
    (horder.infix_of_mem List.mem_cons_self)

end Constructor

end LayoutLint
