import LayoutLint.Check.Measure
import LayoutLint.Proofs.Nesting

/-! Measures that cannot fail: positions of nodes that lie in the text, and indentation under
options that can build it. -/
namespace LayoutLint

/-- The span of three offsets, each raised to the one before it if it is smaller. -/
def Span.between (fullStart start stop : Nat) : Span where
  fullStart
  start := max fullStart start
  stop := max (max fullStart start) stop

namespace Options

/-- Indentation can be built: tabs always, a unit of spaces only below the limit. -/
def Usable (o : Options) : Prop :=
  o.useTabs ∨ o.size < countLimit

instance (o : Options) : Decidable o.Usable :=
  inferInstanceAs (Decidable (o.useTabs ∨ o.size < countLimit))

@[simp] theorem levelOf_zero (o : Options) : o.levelOf 0 = 0 := by
  unfold levelOf
  generalize Nat.pow 2 1075 = limit
  rw [Nat.zero_mul, if_pos (Nat.zero_le _), ite_self]

theorem not_usable_iff {o : Options} :
    ¬ o.Usable ↔ o.useTabs = false ∧ countLimit ≤ o.size := by
  rw [Usable, not_or, Bool.not_eq_true, Nat.not_lt]

theorem indentWithin_natCast (longest : Option Nat) (o : Options) (level : Nat) :
    o.indentWithin longest level =
      if ¬ o.Usable ∨ longest.any (· < level) then .error .countTooLarge
      else if longest.any (· < level * o.unitWidth) then .error .repeatedTooLong
      else .ok (o.blanks level) := by
  have hlevel : Quantity.level.check level = .ok level :=
    Quantity.check_eq_ok_iff.2 ⟨rfl, Nat.zero_le _⟩
  simp only [indentWithin, hlevel, bind, Except.bind, not_usable_iff, Bool.or_eq_true,
    Bool.and_eq_true, Bool.not_eq_true', decide_eq_true_eq]

theorem indent_eq_blanks {o : Options} (h : o.Usable) (level : Nat) :
    o.indent level = .ok (o.blanks level) := by
  rw [indent, indentWithin_natCast, if_neg (by simpa using h)]
  rfl

theorem indent_eq_error {o : Options} (h : ¬ o.Usable) (level : Nat) :
    o.indent level = .error .countTooLarge := by
  rw [indent, indentWithin_natCast, if_pos (Or.inl h)]

theorem indentOf_eq_indent {o : Options} {level : Nat} (hlevel : level < countLimit)
    (hlength : level * o.unitWidth < countLimit) : o.indentOf level = o.indent level := by
  have hroom : ∀ n, n < countLimit → (some (countLimit - 1)).any (· < n) = false := fun n hn => by
    simpa using Nat.le_sub_one_of_lt hn
  rw [indent, indentOf, indentWithin_natCast, indentWithin_natCast, hroom _ hlevel,
    hroom _ hlength]
  rfl

theorem mem_blanks {o : Options} {level : Nat} {c : Char} (h : c ∈ o.blanks level) :
    c = '\t' ∨ c = ' ' := by
  rw [List.eq_of_mem_replicate h, blank]
  split
  · exact Or.inl rfl
  · exact Or.inr rfl

theorem isLineBreak_of_mem_blanks {o : Options} {level : Nat} {c : Char}
    (h : c ∈ o.blanks level) : isLineBreak c = false := by
  rcases mem_blanks h with rfl | rfl
  · rfl
  · rfl

theorem filter_blanks (o : Options) (level : Nat) {p : Char → Bool} (htab : p '\t' = false)
    (hspace : p ' ' = false) : (o.blanks level).filter p = [] := by
  rw [List.filter_eq_nil_iff]
  intro c hc
  rcases mem_blanks hc with rfl | rfl
  · simp [htab]
  · simp [hspace]

theorem comma_notMem_blanks (o : Options) (level : Nat) : ',' ∉ o.blanks level := by
  intro h
  rcases mem_blanks h with h | h <;> exact absurd h (by decide)

theorem blanks_succ_ne_nil (o : Options) (level : Nat) : o.blanks (level + 1) ≠ [] := by
  have hwidth : 0 < o.unitWidth := by
    unfold unitWidth
    split
    · exact Nat.one_pos
    · exact o.size_pos
  rw [blanks, ne_eq, List.replicate_eq_nil_iff, Nat.mul_eq_zero, not_or]
  exact ⟨Nat.succ_ne_zero level, Nat.ne_of_gt hwidth⟩

end Options

namespace Node

def line (n : Node) (t : Text) : Nat :=
  (t.positionAt n.span.start).line

def lastLine (n : Node) (t : Text) : Nat :=
  (t.positionAt n.span.stop).line

def InText (root : Node) (t : Text) : Prop :=
  ∀ n ∈ root.preorder, n.span.stop ≤ t.length

instance (root : Node) (t : Text) : Decidable (root.InText t) :=
  inferInstanceAs (Decidable (∀ n ∈ root.preorder, n.span.stop ≤ t.length))

theorem InText.of_mem {root n : Node} {t : Text} (h : root.InText t) (hn : n ∈ root.preorder) :
    n.InText t :=
  fun m hm => h m (mem_preorder_trans hm hn)

theorem InText.stop_le {root : Node} {t : Text} (h : root.InText t) :
    root.span.stop ≤ t.length :=
  h root root.mem_preorder_self

theorem InText.child {n c : Node} {t : Text} (h : n.InText t) (hc : c ∈ n.children) :
    c.InText t :=
  h.of_mem (mem_preorder_of_mem_children hc)

theorem Tidy.inText {root : Node} {t : Text} (h : root.Tidy)
    (hroot : root.span.stop ≤ t.length) : root.InText t :=
  fun _ hn => (h.stop_le hn).trans hroot

theorem WellNested.inText {root : Node} {t : Text} (h : root.WellNested)
    (hroot : root.span.stop ≤ t.length) : root.InText t :=
  h.tidy.inText hroot

theorem startPosition_of_le {n : Node} {t : Text} (h : n.span.start ≤ t.length) :
    n.startPosition t = .ok (t.positionAt n.span.start) :=
  Text.position_natCast h

theorem startPosition_of_lt {n : Node} {t : Text} (h : t.length < n.span.start) :
    n.startPosition t = .error (.offsetOutside n.span.start t.length) :=
  Text.position_natCast_of_lt h

theorem startPosition_eq {n : Node} {t : Text} (h : n.span.stop ≤ t.length) :
    n.startPosition t = .ok (t.positionAt n.span.start) :=
  startPosition_of_le (n.span.start_le_stop.trans h)

theorem endPosition_eq {n : Node} {t : Text} (h : n.span.stop ≤ t.length) :
    n.endPosition t = .ok (t.positionAt n.span.stop) :=
  Text.position_natCast h

theorem endPosition_of_lt {n : Node} {t : Text} (h : t.length < n.span.stop) :
    n.endPosition t = .error (.offsetOutside n.span.stop t.length) :=
  Text.position_natCast_of_lt h

theorem sharesLine_eq {n next : Node} {t : Text} (hn : n.span.stop ≤ t.length)
    (hnext : next.span.start ≤ t.length) :
    n.sharesLine next t = .ok (decide (n.lastLine t = next.line t)) := by
  rw [sharesLine, endPosition_eq hn, startPosition_of_le hnext]
  rfl

theorem indentLevel_of_le {n : Node} {t : Text} (h : n.span.start ≤ t.length) (o : Options)
    (discount : Nat) : n.indentLevel o t discount =
      .ok (o.levelOf ((t.positionAt n.span.start).character - discount)) := by
  rw [indentLevel, startPosition_of_le h]
  rfl

theorem stop_replace (n : Node) (insert : Text) : (n.replace insert).stop = n.span.stop := by
  have := n.span.start_le_stop
  simp only [replace, Fix.stop, Span.width]
  omega

theorem mem_children_of_firstChild? {n c : Node} {k : Kind} (h : n.firstChild? k = some c) :
    c ∈ n.children :=
  List.mem_of_find?_eq_some h

theorem mem_children_of_mem_childrenOf {n c : Node} {k : Kind} (h : c ∈ n.childrenOf k) :
    c ∈ n.children :=
  List.mem_of_mem_filter h

theorem kind_of_mem_childrenOf {n c : Node} {k : Kind} (h : c ∈ n.childrenOf k) :
    c.kind = k := by
  simpa using (List.mem_filter.1 h).2

end Node

end LayoutLint
