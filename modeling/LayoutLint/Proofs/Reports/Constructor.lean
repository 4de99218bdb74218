import LayoutLint.Check.Run
import LayoutLint.Proofs.Reports.Outcome

/-! What the inspection of a constructor within the text reports. It depends on the lines of the
parameters and on which of them declare properties. -/
namespace LayoutLint.Constructor

/-- Whether a parameter is on the line of its predecessor once a property has been seen. The
parameters are given by their lines, with whether they declare a property. -/
def crowds (line : Nat) (seen : Bool) : List (Nat × Bool) → Bool
  | [] => false
  | (next, property) :: rest =>
    (seen || property) && next = line || crowds next (seen || property) rest

theorem crowds_eq_false_of_ne {line : Nat} {ps : List (Nat × Bool)}
    (h : (line :: ps.map Prod.fst).IsChain (· ≠ ·)) (seen : Bool) :
    crowds line seen ps = false := by
  induction ps generalizing line seen with
  | nil => rfl
  | cons p rest ih =>
    obtain ⟨next, property⟩ := p
    rw [List.map_cons, List.isChain_cons_cons] at h
    rw [crowds, ih h.2, decide_eq_false h.1.symm, Bool.and_false, Bool.or_false]

def parameterLines (t : Text) (signature : Node) : List (Nat × Bool) :=
  (signature.childrenOf .parameter).map fun p => (p.line t, p.isProperty)

def rewritten (o : Options) (t : Text) (node signature : Node) : Text :=
  let level := o.levelOf (t.positionAt node.span.start).character
  breakCommas (o.blanks (level + 1))
    ('\n' :: o.blanks (level + 1) ++ signature.span.text t ++ '\n' :: o.blanks level)

def violation (o : Options) (t : Text) (node signature : Node) : Violation where
  cause := .multilineConstructor
  message := message.toList ++ '\n' :: rewritten o t node signature
  node := signature
  start := t.positionAt signature.span.start
  fix := some (signature.replace (rewritten o t node signature))
  message_ne_nil := by simp

def violations (o : Options) (t : Text) (n : Node) : List Violation :=
  match n.firstChild? .syntaxList with
  | none => []
  | some signature =>
    if crowds (n.line t) false (parameterLines t signature) then [violation o t n signature]
    else []

theorem exists_of_mem_violations {o : Options} {t : Text} {n : Node} {v : Violation}
    (h : v ∈ violations o t n) :
    ∃ signature, n.firstChild? .syntaxList = some signature ∧
      crowds (n.line t) false (parameterLines t signature) ∧ v = violation o t n signature := by
  unfold violations at h
  split at h
  · simp at h
  · rename_i signature hsignature
    split at h
    · rename_i hcrowded
      exact ⟨signature, hsignature, hcrowded, List.mem_singleton.1 h⟩
    · simp at h

theorem pairwise_parameters {n signature : Node} (hn : n.Tidy)
    (hsignature : n.firstChild? .syntaxList = some signature) :
    (∀ p ∈ signature.childrenOf .parameter,
      signature.span.start ≤ p.span.start ∧ p.span.stop ≤ signature.span.stop) ∧
      (signature.childrenOf .parameter).Pairwise fun p q => p.span.stop ≤ q.span.start := by
  have hlist := Node.mem_preorder_of_mem_children (Node.mem_children_of_firstChild? hsignature)
  have hcovers := hn signature hlist
  refine ⟨fun p hp => ?_, hcovers.pairwise.filter _⟩
  have hchild := Node.mem_children_of_mem_childrenOf hp
  exact ⟨hcovers.start_le p hchild, hcovers.le_stop p hchild⟩

theorem isCrowded_eq {t : Text} {ps : List Node} (hps : ∀ p ∈ ps, p.span.stop ≤ t.length)
    (line : Nat) (seen : Bool) :
    isCrowded t line seen ps =
      .ok (crowds line seen (ps.map fun p => (p.line t, p.isProperty))) := by
  induction ps generalizing line seen with
  | nil => rfl
  | cons p rest ih =>
    have hp := Node.startPosition_eq (hps p List.mem_cons_self)
    have hrest := ih fun q hq => hps q (List.mem_cons_of_mem p hq)
    have hline : (t.positionAt p.span.start).line = p.line t := rfl
    simp only [isCrowded, hp, bind, Except.bind, List.map_cons, crowds, hline]
    by_cases hcrowded : ((seen || p.isProperty) && p.line t = line) = true
    · rw [if_pos hcrowded, hcrowded]
      rfl
    · rw [if_neg hcrowded, hrest, Bool.eq_false_iff.2 hcrowded, Bool.false_or]

theorem multiline_eq {o : Options} {t : Text} {node : Node} (ho : o.Usable)
    (hnode : node.span.start ≤ t.length) (signature : Node) :
    multiline o t node signature = .ok (rewritten o t node signature) := by
  unfold multiline
  rw [Node.indentLevel_of_le hnode]
  simp only [bind, Except.bind, Options.indent_eq_blanks ho]
  rfl

theorem multiline_eq_error {o : Options} {t : Text} {node : Node} (ho : ¬ o.Usable)
    (hnode : node.span.start ≤ t.length) (signature : Node) :
    multiline o t node signature = .error .countTooLarge := by
  unfold multiline
  rw [Node.indentLevel_of_le hnode]
  simp only [bind, Except.bind, Options.indent_eq_error ho]

theorem inspect_eq_outcome {t : Text} {n : Node} (hn : n.InText t) (o : Options) :
    inspect o t n = o.outcome (violations o t n) := by
  unfold inspect violations
  cases hsignature : n.firstChild? .syntaxList with
  | none => rfl
  | some signature =>
    have hlist := hn.child (Node.mem_children_of_firstChild? hsignature)
    have hparameters : ∀ p ∈ signature.childrenOf .parameter, p.span.stop ≤ t.length :=
      fun p hp => (hlist.child (Node.mem_children_of_mem_childrenOf hp)).stop_le
    have hcrowded := isCrowded_eq hparameters (n.line t) false
    have hline : (t.positionAt n.span.start).line = n.line t := rfl
    have hstart := n.span.start_le_stop.trans hn.stop_le
    simp only [Node.startPosition_eq hn.stop_le, bind, Except.bind, hline, hcrowded,
      Node.startPosition_eq hlist.stop_le]
    rw [parameterLines]
    split
    · by_cases ho : o.Usable
      · rw [multiline_eq ho hstart, Options.outcome_of_usable ho]
        rfl
      · rw [multiline_eq_error ho hstart,
          Options.outcome_of_not_usable ho (List.cons_ne_nil _ _)]
    · rfl

theorem inspect_eq {o : Options} {t : Text} {n : Node} (ho : o.Usable) (hn : n.InText t) :
    inspect o t n = .ok (violations o t n) :=
  (inspect_eq_outcome hn o).trans (Options.outcome_of_usable ho _)

end LayoutLint.Constructor
