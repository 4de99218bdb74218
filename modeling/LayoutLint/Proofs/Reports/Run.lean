import LayoutLint.Proofs.Reports.Constructor
import LayoutLint.Proofs.Reports.Keyword

/-! What a run over a file reports when its nodes lie in the text: the reports on its constructs,
one construct after the other. Each report names a child of its construct, and of two reports
either the nodes lie apart or the later one is about a construct in the tree of the earlier one's
node. -/
namespace LayoutLint

namespace Construct

def violations (o : Options) (t : Text) (n : Node) : Construct → List Violation
  | .constructor => Constructor.violations o t n
  | .tryStatement => (Keyword.pairs n .tryStatement).flatMap (Keyword.violations o t)
  | .ifStatement => (Keyword.pairs n .ifStatement).flatMap (Keyword.violations o t)

theorem found_inspect {t : Text} {n : Node} (hn : n.InText t) (o : Options) (c : Construct) :
    (c.inspect o t n).found = o.outcome (c.violations o t n) := by
  cases c with
  | constructor => exact Constructor.inspect_eq_outcome hn o
  | tryStatement => exact (Keyword.found_inspectTry o t n).trans (Keyword.found_checks hn o _)
  | ifStatement => exact (Keyword.found_inspectIf o t n).trans (Keyword.found_checks hn o _)

inductive Reports (o : Options) (t : Text) (n : Node) : Construct → Violation → Prop where
  | crowded {signature : Node} (hsignature : n.firstChild? .syntaxList = some signature)
      (hcrowded : Constructor.crowds (n.line t) false (Constructor.parameterLines t signature)) :
      Reports o t n .constructor (Constructor.violation o t n signature)
  | shared {c : Construct} {previous target : Node}
      (hpair : (previous, target) ∈ Keyword.pairs n c)
      (hline : previous.lastLine t = target.line t) :
      Reports o t n c (Keyword.violation o t target)

theorem mem_flatMap_violations_iff {o : Options} {t : Text} {pairs : List (Node × Node)}
    {v : Violation} : v ∈ pairs.flatMap (Keyword.violations o t) ↔
      ∃ previous target, (previous, target) ∈ pairs ∧ previous.lastLine t = target.line t ∧
        v = Keyword.violation o t target := by
  simp only [List.mem_flatMap, Prod.exists, Keyword.violations]
  refine exists_congr fun previous => exists_congr fun target => and_congr_right fun _ => ?_
  split
  · rename_i hline
    simp [hline]
  · rename_i hline
    simp [hline]

theorem mem_violations_iff {o : Options} {t : Text} {n : Node} {c : Construct} {v : Violation} :
    v ∈ c.violations o t n ↔ Reports o t n c v := by
  constructor
  · intro hv
    cases c with
    | constructor =>
      obtain ⟨signature, hsignature, hcrowded, rfl⟩ := Constructor.exists_of_mem_violations hv
      exact .crowded hsignature hcrowded
    | tryStatement | ifStatement =>
      obtain ⟨previous, target, hpair, hline, rfl⟩ := mem_flatMap_violations_iff.1 hv
      exact .shared hpair hline
  · intro hv
    cases hv with
    | crowded hsignature hcrowded =>
      simp [violations, Constructor.violations, hsignature, hcrowded]
    | @shared _ previous target hpair hline =>
      have hmem := (mem_flatMap_violations_iff (o := o)).2
        ⟨previous, target, hpair, hline, rfl⟩
      cases c with
      | constructor => simp [Keyword.pairs] at hpair
      | tryStatement | ifStatement => exact hmem

theorem Reports.mem_children {o : Options} {t : Text} {n : Node} {c : Construct} {v : Violation}
    (h : Reports o t n c v) : v.node ∈ n.children := by
  cases h with
  | crowded hsignature => exact Node.mem_children_of_firstChild? hsignature
  | @shared _ previous target hpair =>
    obtain ⟨-, before, after, hchildren, -⟩ := Keyword.children_of_mem_pairs hpair
    simp [Keyword.violation, hchildren]

theorem pairwise_violations_of_pairs {R : Node → Node → Prop} {n : Node} {c : Construct}
    (h : (Keyword.pairs n c).Pairwise fun p q => R p.2 q.2) (o : Options) (t : Text) :
    (c.violations o t n).Pairwise fun v w => R v.node w.node := by
  have hkeywords : ((Keyword.pairs n c).flatMap (Keyword.violations o t)).Pairwise
      fun v w => R v.node w.node := by
    rw [List.pairwise_flatMap]
    constructor
    · rintro ⟨previous, target⟩ -
      simp only [Keyword.violations]
      split <;> simp
    · refine h.imp ?_
      rintro ⟨p, target⟩ ⟨q, target'⟩ hR v hv w hw
      rw [Keyword.eq_violation_of_mem hv, Keyword.eq_violation_of_mem hw]
      exact hR
  cases c with
  | constructor =>
    simp only [violations, Constructor.violations]
    split
    · simp
    · split <;> simp
  | tryStatement | ifStatement => exact hkeywords

theorem pairwise_violations {o : Options} {t : Text} {n : Node} (hn : n.Nests) (c : Construct) :
    (c.violations o t n).Pairwise fun v w => v.node.Apart w.node :=
  pairwise_violations_of_pairs (Keyword.pairwise_pairs hn c) o t

end Construct

namespace Node

theorem constructs_eq (root : Node) : root.constructs =
    root.preorder.filterMap fun n => (Construct.ofKind? n.kind).map (·, n) := by
  rw [constructs, walk_eq_preorder]

theorem mem_constructs_iff {root n : Node} {c : Construct} :
    (c, n) ∈ root.constructs ↔ n ∈ root.preorder ∧ Construct.ofKind? n.kind = some c := by
  simp only [constructs_eq, List.mem_filterMap, Option.map_eq_some_iff,
    Prod.mk.injEq]
  constructor
  · rintro ⟨m, hm, d, hd, rfl, rfl⟩
    exact ⟨hm, hd⟩
  · rintro ⟨hn, hc⟩
    exact ⟨n, hn, c, hc, rfl, rfl⟩

theorem WellNested.pairwise_constructs {root : Node} (h : root.WellNested) :
    root.constructs.Pairwise fun p q =>
      q.2 ∈ p.2.descendants ∨ p.2.span.stop ≤ q.2.span.fullStart := by
  rw [constructs_eq]
  refine h.pairwise_preorder.filterMap _ ?_
  intro m n hmn p hp q hq
  obtain ⟨c, -, rfl⟩ := Option.map_eq_some_iff.1 hp
  obtain ⟨d, -, rfl⟩ := Option.map_eq_some_iff.1 hq
  exact hmn

end Node

namespace Source

def violations (o : Options) (s : Source) : List Violation :=
  s.root.constructs.flatMap fun (c, n) => c.violations o s.text n

theorem found_inspect_outcome {s : Source} (hs : s.root.InText s.text) (o : Options) :
    (s.inspect o).found = o.outcome (s.violations o) := by
  rw [inspect, Inspection.found_close]
  refine Inspection.found_concat ?_
  rintro ⟨c, n⟩ hcn
  exact Construct.found_inspect (hs.of_mem (Node.mem_constructs_iff.1 hcn).1) o c

theorem found_inspect {o : Options} {s : Source} (ho : o.Usable) (hs : s.root.InText s.text) :
    (s.inspect o).found = .ok (s.violations o) :=
  (found_inspect_outcome hs o).trans (Options.outcome_of_usable ho _)

theorem check_eq {o : Options} {s : Source} (ho : o.Usable) (hs : s.root.InText s.text) :
    s.check o = .ok (s.findings (s.violations o)) := by
  rw [check, found_inspect ho hs]
  rfl

/-- Of two reports, the nodes lie apart or the later one is about a construct in the tree of the
earlier one's node. -/
theorem pairwise_violations {s : Source} (h : s.root.WellNested) (o : Options) :
    (s.violations o).Pairwise fun v w =>
      v.node.Apart w.node ∨
        ∃ n ∈ v.node.preorder, ∃ c, Construct.Reports o s.text n c w := by
  rw [violations, List.pairwise_flatMap]
  constructor
  · rintro ⟨c, n⟩ hcn
    refine (c.pairwise_violations (h.nests (Node.mem_constructs_iff.1 hcn).1)).imp ?_
    exact fun hapart => Or.inl hapart
  · refine List.Pairwise.imp_of_mem ?_ h.pairwise_constructs
    rintro ⟨c, m⟩ ⟨d, n⟩ hcm hdn hmn v hv w hw
    have hm := (Node.mem_constructs_iff.1 hcm).1
    have hn := (Node.mem_constructs_iff.1 hdn).1
    have hvm := (Construct.mem_violations_iff.1 hv).mem_children
    have hwn := Construct.mem_violations_iff.1 hw
    rcases hmn with hbelow | hbehind
    · -- The later construct is in the tree of the reported child or apart from that child.
      rcases (h.of_mem hm).below_child_or_apart hvm hbelow with hbelow | hapart
      · exact Or.inr ⟨n, hbelow, d, hwn⟩
      · exact Or.inl (hapart.child (h.nests hn) hwn.mem_children)
    · have hv := (h.nests hm).le_stop v.node hvm
      have hw := (h.nests hn).fullStart_le w.node hwn.mem_children
      exact Or.inl (Or.inl (hv.trans (hbehind.trans hw)))

theorem mem_violations_iff {s : Source} {o : Options} {v : Violation} :
    v ∈ s.violations o ↔
      ∃ c n, (c, n) ∈ s.root.constructs ∧ Construct.Reports o s.text n c v := by
  simp only [violations, List.mem_flatMap, Prod.exists, Construct.mem_violations_iff]

theorem exists_reports_of_mem {s : Source} {o : Options} {v : Violation}
    (h : v ∈ s.violations o) : ∃ n ∈ s.root.preorder, ∃ c, Construct.Reports o s.text n c v := by
  obtain ⟨c, n, hcn, hreport⟩ := mem_violations_iff.1 h
  exact ⟨n, (Node.mem_constructs_iff.1 hcn).1, c, hreport⟩

end Source

end LayoutLint
