import Mathlib.Data.List.Nodup
import Mathlib.Data.List.Perm.Basic
import LayoutLint.Proofs.Conflicts

/-! Where the reports of a run are. Each one is about a node of the tree that no other report of
the run is about, begins where that node begins, and has a fix that stays in the span of the node
and applies by itself. Two reports could only meet at a child of two constructs, and in a tree every
child has one parent. -/
namespace LayoutLint

namespace Node

/-- The nodes of a tree each have their own `id`. -/
def Distinct (root : Node) : Prop :=
  (root.preorder.map (·.id)).Nodup

instance (root : Node) : Decidable root.Distinct :=
  inferInstanceAs (Decidable (root.preorder.map (·.id)).Nodup)

open scoped List in
/-- The children of all nodes of a tree are the nodes below its root, each of them once. -/
theorem flatMap_children_perm (root : Node) :
    (root.preorder.flatMap (·.children)).Perm root.descendants := by
  induction root using induction with
  | node n ih =>
    rw [preorder_eq, List.flatMap_cons, preorders_eq_flatMap, List.flatMap_assoc, descendants,
      preorders_eq_flatMap]
    calc n.children ++ n.children.flatMap (fun c => c.preorder.flatMap (·.children))
        _ ~ n.children ++ n.children.flatMap descendants :=
          (List.Perm.flatMap_left _ ih).append_left _
        _ = n.children.flatMap (fun c => [c]) ++ n.children.flatMap descendants := by
          rw [List.flatMap_singleton']
        _ ~ n.children.flatMap (fun c => [c] ++ c.descendants) := List.flatMap_append_perm ..
        _ = n.children.flatMap preorder := by
          refine List.flatMap_congr fun c _ => ?_
          rw [preorder_eq, descendants, List.singleton_append]

theorem Distinct.children {root : Node} (h : root.Distinct) :
    (∀ n ∈ root.preorder, (n.children.map (·.id)).Nodup) ∧
      root.preorder.Pairwise fun m n => ∀ b ∈ m.children, ∀ c ∈ n.children, b.id ≠ c.id := by
  have hbelow : (root.descendants.map (·.id)).Nodup := by
    have hall : ((root :: root.descendants).map (·.id)).Nodup := by
      rw [descendants, ← preorder_eq]
      exact h
    exact hall.of_cons
  have hchildren := ((flatMap_children_perm root).map (·.id)).nodup_iff.2 hbelow
  rw [List.map_flatMap, List.nodup_flatMap] at hchildren
  refine ⟨hchildren.1, hchildren.2.imp fun hdisjoint b hb c hc heq => ?_⟩
  exact hdisjoint (List.mem_map_of_mem hb) (heq ▸ List.mem_map_of_mem hc)

end Node

theorem Construct.pairwise_id_violations {n : Node} (hn : (n.children.map (·.id)).Nodup)
    (o : Options) (t : Text) (c : Construct) :
    (c.violations o t n).Pairwise fun v w => v.node.id ≠ w.node.id := by
  refine pairwise_violations_of_pairs (R := fun m n => m.id ≠ n.id) ?_ o t
  refine List.Pairwise.imp_of_mem ?_ (Keyword.pairwise_kind_pairs n c)
  rintro ⟨p, target⟩ ⟨q, target'⟩ hp hq hkind heq
  have htarget := (Keyword.mem_children_of_mem_pairs hp).2
  have htarget' := (Keyword.mem_children_of_mem_pairs hq).2
  exact hkind (congrArg Node.kind (List.inj_on_of_nodup_map hn htarget htarget' heq))

namespace Construct.Reports

variable {limits : Limits} {o : Options} {t : Text} {n : Node} {c : Construct} {v : Violation}

theorem start_eq (h : Reports o t n c v) : v.start = t.positionAt v.node.span.start := by
  cases h <;> rfl

theorem apply_fix (h : Reports o t n c v) (hn : n.InText t) {f : Fix} (hf : v.fix = some f) :
    f.apply limits t = .ok (t.splice f.start f.stop f.insert) :=
  Fix.apply_of_le ((h.fix_within hf).2.trans (hn.child h.mem_children).stop_le)

end Construct.Reports

namespace Source

theorem pairwise_id_violations {s : Source} (h : s.root.Distinct) (o : Options) :
    (s.violations o).Pairwise fun v w => v.node.id ≠ w.node.id := by
  obtain ⟨hsiblings, hcousins⟩ := h.children
  rw [violations, List.pairwise_flatMap]
  constructor
  · rintro ⟨c, n⟩ hcn
    exact c.pairwise_id_violations (hsiblings n (Node.mem_constructs_iff.1 hcn).1) o s.text
  · rw [Node.constructs_eq]
    refine hcousins.filterMap _ ?_
    intro m n hmn p hp q hq v hv w hw
    obtain ⟨c, -, rfl⟩ := Option.map_eq_some_iff.1 hp
    obtain ⟨d, -, rfl⟩ := Option.map_eq_some_iff.1 hq
    exact hmn v.node (Construct.mem_violations_iff.1 hv).mem_children w.node
      (Construct.mem_violations_iff.1 hw).mem_children

theorem eq_violations_of_found {s : Source} {o : Options} {vs : List Violation}
    (hs : s.root.InText s.text) (h : (s.inspect o).found = .ok vs) : vs = s.violations o := by
  rw [found_inspect_outcome hs] at h
  exact (Options.eq_of_outcome_eq_ok h).symm

/-- Every violation of a run that succeeds is about a node of the tree, begins where it begins, and
has a fix that stays in its span and applies by itself. No two are about the same node. -/
theorem violations_in_place (limits : Limits) (o : Options) (s : Source) {vs : List Violation}
    (hs : s.root.InText s.text) (hids : s.root.Distinct) (h : (s.inspect o).found = .ok vs) :
    (∀ v ∈ vs, v.node ∈ s.root.walk ∧ v.node.startPosition s.text = .ok v.start ∧
        ∃ f fixed, v.fix = some f ∧ f.apply limits s.text = .ok fixed ∧
          (v.cause = .multilineConstructor ∧ f.start = v.node.span.start ∧
              f.stop = v.node.span.stop ∨
            v.cause = .ownLine ∧ f.start = v.node.span.fullStart ∧
              f.stop ≤ v.node.span.start)) ∧
      (vs.map (·.node.id)).Nodup ∧
      ∃ found, s.check o = .ok found ∧ found.violations = vs ∧ found.count = vs.length ∧
        found.fixableCount = found.count ∧ found.fixes.length = found.count := by
  obtain rfl := eq_violations_of_found hs h
  have hreports : ∀ v ∈ s.violations o, ∃ n, n.InText s.text ∧ n ∈ s.root.preorder ∧
      ∃ c, Construct.Reports o s.text n c v := by
    intro v hv
    obtain ⟨n, hn, hreport⟩ := exists_reports_of_mem hv
    exact ⟨n, hs.of_mem hn, hn, hreport⟩
  have hfixable : ∀ v ∈ s.violations o, v.fixable := by
    intro v hv
    obtain ⟨n, -, -, c, hreport⟩ := hreports v hv
    obtain ⟨f, hf, -⟩ := hreport.fix_span
    rw [Violation.fixable, hf, Option.isSome_some]
  refine ⟨?_, List.pairwise_map.2 (pairwise_id_violations hids o), _, by rw [check, h]; rfl, rfl,
    rfl, ?_⟩
  · intro v hv
    obtain ⟨n, hin, hn, c, hreport⟩ := hreports v hv
    obtain ⟨f, hf, hspan⟩ := hreport.fix_span
    have hchild := hreport.mem_children
    refine ⟨?_, ?_, f, _, hf, hreport.apply_fix hin hf, hspan⟩
    · rw [Node.walk_eq_preorder]
      exact Node.mem_preorder_trans (Node.mem_preorder_of_mem_children hchild) hn
    · rw [hreport.start_eq]
      exact Node.startPosition_eq (hin.child hchild).stop_le
  · have hall : (s.findings (s.violations o)).fixableCount = (s.violations o).length :=
      List.countP_eq_length.2 hfixable
    exact ⟨hall, (Findings.length_fixes _).trans hall⟩

/-- The fixes of two nested lists conflict, yet each of them applies by itself. -/
theorem violations_in_place_nestedLists :
    nestedLists.root.InText nestedLists.text ∧ nestedLists.root.Distinct ∧
      ∃ vs, (nestedLists.inspect {}).found = .ok vs ∧ vs.length = 2 ∧
        (vs.map (·.node.id)).Nodup ∧
        ∀ v ∈ vs, ∃ f fixed, v.fix = some f ∧ f.apply .usual nestedLists.text = .ok fixed := by
  have hin : nestedLists.root.InText nestedLists.text := by decide
  have hids : nestedLists.root.Distinct := by decide
  have hfound := found_inspect (o := {}) (by decide) hin
  have hcount : (nestedLists.violations {}).length = 2 := by
    rw [violations, Node.constructs_eq]
    decide
  obtain ⟨hplaces, hnodup, -⟩ := violations_in_place .usual {} nestedLists hin hids hfound
  refine ⟨hin, hids, _, hfound, hcount, hnodup, fun v hv => ?_⟩
  obtain ⟨-, -, f, fixed, hf, happly, -⟩ := hplaces v hv
  exact ⟨f, fixed, hf, happly⟩

end Source

end LayoutLint
