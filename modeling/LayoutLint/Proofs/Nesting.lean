import Mathlib.Data.List.Chain
import LayoutLint.Tree.Walk

/-! Trees whose spans nest. Of two nodes in such a tree, one lies below the other or one ends
before the other begins, its trivia included. -/
namespace LayoutLint.Node

def descendants (n : Node) : List Node :=
  preorders n.children

/-- The children lie within the node, begin no earlier than it and follow one another. -/
structure Nests (n : Node) : Prop where
  fullStart_le : ∀ c ∈ n.children, n.span.fullStart ≤ c.span.fullStart
  start_le : ∀ c ∈ n.children, n.span.start ≤ c.span.start
  le_stop : ∀ c ∈ n.children, c.span.stop ≤ n.span.stop
  chain : n.children.IsChain fun b c => b.span.stop ≤ c.span.fullStart

instance (n : Node) : Decidable n.Nests :=
  decidable_of_iff
    ((∀ c ∈ n.children, n.span.fullStart ≤ c.span.fullStart) ∧
      (∀ c ∈ n.children, n.span.start ≤ c.span.start) ∧
      (∀ c ∈ n.children, c.span.stop ≤ n.span.stop) ∧
      n.children.IsChain fun b c => b.span.stop ≤ c.span.fullStart)
    ⟨fun ⟨hf, hs, hp, hc⟩ => ⟨hf, hs, hp, hc⟩, fun ⟨hf, hs, hp, hc⟩ => ⟨hf, hs, hp, hc⟩⟩

def WellNested (root : Node) : Prop :=
  ∀ n ∈ root.preorder, n.Nests

instance (root : Node) : Decidable root.WellNested :=
  inferInstanceAs (Decidable (∀ n ∈ root.preorder, n.Nests))

/-- The children lie within the node and follow one another, trivia left aside. -/
structure Covers (n : Node) : Prop where
  start_le : ∀ c ∈ n.children, n.span.start ≤ c.span.start
  le_stop : ∀ c ∈ n.children, c.span.stop ≤ n.span.stop
  chain : n.children.IsChain fun b c => b.span.stop ≤ c.span.start

instance (n : Node) : Decidable n.Covers :=
  decidable_of_iff
    ((∀ c ∈ n.children, n.span.start ≤ c.span.start) ∧
      (∀ c ∈ n.children, c.span.stop ≤ n.span.stop) ∧
      n.children.IsChain fun b c => b.span.stop ≤ c.span.start)
    ⟨fun ⟨hs, hp, hc⟩ => ⟨hs, hp, hc⟩, fun ⟨hs, hp, hc⟩ => ⟨hs, hp, hc⟩⟩

def Tidy (root : Node) : Prop :=
  ∀ n ∈ root.preorder, n.Covers

instance (root : Node) : Decidable root.Tidy :=
  inferInstanceAs (Decidable (∀ n ∈ root.preorder, n.Covers))

def Apart (m n : Node) : Prop :=
  m.span.stop ≤ n.span.fullStart ∨ n.span.stop ≤ m.span.fullStart

theorem Apart.symm {m n : Node} (h : m.Apart n) : n.Apart m :=
  Or.symm h

@[elab_as_elim]
theorem induction {P : Node → Prop} (node : ∀ n : Node, (∀ c ∈ n.children, P c) → P n)
    (n : Node) : P n := by
  refine Node.rec (motive_1 := P) (motive_2 := fun ns => ∀ c ∈ ns, P c) ?_ ?_ ?_ n
  · intro id k s children ih
    exact node ⟨id, k, s, children⟩ ih
  · simp
  · intro head tail hhead htail c hc
    rcases List.mem_cons.1 hc with rfl | hc
    · exact hhead
    · exact htail c hc

theorem preorders_eq_flatMap (ns : List Node) : preorders ns = ns.flatMap preorder := by
  induction ns with
  | nil => rfl
  | cons n rest ih => rw [preorders, ih, List.flatMap_cons]

theorem walk_eq_preorder (root : Node) : root.walk = root.preorder := by
  rw [walk, walkAll_eq_preorders, preorders_eq_flatMap, List.flatMap_singleton]

theorem mem_descendants_iff {m n : Node} :
    m ∈ n.descendants ↔ ∃ c ∈ n.children, m ∈ c.preorder := by
  rw [descendants, preorders_eq_flatMap, List.mem_flatMap]

theorem mem_preorder_iff {m n : Node} : m ∈ n.preorder ↔ m = n ∨ m ∈ n.descendants := by
  rw [preorder_eq, List.mem_cons, descendants]

@[simp] theorem mem_preorder_self (n : Node) : n ∈ n.preorder :=
  mem_preorder_iff.2 (Or.inl rfl)

theorem mem_preorder_of_mem_children {c n : Node} (h : c ∈ n.children) : c ∈ n.preorder :=
  mem_preorder_iff.2 (Or.inr (mem_descendants_iff.2 ⟨c, h, c.mem_preorder_self⟩))

theorem mem_preorder_trans {l m n : Node} (hl : l ∈ m.preorder) (hm : m ∈ n.preorder) :
    l ∈ n.preorder := by
  induction n using induction with
  | node n ih =>
    rcases mem_preorder_iff.1 hm with rfl | hm
    · exact hl
    · obtain ⟨c, hc, hmc⟩ := mem_descendants_iff.1 hm
      exact mem_preorder_iff.2 (Or.inr (mem_descendants_iff.2 ⟨c, hc, ih c hc hmc⟩))

/-- What relates every node to its children relates a root to all nodes of its tree. -/
theorem forall_preorder_of_children {R : Node → Node → Prop} (refl : ∀ n, R n n)
    (htrans : ∀ l m n, R l m → R m n → R l n) {root m : Node}
    (hchildren : ∀ n ∈ root.preorder, ∀ c ∈ n.children, R n c) (hm : m ∈ root.preorder) :
    R root m := by
  induction root using induction with
  | node n ih =>
    rcases mem_preorder_iff.1 hm with rfl | hm
    · exact refl m
    · obtain ⟨c, hc, hmc⟩ := mem_descendants_iff.1 hm
      have hbelow := ih c hc
        (fun l hl => hchildren l (mem_preorder_trans hl (mem_preorder_of_mem_children hc))) hmc
      exact htrans n c m (hchildren n n.mem_preorder_self c hc) hbelow

theorem mem_descendants_of_mem_children {c m n : Node} (hc : c ∈ m.children)
    (hm : m ∈ n.preorder) : c ∈ n.descendants := by
  rcases mem_preorder_iff.1 hm with rfl | hm
  · exact mem_descendants_iff.2 ⟨c, hc, c.mem_preorder_self⟩
  · obtain ⟨d, hd, hmd⟩ := mem_descendants_iff.1 hm
    exact mem_descendants_iff.2
      ⟨d, hd, mem_preorder_trans (mem_preorder_of_mem_children hc) hmd⟩

private theorem size_lt_of_mem_children {c n : Node} (h : c ∈ n.children) : c.size < n.size := by
  obtain ⟨before, after, hn⟩ := List.append_of_mem h
  rw [size_eq n, hn, sizes_append, sizes]
  omega

private theorem size_le_of_mem_preorder {m n : Node} (h : m ∈ n.preorder) : m.size ≤ n.size :=
  forall_preorder_of_children (R := fun n m => m.size ≤ n.size) (fun _ => Nat.le_refl _)
    (fun _ _ _ hlm hmn => hmn.trans hlm) (fun _ _ _ hc => (size_lt_of_mem_children hc).le) h

theorem not_mem_descendants_self (n : Node) : n ∉ n.descendants := by
  intro h
  obtain ⟨c, hc, hn⟩ := mem_descendants_iff.1 h
  have := size_lt_of_mem_children hc
  have := size_le_of_mem_preorder hn
  omega

theorem Nests.covers {n : Node} (h : n.Nests) : n.Covers where
  start_le := h.start_le
  le_stop := h.le_stop
  chain := h.chain.imp fun _ c hbc => hbc.trans c.span.fullStart_le_start

theorem WellNested.tidy {root : Node} (h : root.WellNested) : root.Tidy :=
  fun n hn => (h n hn).covers

theorem Tidy.stop_le {n m : Node} (h : n.Tidy) (hm : m ∈ n.preorder) :
    m.span.stop ≤ n.span.stop :=
  forall_preorder_of_children (R := fun n m => m.span.stop ≤ n.span.stop)
    (fun _ => Nat.le_refl _) (fun _ _ _ hlm hmn => hmn.trans hlm)
    (fun n hn => (h n hn).le_stop) hm

theorem WellNested.nests {root n : Node} (h : root.WellNested) (hn : n ∈ root.preorder) :
    n.Nests :=
  h n hn

theorem WellNested.of_mem {root n : Node} (h : root.WellNested) (hn : n ∈ root.preorder) :
    n.WellNested :=
  fun m hm => h m (mem_preorder_trans hm hn)

theorem WellNested.within {n m : Node} (h : n.WellNested) (hm : m ∈ n.preorder) :
    n.span.fullStart ≤ m.span.fullStart ∧ n.span.start ≤ m.span.start ∧
      m.span.stop ≤ n.span.stop := by
  refine forall_preorder_of_children (R := fun n m => n.span.fullStart ≤ m.span.fullStart ∧
    n.span.start ≤ m.span.start ∧ m.span.stop ≤ n.span.stop) ?_ ?_ ?_ hm
  · exact fun _ => ⟨Nat.le_refl _, Nat.le_refl _, Nat.le_refl _⟩
  · intro k l m hkl hlm
    exact ⟨hkl.1.trans hlm.1, hkl.2.1.trans hlm.2.1, hlm.2.2.trans hkl.2.2⟩
  · intro l hl c hc
    have hnests := h.nests hl
    exact ⟨hnests.fullStart_le c hc, hnests.start_le c hc, hnests.le_stop c hc⟩

instance : Trans (fun b c : Node => b.span.stop ≤ c.span.fullStart)
    (fun b c : Node => b.span.stop ≤ c.span.fullStart)
    (fun b c : Node => b.span.stop ≤ c.span.fullStart) where
  trans {_ c _} hbc hcd :=
    (hbc.trans (c.span.fullStart_le_start.trans c.span.start_le_stop)).trans hcd

instance : Trans (fun b c : Node => b.span.stop ≤ c.span.start)
    (fun b c : Node => b.span.stop ≤ c.span.start)
    (fun b c : Node => b.span.stop ≤ c.span.start) where
  trans {_ c _} hbc hcd := (hbc.trans c.span.start_le_stop).trans hcd

theorem Covers.pairwise {n : Node} (h : n.Covers) :
    n.children.Pairwise fun b c => b.span.stop ≤ c.span.start :=
  h.chain.pairwise

theorem Nests.pairwise {n : Node} (h : n.Nests) :
    n.children.Pairwise fun b c => b.span.stop ≤ c.span.fullStart :=
  h.chain.pairwise

theorem Nests.siblings {n c : Node} {before after : List Node} (h : n.Nests)
    (hn : n.children = before ++ c :: after) :
    (∀ b ∈ before, b.span.stop ≤ c.span.fullStart) ∧
      ∀ a ∈ after, c.span.stop ≤ a.span.fullStart := by
  have hp := h.pairwise
  rw [hn, List.pairwise_append, List.pairwise_cons] at hp
  exact ⟨fun b hb => hp.2.2 b hb c List.mem_cons_self, hp.2.1.1⟩

theorem Apart.child {m n c : Node} (h : m.Apart n) (hn : n.Nests) (hc : c ∈ n.children) :
    m.Apart c := by
  rcases h with hbefore | hbehind
  · exact Or.inl (hbefore.trans (hn.fullStart_le c hc))
  · exact Or.inr ((hn.le_stop c hc).trans hbehind)

theorem WellNested.below_child_or_apart {n b m : Node} (h : n.WellNested)
    (hb : b ∈ n.children) (hm : m ∈ n.descendants) : m ∈ b.preorder ∨ b.Apart m := by
  obtain ⟨before, after, hchildren⟩ := List.append_of_mem hb
  obtain ⟨hbefore, hafter⟩ := (h.nests n.mem_preorder_self).siblings hchildren
  obtain ⟨c, hc, hmc⟩ := mem_descendants_iff.1 hm
  have hwithin := (h.of_mem (mem_preorder_of_mem_children hc)).within hmc
  rw [hchildren, List.mem_append, List.mem_cons] at hc
  -- `m` is below a sibling before `b`, below `b`, or below a sibling behind it.
  rcases hc with hc | rfl | hc
  · exact Or.inr (Or.inr (hwithin.2.2.trans (hbefore c hc)))
  · exact Or.inl hmc
  · exact Or.inr (Or.inl ((hafter c hc).trans hwithin.1))

/-- Of two nodes in the order of the walk, the later one lies below the earlier one or behind
it. -/
theorem WellNested.pairwise_preorder {root : Node} (h : root.WellNested) :
    root.preorder.Pairwise fun m n =>
      n ∈ m.descendants ∨ m.span.stop ≤ n.span.fullStart := by
  induction root using induction with
  | node n ih =>
    have hbelow : ∀ c ∈ n.children, c.WellNested := fun c hc =>
      h.of_mem (mem_preorder_of_mem_children hc)
    rw [preorder_eq, List.pairwise_cons]
    refine ⟨fun m hm => Or.inl hm, ?_⟩
    rw [preorders_eq_flatMap, List.pairwise_flatMap]
    refine ⟨fun c hc => ih c hc (hbelow c hc), ?_⟩
    refine List.Pairwise.imp_of_mem ?_ (h.nests n.mem_preorder_self).pairwise
    intro b c hb hc hbc l hl m hm
    have hlb := (hbelow b hb).within hl
    have hmc := (hbelow c hc).within hm
    exact Or.inr (hlb.2.2.trans (hbc.trans hmc.1))

theorem WellNested.below_or_apart {root m n : Node} (h : root.WellNested)
    (hm : m ∈ root.preorder) (hn : n ∈ root.preorder) :
    m ∈ n.preorder ∨ n ∈ m.preorder ∨ m.Apart n := by
  have hpairs := h.pairwise_preorder
  let Related (m n : Node) : Prop := m ∈ n.preorder ∨ n ∈ m.preorder ∨ m.Apart n
  suffices hall : ∀ m ∈ root.preorder, ∀ n ∈ root.preorder, Related m n from hall m hm n hn
  refine List.Pairwise.forall_of_forall_of_flip ?_ ?_ ?_
  · intro n _
    exact Or.inl n.mem_preorder_self
  · refine hpairs.imp ?_
    rintro m n (hbelow | hbehind)
    · exact Or.inr (Or.inl (mem_preorder_iff.2 (Or.inr hbelow)))
    · exact Or.inr (Or.inr (Or.inl hbehind))
  · refine hpairs.imp ?_
    rintro m n (hbelow | hbehind)
    · exact Or.inl (mem_preorder_iff.2 (Or.inr hbelow))
    · exact Or.inr (Or.inr (Or.inr hbehind))

end LayoutLint.Node
