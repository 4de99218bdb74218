import LayoutLint.Proofs.Nesting

/-! The walk of a tree against the paths to its nodes. A path names an occurrence of a node by the
indices of the children on the way to it. The walk comes to every path once, in lexicographic order,
and that is the pre-order of the tree. Where spans nest, it follows the text. -/
namespace LayoutLint.Node

def at? (n : Node) : List Nat → Option Node
  | [] => some n
  | i :: path => n.children[i]?.bind (·.at? path)

mutual

def paths : Node → List (List Nat)
  | ⟨_, _, _, children⟩ => [] :: pathsFrom 0 children

def pathsFrom (i : Nat) : List Node → List (List Nat)
  | [] => []
  | n :: rest => (paths n).map (i :: ·) ++ pathsFrom (i + 1) rest

end

theorem pathsFrom_eq_flatMap (i : Nat) (ns : List Node) :
    pathsFrom i ns = (ns.zipIdx i).flatMap fun (c, j) => c.paths.map (j :: ·) := by
  induction ns generalizing i with
  | nil => rfl
  | cons n rest ih => rw [pathsFrom, ih, List.zipIdx_cons, List.flatMap_cons]

theorem paths_eq (n : Node) : n.paths =
    [] :: n.children.zipIdx.flatMap fun (c, j) => c.paths.map (j :: ·) := by
  rw [← pathsFrom_eq_flatMap]
  cases n
  rw [paths]

theorem mem_paths_iff {n : Node} {path : List Nat} :
    path ∈ n.paths ↔ (n.at? path).isSome := by
  induction n using induction generalizing path with
  | node n ih =>
    rw [paths_eq, List.mem_cons, List.mem_flatMap]
    cases path with
    | nil => simp [at?]
    | cons i path =>
      constructor
      · simp only [reduceCtorEq, false_or, List.mem_map, List.cons.injEq]
        rintro ⟨⟨c, j⟩, hchild, q, hq, rfl, rfl⟩
        have hc := List.mk_mem_zipIdx_iff_getElem?.1 hchild
        rw [at?, hc]
        exact (ih c (List.mem_of_getElem? hc)).1 hq
      · intro h
        obtain ⟨m, hm⟩ := Option.isSome_iff_exists.1 h
        obtain ⟨c, hc, hpath⟩ := Option.bind_eq_some_iff.1 hm
        have hq := (ih c (List.mem_of_getElem? hc)).2 (Option.isSome_iff_exists.2 ⟨m, hpath⟩)
        exact Or.inr ⟨(c, i), List.mk_mem_zipIdx_iff_getElem?.2 hc, List.mem_map_of_mem hq⟩

theorem pairwise_lex_paths (n : Node) : n.paths.Pairwise (List.Lex (· < ·)) := by
  induction n using induction with
  | node n ih =>
    rw [paths_eq, List.pairwise_cons]
    constructor
    · intro path hpath
      obtain ⟨⟨c, j⟩, -, hpath⟩ := List.mem_flatMap.1 hpath
      obtain ⟨q, -, rfl⟩ := List.mem_map.1 hpath
      exact .nil
    · have hindices : n.children.zipIdx.Pairwise fun a b => a.2 < b.2 := by
        rw [← List.pairwise_map (f := Prod.snd), List.zipIdx_map_snd]
        exact List.pairwise_lt_range' 1
      -- Paths into one child compare behind its index, paths into two children by the indices.
      rw [List.pairwise_flatMap]
      constructor
      · rintro ⟨c, j⟩ hchild
        have hc := List.mem_of_getElem? (List.mk_mem_zipIdx_iff_getElem?.1 hchild)
        exact (ih c hc).map _ fun _ _ hlex => .cons hlex
      · refine hindices.imp ?_
        rintro ⟨b, i⟩ ⟨c, j⟩ hij p hp q hq
        obtain ⟨p', -, rfl⟩ := List.mem_map.1 hp
        obtain ⟨q', -, rfl⟩ := List.mem_map.1 hq
        exact .rel hij

theorem map_at?_paths (n : Node) : n.paths.map n.at? = n.preorder.map some := by
  induction n using induction with
  | node n ih =>
    have hchildren : ∀ a ∈ n.children.zipIdx,
        (a.1.paths.map (a.2 :: ·)).map n.at? = a.1.preorder.map some := by
      rintro ⟨c, j⟩ hchild
      have hc := List.mk_mem_zipIdx_iff_getElem?.1 hchild
      rw [← ih c (List.mem_of_getElem? hc), List.map_map]
      refine List.map_congr_left fun q _ => ?_
      rw [Function.comp_apply, at?, hc, Option.bind_some]
    calc n.paths.map n.at?
        = some n :: n.children.zipIdx.flatMap fun a => (a.1.paths.map (a.2 :: ·)).map n.at? := by
          rw [paths_eq, List.map_cons, List.map_flatMap, at?]
      _ = some n :: n.children.zipIdx.flatMap fun a => a.1.preorder.map some := by
          rw [List.flatMap_congr hchildren]
      _ = some n :: n.children.flatMap fun c => c.preorder.map some := by
          conv_rhs => rw [← List.zipIdx_map_fst 0 n.children, List.flatMap_map]
      _ = n.preorder.map some := by
          rw [preorder_eq, preorders_eq_flatMap, List.map_cons, List.map_flatMap]

theorem length_walkAll (waiting : List Node) : (walkAll waiting).length = sizes waiting := by
  fun_induction walkAll waiting with
  | case1 => rw [sizes, List.length_nil]
  | case2 n rest ih =>
    rw [List.length_cons, ih, sizes_append, sizes, size_eq]
    omega

theorem Tidy.of_mem {root n : Node} (h : root.Tidy) (hn : n ∈ root.preorder) : n.Tidy :=
  fun m hm => h m (mem_preorder_trans hm hn)

theorem Tidy.start_le {n m : Node} (h : n.Tidy) (hm : m ∈ n.preorder) :
    n.span.start ≤ m.span.start :=
  forall_preorder_of_children (R := fun n m => n.span.start ≤ m.span.start)
    (fun _ => Nat.le_refl _) (fun _ _ _ hlm hmn => hlm.trans hmn)
    (fun n hn => (h n hn).start_le) hm

theorem Tidy.pairwise_start_le {root : Node} (h : root.Tidy) :
    root.preorder.Pairwise fun m n => m.span.start ≤ n.span.start := by
  induction root using induction with
  | node n ih =>
    have hbelow : ∀ c ∈ n.children, c.Tidy := fun c hc => h.of_mem (mem_preorder_of_mem_children hc)
    rw [preorder_eq, List.pairwise_cons]
    refine ⟨fun m hm => h.start_le (mem_preorder_iff.2 (Or.inr hm)), ?_⟩
    rw [preorders_eq_flatMap, List.pairwise_flatMap]
    refine ⟨fun c hc => ih c hc (hbelow c hc), ?_⟩
    refine List.Pairwise.imp_of_mem ?_ (h n n.mem_preorder_self).pairwise
    intro b c hb hc hbc l hl m hm
    calc l.span.start ≤ l.span.stop := l.span.start_le_stop
      _ ≤ b.span.stop := (hbelow b hb).stop_le hl
      _ ≤ c.span.start := hbc
      _ ≤ m.span.start := (hbelow c hc).start_le hm

/-- The walk is the pre-order of the tree. It ends after one round for each node, and comes to every
path once, in lexicographic order. If children lie within their parents and siblings follow one
another, with their trivia or without it, nodes come in the order in which they begin. -/
theorem walk_in_order (root : Node) :
    root.walk = root.preorder ∧ root.walk.length = root.size ∧
      root.paths.Pairwise (List.Lex (· < ·)) ∧
      (∀ path, path ∈ root.paths ↔ (root.at? path).isSome) ∧
      root.walk.map some = root.paths.map root.at? ∧
      (root.Tidy → root.walk.Pairwise fun m n => m.span.start ≤ n.span.start) := by
  have hlength : root.walk.length = root.size := by
    rw [walk, length_walkAll, sizes, sizes, Nat.add_zero]
  rw [walk_eq_preorder] at hlength ⊢
  exact ⟨rfl, hlength, pairwise_lex_paths root, fun _ => mem_paths_iff, (map_at?_paths root).symm,
    Tidy.pairwise_start_le⟩

def recurring : Node :=
  let empty : Node := ⟨2, .other, { fullStart := 5, start := 5, stop := 5 }, []⟩
  ⟨0, .sourceFile, { fullStart := 0, start := 0, stop := 6 },
    [⟨1, .block, { fullStart := 0, start := 1, stop := 5 }, [empty]⟩, empty, empty]⟩

theorem walk_in_order_recurring : recurring.Tidy ∧
    recurring.walk.map (·.id) = [0, 1, 2, 2, 2] ∧
    recurring.paths = [[], [0], [0, 0], [1], [2]] ∧
    recurring.walk.map (·.span.start) = [0, 1, 5, 5, 5] ∧
    recurring.walk.Pairwise fun m n => m.span.start ≤ n.span.start := by
  have htidy : recurring.Tidy := by decide
  obtain ⟨hwalk, -, -, -, -, hstarts⟩ := walk_in_order recurring
  refine ⟨htidy, ?_, by decide, ?_, hstarts htidy⟩
  all_goals
    rw [hwalk]
    decide

end LayoutLint.Node
