import LayoutLint.Tree.Node

/-! All nodes of a tree, parents first and siblings in order. `walk` keeps the nodes still to
visit in a list, so that it does not nest with the tree; `preorder` recurses. They agree. -/
namespace LayoutLint.Node

mutual

def size : Node → Nat
  | ⟨_, _, _, children⟩ => 1 + sizes children

def sizes : List Node → Nat
  | [] => 0
  | n :: rest => n.size + sizes rest

end

@[simp] theorem sizes_append (ms ns : List Node) : sizes (ms ++ ns) = sizes ms + sizes ns := by
  induction ms with
  | nil => simp [sizes]
  | cons m rest ih => simp [sizes, ih, Nat.add_assoc]

theorem size_eq (n : Node) : n.size = 1 + sizes n.children := by
  cases n
  rw [size]

def walkAll : List Node → List Node
  | [] => []
  | n :: rest => n :: walkAll (n.children ++ rest)
termination_by waiting => sizes waiting
decreasing_by
  simp only [sizes_append, sizes, size_eq]
  omega

def walk (root : Node) : List Node :=
  walkAll [root]

mutual

def preorder : Node → List Node
  | n@⟨_, _, _, children⟩ => n :: preorders children

def preorders : List Node → List Node
  | [] => []
  | n :: rest => preorder n ++ preorders rest

end

theorem preorder_eq (n : Node) : n.preorder = n :: preorders n.children := by
  cases n
  rw [preorder]

@[simp] theorem preorders_append (ms ns : List Node) :
    preorders (ms ++ ns) = preorders ms ++ preorders ns := by
  induction ms with
  | nil => simp [preorders]
  | cons m rest ih => simp [preorders, ih]

theorem walkAll_eq_preorders (waiting : List Node) : walkAll waiting = preorders waiting := by
  fun_induction walkAll waiting with
  | case1 => simp [preorders]
  | case2 n rest ih => rw [ih, preorders, preorder_eq, preorders_append, List.cons_append]

end LayoutLint.Node
