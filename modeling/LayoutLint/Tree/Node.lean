import LayoutLint.Tree.Span

/-! Nodes of a parsed file. The `id` tells two nodes of the same shape apart. -/
namespace LayoutLint

structure Node where
  id : Nat
  kind : Kind
  span : Span
  children : List Node

namespace Node

def firstChild? (n : Node) (k : Kind) : Option Node :=
  n.children.find? (·.kind = k)

def childrenOf (n : Node) (k : Kind) : List Node :=
  n.children.filter (·.kind = k)

def hasChild (n : Node) (k : Kind) : Bool :=
  (n.firstChild? k).isSome

def reach? (n : Node) (k : Kind) : Option (List Node × Node) :=
  (n.firstChild? k).map (n.children.takeWhile (·.kind ≠ k), ·)

/-- The place of `child` among the children, found by its `id`. -/
def indexOf (n child : Node) : Except Fault Nat :=
  match n.children.findIdx? (·.id = child.id) with
  | some i => .ok i
  | none => .error (.notAChild child.kind n.kind)

def lastBody? (before : List Node) : Option Node :=
  before.reverse.find? (·.kind.isTryBody)

def bodyBefore (n target : Node) : Except Fault (Option Node) :=
  (n.indexOf target).map fun i => lastBody? (n.children.take i)

/-- A parameter declares a property when its modifiers have a visibility keyword. -/
def isProperty (parameter : Node) : Bool :=
  match parameter.firstChild? .syntaxList with
  | some modifiers => modifiers.children.any (·.kind.isVisibility)
  | none => false

mutual

/-- Equality up to the `id`s. -/
def sameShape : Node → Node → Bool
  | ⟨_, k, s, children⟩, ⟨_, k', s', children'⟩ =>
    k = k' && s = s' && sameShapes children children'

def sameShapes : List Node → List Node → Bool
  | [], [] => true
  | n :: rest, n' :: rest' => sameShape n n' && sameShapes rest rest'
  | _, _ => false

end

theorem reach?_eq_some_iff {n : Node} {k : Kind} {before : List Node} {target : Node} :
    n.reach? k = some (before, target) ↔
      target.kind = k ∧ (∀ c ∈ before, c.kind ≠ k) ∧
        ∃ after, n.children = before ++ target :: after := by
  simp only [reach?, firstChild?, Option.map_eq_some_iff, List.find?_eq_some_iff_append,
    decide_eq_true_eq, Prod.mk.injEq]
  constructor
  · rintro ⟨c, ⟨hc, as, bs, h, has⟩, ht, rfl⟩
    have : as = before := by
      rw [← ht, h, List.takeWhile_append_of_pos (by simpa using has)]
      simp [hc]
    subst this
    exact ⟨hc, by simpa using has, bs, h⟩
  · rintro ⟨hk, hb, after, h⟩
    refine ⟨target, ⟨hk, before, after, h, by simpa using hb⟩, ?_, rfl⟩
    rw [h, List.takeWhile_append_of_pos (by simpa using hb)]
    simp [hk]

end Node

end LayoutLint
