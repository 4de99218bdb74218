import LayoutLint.Proofs.Reports.Run

/-! The same tree at other places of a text. What the checks look for in a tree, kinds and the
order of children, stays, so they look at the same nodes, moved. -/
namespace LayoutLint

namespace Node

mutual

def mapSpans (g : Span → Span) : Node → Node
  | ⟨id, kind, span, children⟩ => ⟨id, kind, g span, mapSpansAll g children⟩

def mapSpansAll (g : Span → Span) : List Node → List Node
  | [] => []
  | n :: rest => mapSpans g n :: mapSpansAll g rest

end

variable (g : Span → Span)

theorem mapSpansAll_eq_map (ns : List Node) : mapSpansAll g ns = ns.map (mapSpans g) := by
  induction ns with
  | nil => rfl
  | cons n rest ih => rw [mapSpansAll, ih, List.map_cons]

@[simp] theorem kind_mapSpans (n : Node) : (n.mapSpans g).kind = n.kind := by
  cases n
  rw [mapSpans]

@[simp] theorem span_mapSpans (n : Node) : (n.mapSpans g).span = g n.span := by
  cases n
  rw [mapSpans]

@[simp] theorem children_mapSpans (n : Node) :
    (n.mapSpans g).children = n.children.map (mapSpans g) := by
  cases n
  rw [mapSpans, mapSpansAll_eq_map]

theorem preorder_mapSpans (n : Node) :
    (n.mapSpans g).preorder = n.preorder.map (mapSpans g) := by
  induction n using induction with
  | node n ih =>
    rw [preorder_eq, preorder_eq n, List.map_cons, preorders_eq_flatMap, preorders_eq_flatMap,
      children_mapSpans, List.flatMap_map, List.map_flatMap]
    congr 1
    exact List.flatMap_congr ih

theorem constructs_mapSpans (root : Node) : (root.mapSpans g).constructs =
    root.constructs.map fun (c, n) => (c, n.mapSpans g) := by
  simp only [constructs_eq, preorder_mapSpans, List.filterMap_map, List.map_filterMap]
  congr 1
  funext n
  simp only [Function.comp_apply, kind_mapSpans, Option.map_map]
  rfl

theorem firstChild?_mapSpans (n : Node) (k : Kind) :
    (n.mapSpans g).firstChild? k = (n.firstChild? k).map (mapSpans g) := by
  simp only [firstChild?, children_mapSpans, List.find?_map, Function.comp_def, kind_mapSpans]

theorem childrenOf_mapSpans (n : Node) (k : Kind) :
    (n.mapSpans g).childrenOf k = (n.childrenOf k).map (mapSpans g) := by
  simp only [childrenOf, children_mapSpans, List.filter_map, Function.comp_def, kind_mapSpans]

@[simp] theorem hasChild_mapSpans (n : Node) (k : Kind) :
    (n.mapSpans g).hasChild k = n.hasChild k := by
  simp only [hasChild, firstChild?_mapSpans, Option.isSome_map]

@[simp] theorem isProperty_mapSpans (n : Node) : (n.mapSpans g).isProperty = n.isProperty := by
  unfold isProperty
  rw [firstChild?_mapSpans]
  cases n.firstChild? .syntaxList with
  | none => rfl
  | some modifiers =>
    simp only [Option.map_some, children_mapSpans, List.any_map, Function.comp_def, kind_mapSpans]

theorem reach?_mapSpans (n : Node) (k : Kind) : (n.mapSpans g).reach? k =
    (n.reach? k).map fun (before, target) =>
      (before.map (mapSpans g), target.mapSpans g) := by
  simp only [reach?, firstChild?_mapSpans, children_mapSpans, List.takeWhile_map, Option.map_map,
    Function.comp_def, kind_mapSpans]

theorem lastBody?_map (before : List Node) :
    lastBody? (before.map (mapSpans g)) = (lastBody? before).map (mapSpans g) := by
  simp only [lastBody?, ← List.map_reverse, List.find?_map, Function.comp_def, kind_mapSpans]

end Node

namespace Keyword

variable (g : Span → Span)

private theorem continuation_mapSpans (n : Node) (k : Kind) : continuation (n.mapSpans g) k =
    (continuation n k).map fun (p, target) => (p.mapSpans g, target.mapSpans g) := by
  unfold continuation
  rw [Node.reach?_mapSpans]
  cases n.reach? k with
  | none => rfl
  | some reached =>
    obtain ⟨before, target⟩ := reached
    simp only [Option.map_some, Node.lastBody?_map]
    cases Node.lastBody? before <;> rfl

theorem pairs_mapSpans (n : Node) (c : Construct) : pairs (n.mapSpans g) c =
    (pairs n c).map fun (p, target) => (p.mapSpans g, target.mapSpans g) := by
  cases c with
  | constructor => rfl
  | tryStatement => simp only [pairs, continuation_mapSpans, List.map_append]
  | ifStatement =>
    simp only [pairs, Node.reach?_mapSpans, Node.hasChild_mapSpans]
    cases n.reach? .elseKeyword with
    | none => rfl
    | some reached =>
      obtain ⟨before, target⟩ := reached
      simp only [Option.map_some, List.getLast?_map]
      split
      · cases before.getLast? <;> rfl
      · rfl

end Keyword

end LayoutLint
