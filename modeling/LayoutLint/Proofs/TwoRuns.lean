import Mathlib.Data.List.Forall2
import LayoutLint.Proofs.Reports.Run

/-! Two runs side by side. They agree if they fail with the same fault, or if both succeed and
their violations are related one by one. Runs that inspect corresponding constructs agree when
the inspections do. -/
namespace LayoutLint

/-- Both fail alike, or both succeed with lists that are related element by element. -/
inductive Agree (R : Violation → Violation → Prop) :
    Except Fault (List Violation) → Except Fault (List Violation) → Prop where
  | failed (fault : Fault) : Agree R (.error fault) (.error fault)
  | found {vs ws : List Violation} (h : List.Forall₂ R vs ws) : Agree R (.ok vs) (.ok ws)

variable {R : Violation → Violation → Prop}

namespace Agree

theorem none : Agree R (.ok []) (.ok []) :=
  .found .nil

theorem one {v w : Violation} (h : R v w) : Agree R (.ok [v]) (.ok [w]) :=
  .found (.cons h .nil)

theorem append {a a' b b' : Inspection} (ha : Agree R a.found a'.found)
    (hb : Agree R b.found b'.found) : Agree R (a ++ b).found (a' ++ b').found := by
  rw [Inspection.found_append_eq, Inspection.found_append_eq]
  generalize a.found = x, a'.found = x' at ha
  generalize b.found = y, b'.found = y' at hb
  cases ha with
  | failed fault => exact .failed fault
  | found hvs =>
    cases hb with
    | failed fault => exact .failed fault
    | found hws => exact .found (List.rel_append hvs hws)

theorem concat {α : Type} {xs : List α} {f f' : α → Inspection}
    (h : ∀ x ∈ xs, Agree R (f x).found (f' x).found) :
    Agree R (Inspection.concat (xs.map f)).found (Inspection.concat (xs.map f')).found := by
  induction xs with
  | nil => exact none
  | cons x rest ih =>
    exact append (h x List.mem_cons_self) (ih fun y hy => h y (List.mem_cons_of_mem x hy))

theorem eq_map {g : Violation → Violation} {x y : Except Fault (List Violation)}
    (h : Agree (fun v w => w = g v) x y) : y = x.map (List.map g) := by
  cases h with
  | failed fault => rfl
  | @found vs ws hvs =>
    have himage : ws = vs.map g := by
      induction hvs with
      | nil => rfl
      | cons hv _ ih => rw [hv, ih, List.map_cons]
    rw [himage]
    rfl

end Agree

theorem Construct.agree_inspect {o o' : Options} {t t' : Text} {n n' : Node}
    (hlist : Agree R (Constructor.inspect o t n) (Constructor.inspect o' t' n'))
    (hpairs : ∀ c, Agree R (Keyword.checks o t (Keyword.pairs n c)).found
      (Keyword.checks o' t' (Keyword.pairs n' c)).found) (c : Construct) :
    Agree R (c.inspect o t n).found (c.inspect o' t' n').found := by
  cases c with
  | constructor => exact hlist
  | tryStatement =>
    simp only [inspect, Keyword.found_inspectTry]
    exact hpairs .tryStatement
  | ifStatement =>
    simp only [inspect, Keyword.found_inspectIf]
    exact hpairs .ifStatement

theorem Source.agree_inspect {o o' : Options} {s s' : Source} (move : Node → Node)
    (hconstructs : s'.root.constructs = s.root.constructs.map fun (c, n) => (c, move n))
    (h : ∀ (c : Construct) (n : Node), n ∈ s.root.preorder →
      Agree R (c.inspect o s.text n).found (c.inspect o' s'.text (move n)).found) :
    Agree R (s.inspect o).found (s'.inspect o').found := by
  rw [inspect, inspect, Inspection.found_close, Inspection.found_close, hconstructs, List.map_map]
  refine Agree.concat ?_
  rintro ⟨c, n⟩ hcn
  exact h c n (Node.mem_constructs_iff.1 hcn).1

end LayoutLint
