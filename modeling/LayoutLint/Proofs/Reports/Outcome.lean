import LayoutLint.Check.Inspection
import LayoutLint.Proofs.Measure

/-! What becomes of the reports of a run. Each report comes with an indentation. Under options that
cannot build one, a run with any report fails, and only a run without reports does not. -/
namespace LayoutLint

namespace Options

/-- The reports themselves, unless there are some and their indentation cannot be built. -/
def outcome (o : Options) : List Violation → Except Fault (List Violation)
  | [] => .ok []
  | v :: vs => if o.Usable then .ok (v :: vs) else .error .countTooLarge

theorem outcome_of_usable {o : Options} (h : o.Usable) (vs : List Violation) :
    o.outcome vs = .ok vs := by
  cases vs with
  | nil => rfl
  | cons v vs => exact if_pos h

theorem outcome_of_not_usable {o : Options} (h : ¬ o.Usable) {vs : List Violation}
    (hvs : vs ≠ []) : o.outcome vs = .error .countTooLarge := by
  cases vs with
  | nil => exact absurd rfl hvs
  | cons v vs => exact if_neg h

theorem outcome_eq_error_iff {o : Options} {vs : List Violation} {fault : Fault} :
    o.outcome vs = .error fault ↔ (¬ o.Usable ∧ vs ≠ []) ∧ fault = .countTooLarge := by
  cases vs with
  | nil => simp [outcome]
  | cons v vs =>
    by_cases h : o.Usable
    · simp [outcome, h]
    · simp [outcome, h, eq_comm]

theorem eq_of_outcome_eq_ok {o : Options} {vs ws : List Violation} (h : o.outcome vs = .ok ws) :
    vs = ws := by
  cases vs with
  | nil => exact Except.ok.inj h
  | cons v vs =>
    rw [outcome] at h
    split at h
    · exact Except.ok.inj h
    · simp at h

theorem outcome_append (o : Options) (vs ws : List Violation) :
    o.outcome (vs ++ ws) = (o.outcome vs).bind fun us => (o.outcome ws).map (us ++ ·) := by
  by_cases h : o.Usable
  · simp only [outcome_of_usable h]
    rfl
  · cases vs with
    | nil =>
      change o.outcome ws = (o.outcome ws).map ([] ++ ·)
      cases o.outcome ws <;> rfl
    | cons v vs =>
      -- The first list fails already, and so does whatever it is the beginning of.
      rw [outcome_of_not_usable h (List.cons_ne_nil v vs), Except.bind]
      exact outcome_of_not_usable h (List.cons_ne_nil v (vs ++ ws))

end Options

namespace Inspection

theorem found_concat {α : Type} {o : Options} {steps : List α} {f : α → Inspection}
    {g : α → List Violation} (h : ∀ x ∈ steps, (f x).found = o.outcome (g x)) :
    (concat (steps.map f)).found = o.outcome (steps.flatMap g) := by
  induction steps with
  | nil => rfl
  | cons x rest ih =>
    have hrest := ih fun y hy => h y (List.mem_cons_of_mem x hy)
    change (f x ++ concat (rest.map f)).found = _
    rw [found_append_eq, h x List.mem_cons_self, hrest, List.flatMap_cons, Options.outcome_append]

end Inspection

end LayoutLint
