import LayoutLint.Findings

/-! What looking at nodes yields: notes for the log, and violations unless something failed.
Inspections are appended in order, and a failure ends the sequence while the notes taken before
it stay. -/
namespace LayoutLint

inductive Note where
  | noBlockBefore (target : Kind) (offset : Nat)
  | elseWithoutPredecessor (offset : Nat)
  | checked (file : Text) (count : Nat)
deriving DecidableEq

def Note.message : Note → Text
  | .noBlockBefore target offset =>
    "No block before ".toList ++ target.text ++ " at offset ".toList ++ Text.ofNat offset ++
      ", skipped".toList
  | .elseWithoutPredecessor offset =>
    "else keyword at offset ".toList ++ Text.ofNat offset ++ " has no predecessor, skipped".toList
  | .checked file count => file ++ ": ".toList ++ Text.ofNat count ++ " violation(s)".toList

structure Inspection where
  notes : List Note
  found : Except Fault (List Violation)

namespace Inspection

def nothing : Inspection :=
  ⟨[], .ok []⟩

def note (n : Note) : Inspection :=
  ⟨[n], .ok []⟩

def ofFound (found : Except Fault (List Violation)) : Inspection :=
  ⟨[], found⟩

def append (a b : Inspection) : Inspection :=
  match a.found with
  | .error _ => a
  | .ok vs => ⟨a.notes ++ b.notes, b.found.map (vs ++ ·)⟩

instance : Append Inspection := ⟨append⟩

def concat (steps : List Inspection) : Inspection :=
  steps.foldr (· ++ ·) nothing

/-- Notes the number of violations, unless something failed. -/
def close (file : Text) (i : Inspection) : Inspection :=
  match i.found with
  | .error _ => i
  | .ok vs => { i with notes := i.notes ++ [.checked file vs.length] }

theorem append_of_error {a : Inspection} {e : Fault} (h : a.found = .error e) (b : Inspection) :
    a ++ b = a := by
  change append a b = a
  rw [append, h]

theorem append_of_ok {a : Inspection} {vs : List Violation} (h : a.found = .ok vs)
    (b : Inspection) : a ++ b = ⟨a.notes ++ b.notes, b.found.map (vs ++ ·)⟩ := by
  change append a b = _
  rw [append, h]

@[simp] theorem nothing_append (a : Inspection) : nothing ++ a = a := by
  obtain ⟨notes, found⟩ := a
  rw [append_of_ok rfl]
  cases found <;> rfl

@[simp] theorem append_nothing (a : Inspection) : a ++ nothing = a := by
  cases ha : a.found with
  | error fault => exact append_of_error ha nothing
  | ok vs =>
    rw [append_of_ok ha]
    simp only [nothing, Except.map, List.append_nil]
    rw [← ha]

theorem append_assoc (a b c : Inspection) : a ++ b ++ c = a ++ (b ++ c) := by
  cases ha : a.found with
  | error fault => simp only [append_of_error ha]
  | ok vs =>
    rw [append_of_ok ha, append_of_ok ha]
    cases hb : b.found with
    | error fault =>
      rw [append_of_error hb, hb]
      exact append_of_error rfl c
    | ok ws =>
      rw [append_of_ok hb, append_of_ok rfl, List.append_assoc]
      cases c.found with
      | error fault => rfl
      | ok us => simp only [Except.map, List.append_assoc]

theorem concat_append (steps steps' : List Inspection) :
    concat (steps ++ steps') = concat steps ++ concat steps' := by
  induction steps with
  | nil => exact (nothing_append _).symm
  | cons step rest ih =>
    change step ++ concat (rest ++ steps') = step ++ concat rest ++ concat steps'
    rw [ih, append_assoc]

theorem found_append_eq (a b : Inspection) :
    (a ++ b).found = a.found.bind fun vs => b.found.map (vs ++ ·) := by
  cases ha : a.found with
  | error fault => rw [append_of_error ha, ha, Except.bind]
  | ok vs => rw [append_of_ok ha, Except.bind]

theorem found_close (file : Text) (i : Inspection) : (i.close file).found = i.found := by
  unfold close
  split <;> simp_all

end Inspection

end LayoutLint
