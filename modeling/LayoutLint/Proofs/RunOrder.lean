import LayoutLint.Proofs.Reports.Run

/-! A run inspects the constructs of a file in pre-order, a parent before what is below it and
siblings from left to right. It ends at the first inspection that fails, with the notes taken up
to there. Without a failure it finds what the inspections find, one after the other, and notes the
number of violations last. -/
namespace LayoutLint

/-- Whether a note closes a run. The others are about keywords that are left alone. -/
def Note.isSummary : Note → Bool
  | .checked .. => true
  | _ => false

namespace Inspection

theorem mem_notes_append {a b : Inspection} {note : Note} (h : note ∈ (a ++ b).notes) :
    note ∈ a.notes ∨ note ∈ b.notes := by
  cases ha : a.found with
  | error fault =>
    rw [append_of_error ha] at h
    exact Or.inl h
  | ok vs =>
    rw [append_of_ok ha] at h
    exact List.mem_append.1 h

theorem concat_of_ok {steps : List Inspection} {vss : List (List Violation)}
    (h : steps.map (·.found) = vss.map .ok) :
    concat steps = ⟨steps.flatMap (·.notes), .ok vss.flatten⟩ := by
  induction steps generalizing vss with
  | nil =>
    obtain rfl : vss = [] := by simpa using h.symm
    rfl
  | cons step rest ih =>
    obtain ⟨vs, more, rfl, hvs, hmore⟩ := List.map_eq_cons_iff.1 h.symm
    change step ++ concat rest = _
    rw [append_of_ok hvs.symm, ih hmore.symm]
    rfl

theorem concat_of_error {before after : List Inspection} {step : Inspection}
    {vss : List (List Violation)} {fault : Fault} (h : before.map (·.found) = vss.map .ok)
    (hstep : step.found = .error fault) :
    concat (before ++ step :: after) = ⟨(before ++ [step]).flatMap (·.notes), .error fault⟩ := by
  rw [concat_append, concat_of_ok h]
  change _ ++ (step ++ concat after) = _
  rw [append_of_error hstep, append_of_ok rfl, hstep, List.flatMap_append, List.flatMap_singleton]
  rfl

theorem all_ok_or_first_error (steps : List Inspection) :
    (∃ vss : List (List Violation), steps.map (·.found) = vss.map .ok) ∨
      ∃ before step after, ∃ vss : List (List Violation), ∃ fault,
        steps = before ++ step :: after ∧ before.map (·.found) = vss.map .ok ∧
          step.found = .error fault := by
  induction steps with
  | nil => exact Or.inl ⟨[], rfl⟩
  | cons step rest ih =>
    cases hstep : step.found with
    | error fault => exact Or.inr ⟨[], step, rest, [], fault, rfl, rfl, hstep⟩
    | ok vs =>
      rcases ih with ⟨vss, hrest⟩ | ⟨before, next, after, vss, fault, rfl, hbefore, hnext⟩
      · exact Or.inl ⟨vs :: vss, by simp [hstep, hrest]⟩
      · exact Or.inr ⟨step :: before, next, after, vs :: vss, fault, rfl,
          by simp [hstep, hbefore], hnext⟩

theorem exists_of_mem_found_concat {steps : List Inspection} {vs : List Violation} {v : Violation}
    (h : (concat steps).found = .ok vs) (hv : v ∈ vs) :
    ∃ step ∈ steps, ∃ us, step.found = .ok us ∧ v ∈ us := by
  rcases all_ok_or_first_error steps with
    ⟨vss, hall⟩ | ⟨before, step, after, vss, fault, rfl, hbefore, hstep⟩
  · rw [concat_of_ok hall] at h
    obtain rfl := Except.ok.inj h
    obtain ⟨us, hus, hvus⟩ := List.mem_flatten.1 hv
    have hfound : Except.ok us ∈ steps.map (·.found) := by
      rw [hall]
      exact List.mem_map_of_mem hus
    obtain ⟨step, hstep, heq⟩ := List.mem_map.1 hfound
    exact ⟨step, hstep, us, heq, hvus⟩
  · rw [concat_of_error hbefore hstep] at h
    simp at h

end Inspection

namespace Keyword

theorem not_isSummary_of_mem_inspectContinuation {o : Options} {t : Text} {n : Node} {k : Kind}
    {note : Note} (h : note ∈ (inspectContinuation o t n k).notes) : note.isSummary = false := by
  unfold inspectContinuation at h
  split at h
  · simp [Inspection.nothing] at h
  · split at h
    · rw [Inspection.note, List.mem_singleton] at h
      rw [h]
      rfl
    · simp [Inspection.ofFound] at h

theorem not_isSummary_of_mem_inspectIf {o : Options} {t : Text} {n : Node} {note : Note}
    (h : note ∈ (inspectIf o t n).notes) : note.isSummary = false := by
  unfold inspectIf at h
  split at h
  · simp [Inspection.nothing] at h
  · split at h
    · split at h
      · rw [Inspection.note, List.mem_singleton] at h
        rw [h]
        rfl
      · simp [Inspection.ofFound] at h
    · simp [Inspection.nothing] at h

end Keyword

theorem Construct.not_isSummary_of_mem_inspect {o : Options} {t : Text} {n : Node}
    {c : Construct} {note : Note} (h : note ∈ (c.inspect o t n).notes) :
    note.isSummary = false := by
  cases c with
  | constructor => simp [inspect, Inspection.ofFound] at h
  | tryStatement =>
    rcases Inspection.mem_notes_append h with h | h
    · exact Keyword.not_isSummary_of_mem_inspectContinuation h
    · exact Keyword.not_isSummary_of_mem_inspectContinuation h
  | ifStatement => exact Keyword.not_isSummary_of_mem_inspectIf h

/-- The inspection that a node calls for: that of parameters for a constructor, and that of keywords
for a try or an if statement. -/
def Node.inspection? (o : Options) (t : Text) (n : Node) : Option Inspection :=
  match n.kind with
  | .constructor => some (.ofFound (Constructor.inspect o t n))
  | .tryStatement => some (Keyword.inspectTry o t n)
  | .ifStatement => some (Keyword.inspectIf o t n)
  | _ => none

theorem Node.inspection?_eq (o : Options) (t : Text) (n : Node) :
    n.inspection? o t = (Construct.ofKind? n.kind).map fun c => c.inspect o t n := by
  unfold Node.inspection?
  cases n.kind <;> rfl

namespace Source

def steps (o : Options) (s : Source) : List Inspection :=
  s.root.preorder.filterMap (·.inspection? o s.text)

theorem inspect_eq_concat_steps (o : Options) (s : Source) :
    s.inspect o = (Inspection.concat (s.steps o)).close s.name := by
  rw [inspect, Node.constructs_eq, List.map_filterMap, steps]
  simp only [Option.map_map, Node.inspection?_eq]
  rfl

/-- Either all inspections that nodes call for succeed, and the run finds what they find in
pre-order and ends its notes with the number of violations, or the run ends with the fault of the
first one that fails and does not get to that note. -/
theorem inspect_in_preorder (o : Options) (s : Source) :
    (∀ step ∈ s.steps o, ∀ note ∈ step.notes, note.isSummary = false) ∧
      ((∃ vss : List (List Violation), (s.steps o).map (·.found) = vss.map .ok ∧
          s.inspect o = ⟨(s.steps o).flatMap (·.notes) ++ [.checked s.name vss.flatten.length],
            .ok vss.flatten⟩) ∨
        ∃ before step after, ∃ vss : List (List Violation), ∃ fault,
          s.steps o = before ++ step :: after ∧ before.map (·.found) = vss.map .ok ∧
            step.found = .error fault ∧
            s.inspect o = ⟨(before ++ [step]).flatMap (·.notes), .error fault⟩) := by
  constructor
  · intro step hstep note hnote
    obtain ⟨n, -, hn⟩ := List.mem_filterMap.1 hstep
    rw [Node.inspection?_eq] at hn
    obtain ⟨c, -, rfl⟩ := Option.map_eq_some_iff.1 hn
    exact Construct.not_isSummary_of_mem_inspect hnote
  · rw [inspect_eq_concat_steps]
    rcases Inspection.all_ok_or_first_error (s.steps o) with
      ⟨vss, hall⟩ | ⟨before, step, after, vss, fault, hsteps, hbefore, hstep⟩
    · exact Or.inl ⟨vss, hall, by rw [Inspection.concat_of_ok hall]; rfl⟩
    · refine Or.inr ⟨before, step, after, vss, fault, hsteps, hbefore, hstep, ?_⟩
      rw [hsteps, Inspection.concat_of_error hbefore hstep]
      rfl

end Source

end LayoutLint
