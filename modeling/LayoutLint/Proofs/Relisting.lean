import LayoutLint.Proofs.Batch

/-! Batches that are listed differently. A list in order is known from what it holds of each span,
so that a stable sort does not depend on how fixes of different spans were listed. What becomes of a
batch is read off the sorted list: the text, or the refusal and the fixes that it names. -/
namespace LayoutLint.Fix

def sharesSpan (f g : Fix) : Bool :=
  g.start = f.start && g.width = f.width

theorem sharesSpan_iff {f g : Fix} : f.sharesSpan g ↔ g.start = f.start ∧ g.stop = f.stop := by
  simp only [sharesSpan, stop, Bool.and_eq_true, decide_eq_true_eq]
  omega

theorem sharesSpan_self (f : Fix) : f.sharesSpan f := by
  simp [sharesSpan]

theorem sharesSpan_of_precedes {f g : Fix} (hfg : f.precedes g) (hgf : g.precedes f) :
    f.sharesSpan g := by
  rw [precedes_iff] at hfg hgf
  rw [sharesSpan_iff]
  omega

/-- The two lists hold the same fixes of each span, in the same order. -/
def SameBySpan (l l' : List Fix) : Prop :=
  ∀ f : Fix, l.filter f.sharesSpan = l'.filter f.sharesSpan

namespace SameBySpan

variable {l l' : List Fix}

theorem symm (h : SameBySpan l l') : SameBySpan l' l :=
  fun f => (h f).symm

theorem mem (h : SameBySpan l l') {f : Fix} (hf : f ∈ l) : f ∈ l' := by
  have hfilter : f ∈ l.filter f.sharesSpan := List.mem_filter.2 ⟨hf, f.sharesSpan_self⟩
  rw [h f] at hfilter
  exact (List.mem_filter.1 hfilter).1

theorem head_eq {f g : Fix} (h : SameBySpan (f :: l) (g :: l'))
    (hsorted : (f :: l).Pairwise fun f g => f.precedes g)
    (hsorted' : (g :: l').Pairwise fun f g => f.precedes g) : f = g := by
  -- Each of the two occurs in both lists, and so each precedes the other.
  have hspan : f.sharesSpan g := by
    rcases List.mem_cons.1 (h.symm.mem List.mem_cons_self) with rfl | hg
    · exact g.sharesSpan_self
    rcases List.mem_cons.1 (h.mem List.mem_cons_self) with rfl | hf
    · exact f.sharesSpan_self
    · exact sharesSpan_of_precedes ((List.pairwise_cons.1 hsorted).1 g hg)
        ((List.pairwise_cons.1 hsorted').1 f hf)
  -- Of one span both are the first.
  have hfilter := h f
  rw [List.filter_cons_of_pos f.sharesSpan_self, List.filter_cons_of_pos hspan] at hfilter
  exact List.head_eq_of_cons_eq hfilter

theorem of_cons {f : Fix} (h : SameBySpan (f :: l) (f :: l')) : SameBySpan l l' := by
  intro g
  have hfilter := h g
  rw [List.filter_cons, List.filter_cons] at hfilter
  split at hfilter
  · exact List.tail_eq_of_cons_eq hfilter
  · exact hfilter

theorem eq (h : SameBySpan l l') (hsorted : l.Pairwise fun f g => f.precedes g)
    (hsorted' : l'.Pairwise fun f g => f.precedes g) : l = l' := by
  induction l generalizing l' with
  | nil =>
    symm
    exact List.eq_nil_iff_forall_not_mem.2 fun f hf => List.not_mem_nil (h.symm.mem hf)
  | cons f rest ih =>
    cases l' with
    | nil => exact absurd (h.mem List.mem_cons_self) List.not_mem_nil
    | cons g rest' =>
      obtain rfl := h.head_eq hsorted hsorted'
      rw [ih h.of_cons (List.pairwise_cons.1 hsorted).2 (List.pairwise_cons.1 hsorted').2]

end SameBySpan

theorem sameBySpan_ordered (fixes : List Fix) : SameBySpan (ordered fixes) fixes := by
  intro f
  have hspan : f.sharesSpan = fun g => decide (g.start = f.start ∧ g.stop = f.stop) := by
    funext g
    rw [Bool.eq_iff_iff, sharesSpan_iff, decide_eq_true_eq]
  rw [hspan]
  exact (ordered_sortsStably fixes).filter_span f.start f.stop

theorem ordered_eq_of_sameBySpan {fixes fixes' : List Fix} (h : SameBySpan fixes fixes') :
    ordered fixes = ordered fixes' := by
  have hordered : SameBySpan (ordered fixes) (ordered fixes') := fun f =>
    (sameBySpan_ordered fixes f).trans ((h f).trans (sameBySpan_ordered fixes' f).symm)
  exact hordered.eq (pairwise_ordered fixes) (pairwise_ordered fixes')

theorem sameBySpan_of_perm {fixes fixes' : List Fix} (hperm : fixes.Perm fixes')
    (h : ∀ f ∈ fixes, fixes.filter f.sharesSpan = fixes'.filter f.sharesSpan) :
    SameBySpan fixes fixes' := by
  intro f
  by_cases hf : ∃ g ∈ fixes, f.sharesSpan g
  · obtain ⟨g, hg, hspan⟩ := hf
    have hsame : f.sharesSpan = g.sharesSpan := by
      funext e
      rw [sharesSpan_iff] at hspan
      rw [Bool.eq_iff_iff, sharesSpan_iff, sharesSpan_iff, hspan.1, hspan.2]
    rw [hsame]
    exact h g hg
  · have hnone : fixes.filter f.sharesSpan = [] :=
      List.filter_eq_nil_iff.2 fun g hg hspan => hf ⟨g, hg, hspan⟩
    have hnone' : fixes'.filter f.sharesSpan = [] :=
      (hnone ▸ (hperm.filter f.sharesSpan)).nil_eq.symm
    rw [hnone, hnone']

/-- What becomes of a batch, the text or the refusal with all that it names, does not depend on the
order in which fixes of different spans are listed. -/
theorem applyAll_relisted (limits : Limits) (t : Text) {fixes fixes' : List Fix}
    (hperm : fixes.Perm fixes')
    (hspan : ∀ f ∈ fixes, fixes.filter f.sharesSpan = fixes'.filter f.sharesSpan) :
    applyAll limits t fixes = applyAll limits t fixes' := by
  have hordered := ordered_eq_of_sameBySpan (sameBySpan_of_perm hperm hspan)
  rw [applyAll, applyAll, hordered]

def conflicting : List Fix :=
  [⟨0, 2, "a".toList⟩, ⟨1, 2, "b".toList⟩, ⟨1, 2, "c".toList⟩, ⟨4, 0, "d".toList⟩]

def conflictingRelisted : List Fix :=
  [⟨1, 2, "b".toList⟩, ⟨4, 0, "d".toList⟩, ⟨1, 2, "c".toList⟩, ⟨0, 2, "a".toList⟩]

/-- Of the two conflicts the same one is named. -/
theorem applyAll_relisted_conflicting : conflictingRelisted.Perm conflicting ∧
    (∀ f ∈ conflictingRelisted,
      conflictingRelisted.filter f.sharesSpan = conflicting.filter f.sharesSpan) ∧
    applyAll .usual "pqrs".toList conflictingRelisted =
      .error (.badFix ⟨1, 2, "b".toList⟩ (.overlaps ⟨0, 2, "a".toList⟩)) := by
  have hperm : conflictingRelisted.Perm conflicting := by decide
  have hspan : ∀ f ∈ conflictingRelisted,
      conflictingRelisted.filter f.sharesSpan = conflicting.filter f.sharesSpan := by decide
  have hordered : ordered conflicting = conflicting :=
    List.mergeSort_of_pairwise (by decide)
  refine ⟨hperm, hspan, ?_⟩
  rw [applyAll_relisted .usual _ hperm hspan, applyAll, hordered]
  rfl

end LayoutLint.Fix
