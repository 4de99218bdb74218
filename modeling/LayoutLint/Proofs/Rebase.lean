import LayoutLint.Proofs.Batch
import LayoutLint.Tree.Span

/-! Where offsets stand after a batch of fixes. A place where something begins moves with all
that is put in before it or at it, a place where something ends only with what is put in
before. -/
namespace LayoutLint

namespace Fix

def growth (f : Fix) : Nat :=
  f.insert.length - f.width

def totalGrowth : List Fix → Nat
  | [] => 0
  | f :: rest => f.growth + totalGrowth rest

/-- Where an offset stands at which something begins. -/
def moved (fixes : List Fix) (offset : Nat) : Nat :=
  offset + totalGrowth (fixes.filter (·.stop ≤ offset))

def movedEnd (fixes : List Fix) (offset : Nat) : Nat :=
  offset + totalGrowth (fixes.filter fun f => f.stop ≤ offset && f.start < offset)

@[simp] theorem totalGrowth_cons (f : Fix) (rest : List Fix) :
    totalGrowth (f :: rest) = f.growth + totalGrowth rest := rfl

@[simp] theorem moved_nil (offset : Nat) : moved [] offset = offset := rfl

theorem moved_cons (f : Fix) (rest : List Fix) (offset : Nat) :
    moved (f :: rest) offset =
      moved rest offset + if f.stop ≤ offset then f.growth else 0 := by
  unfold moved
  by_cases hstop : f.stop ≤ offset
  · simp only [List.filter_cons, hstop, decide_true, if_true, totalGrowth_cons]
    omega
  · simp [hstop]

theorem movedEnd_cons (f : Fix) (rest : List Fix) (offset : Nat) :
    movedEnd (f :: rest) offset =
      movedEnd rest offset + if f.stop ≤ offset ∧ f.start < offset then f.growth else 0 := by
  unfold movedEnd
  by_cases hstop : f.stop ≤ offset ∧ f.start < offset
  · simp only [List.filter_cons, hstop, decide_true, Bool.and_self, if_true, totalGrowth_cons]
    simp only [and_self, if_true]
    omega
  · simp [hstop]

theorem le_moved (fixes : List Fix) (offset : Nat) : offset ≤ moved fixes offset :=
  Nat.le_add_right ..

theorem le_movedEnd (fixes : List Fix) (offset : Nat) : offset ≤ movedEnd fixes offset :=
  Nat.le_add_right ..

theorem movedEnd_le_moved (fixes : List Fix) (offset : Nat) :
    movedEnd fixes offset ≤ moved fixes offset := by
  induction fixes with
  | nil => exact Nat.le_refl _
  | cons f rest ih =>
    rw [moved_cons, movedEnd_cons]
    split <;> split <;> omega

theorem moved_mono (fixes : List Fix) {a b : Nat} (hab : a ≤ b) :
    moved fixes a ≤ moved fixes b := by
  induction fixes with
  | nil => exact hab
  | cons f rest ih =>
    rw [moved_cons, moved_cons]
    split <;> split <;> omega

theorem moved_le_movedEnd (fixes : List Fix) {a b : Nat} (hab : a < b) :
    moved fixes a ≤ movedEnd fixes b := by
  induction fixes with
  | nil => exact Nat.le_of_lt hab
  | cons f rest ih =>
    have hf := f.start_le_stop
    rw [moved_cons, movedEnd_cons]
    split <;> split <;> omega

theorem moved_le_add_totalGrowth (fixes : List Fix) (offset : Nat) :
    moved fixes offset ≤ offset + totalGrowth fixes := by
  induction fixes with
  | nil => exact Nat.le_refl _
  | cons f rest ih =>
    rw [moved_cons, totalGrowth_cons]
    split <;> omega

theorem totalGrowth_perm {fixes fixes' : List Fix} (h : fixes.Perm fixes') :
    totalGrowth fixes = totalGrowth fixes' := by
  induction h with
  | nil => rfl
  | cons f h ih => rw [totalGrowth, totalGrowth, ih]
  | swap f g rest =>
    simp only [totalGrowth]
    omega
  | trans _ _ ih ih' => exact ih.trans ih'

theorem moved_perm {fixes fixes' : List Fix} (h : fixes.Perm fixes') (offset : Nat) :
    moved fixes offset = moved fixes' offset := by
  rw [moved, moved, totalGrowth_perm (h.filter _)]

theorem movedEnd_perm {fixes fixes' : List Fix} (h : fixes.Perm fixes') (offset : Nat) :
    movedEnd fixes offset = movedEnd fixes' offset := by
  rw [movedEnd, movedEnd, totalGrowth_perm (h.filter _)]

theorem moved_eq_self {fixes : List Fix} {offset : Nat} (h : ∀ f ∈ fixes, offset < f.stop) :
    moved fixes offset = offset := by
  have hnone : fixes.filter (·.stop ≤ offset) = [] := by
    rw [List.filter_eq_nil_iff]
    intro f hf
    simpa using h f hf
  rw [moved, hnone]
  rfl

theorem movedEnd_eq_self {fixes : List Fix} {offset : Nat} (h : ∀ f ∈ fixes, offset ≤ f.start) :
    movedEnd fixes offset = offset := by
  have hnone : fixes.filter (fun f => f.stop ≤ offset && f.start < offset) = [] := by
    rw [List.filter_eq_nil_iff]
    intro f hf
    have := h f hf
    simp only [Bool.and_eq_true, decide_eq_true_eq, not_and, not_lt]
    omega
  rw [movedEnd, hnone]
  rfl

theorem moved_singleton_moved {f : Fix} {rest : List Fix} (h : ∀ g ∈ rest, f.Follows g)
    (offset : Nat) : moved [f] (moved rest offset) = moved (f :: rest) offset := by
  have hle := le_moved rest offset
  simp only [moved_cons, moved_nil]
  by_cases hstop : f.stop ≤ offset
  · rw [if_pos hstop, if_pos (hstop.trans hle)]
  · have hself : moved rest offset = offset :=
      moved_eq_self fun g hg =>
        (Nat.lt_of_not_le hstop).trans_le ((h g hg).trans g.start_le_stop)
    rw [hself]

theorem length_spliced {t : Text} {fixes : List Fix} (hfollows : fixes.Pairwise Follows)
    (hwidth : ∀ f ∈ fixes, f.width ≤ f.insert.length) (ht : ∀ f ∈ fixes, f.stop ≤ t.length) :
    (spliced t fixes).length = t.length + totalGrowth fixes := by
  induction fixes with
  | nil => rfl
  | cons f rest ih =>
    rw [List.pairwise_cons] at hfollows
    have hrest := ih hfollows.2 (fun g hg => hwidth g (List.mem_cons_of_mem f hg))
      fun g hg => ht g (List.mem_cons_of_mem f hg)
    have hf := hwidth f List.mem_cons_self
    have hstop := ht f List.mem_cons_self
    have hspan : f.stop = f.start + f.width := rfl
    simp only [spliced_cons, Text.splice, List.length_append, List.length_take, List.length_drop,
      hrest, totalGrowth_cons, growth]
    omega

end Fix

/-- A batch of fixes that put in at least as much as they take out. -/
structure Edits where
  fixes : List Fix
  width_le : ∀ f ∈ fixes, f.width ≤ f.insert.length

/-- A span after a batch of edits. An empty span moves as a whole with its start. -/
def Edits.rebase (e : Edits) (s : Span) : Span :=
  if h : s.start < s.stop then
    { fullStart := Fix.moved e.fixes s.fullStart
      start := Fix.moved e.fixes s.start
      stop := Fix.movedEnd e.fixes s.stop
      fullStart_le_start := Fix.moved_mono e.fixes s.fullStart_le_start
      start_le_stop := Fix.moved_le_movedEnd e.fixes h }
  else
    { fullStart := Fix.moved e.fixes s.start - (s.start - s.fullStart)
      start := Fix.moved e.fixes s.start
      stop := Fix.moved e.fixes s.start }

namespace Edits

variable (e : Edits) {s : Span}

@[simp] theorem start_rebase (s : Span) : (e.rebase s).start = Fix.moved e.fixes s.start := by
  unfold rebase
  split <;> rfl

theorem stop_rebase (h : s.start < s.stop) :
    (e.rebase s).stop = Fix.movedEnd e.fixes s.stop := by
  unfold rebase
  rw [dif_pos h]

theorem stop_rebase_le (s : Span) :
    (e.rebase s).stop ≤ s.stop + Fix.totalGrowth e.fixes := by
  unfold rebase
  split
  · exact (Fix.movedEnd_le_moved ..).trans (Fix.moved_le_add_totalGrowth ..)
  · have := Fix.moved_le_add_totalGrowth e.fixes s.start
    have := s.start_le_stop
    simp only
    omega

end Edits

end LayoutLint
