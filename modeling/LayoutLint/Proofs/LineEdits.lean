import LayoutLint.Proofs.Lines
import LayoutLint.Proofs.Rebase

/-! Fixes that put in line breaks. Such a fix begins with a line feed and takes out one character
at most. It parts what stands before it from what stands behind it, and it never joins two lines,
not even where the line feed comes to stand behind a carriage return. -/
namespace LayoutLint.Fix

/-- The fix puts in a line feed first and takes out one character at most. -/
structure BreaksLine (f : Fix) : Prop where
  head : f.insert.head? = some '\n'
  width_le_one : f.width ≤ 1

/-- Nothing begins at a character that the fix takes out. -/
def Spares (f : Fix) (offset : Nat) : Prop :=
  offset < f.start ∨ f.stop ≤ offset

variable {f : Fix} {t : Text}

theorem BreaksLine.length_insert_pos (h : f.BreaksLine) : 0 < f.insert.length := by
  cases hinsert : f.insert with
  | nil => simpa [hinsert] using h.head
  | cons c rest => simp

theorem BreaksLine.width_le (h : f.BreaksLine) : f.width ≤ f.insert.length :=
  h.width_le_one.trans h.length_insert_pos

theorem getElem?_splice_of_lt {j : Nat} (ht : f.stop ≤ t.length) (hj : j < f.start) :
    (t.splice f.start f.stop f.insert)[j]? = t[j]? := by
  have hstart := f.start_le_stop
  have hlength : j < (t.take f.start).length := by
    rw [List.length_take]
    omega
  rw [Text.splice, List.append_assoc, List.getElem?_append_left hlength,
    List.getElem?_take_of_lt hj]

theorem getElem?_splice_start (h : f.BreaksLine) (ht : f.stop ≤ t.length) :
    (t.splice f.start f.stop f.insert)[f.start]? = some '\n' := by
  have hstart := f.start_le_stop
  have hlength : (t.take f.start).length = f.start := by
    rw [List.length_take]
    omega
  have hpos := h.length_insert_pos
  rw [Text.splice, List.append_assoc, List.getElem?_append_right (by omega), hlength,
    Nat.sub_self, List.getElem?_append_left hpos, ← List.head?_eq_getElem?]
  exact h.head

theorem getElem?_splice_of_le (h : f.BreaksLine) (ht : f.stop ≤ t.length) {j : Nat}
    (hj : f.stop ≤ j) : (t.splice f.start f.stop f.insert)[j + f.growth]? = t[j]? := by
  have hstart := f.start_le_stop
  have hwidth := h.width_le
  have hstop : f.stop = f.start + f.width := rfl
  have hlength : (t.take f.start ++ f.insert).length = f.start + f.insert.length := by
    rw [List.length_append, List.length_take]
    omega
  have hindex : j + f.growth - (f.start + f.insert.length) = j - f.stop := by
    unfold growth
    omega
  have hback : f.stop + (j - f.stop) = j := by omega
  rw [Text.splice, List.getElem?_append_right (by rw [hlength]; unfold growth; omega), hlength,
    hindex, List.getElem?_drop, hback]

theorem endsLineAt_splice_start (h : f.BreaksLine) (ht : f.stop ≤ t.length) :
    (t.splice f.start f.stop f.insert).endsLineAt f.start := by
  have hnewline := getElem?_splice_start h ht
  rw [← List.head?_drop] at hnewline
  unfold Text.endsLineAt
  split
  · rename_i hdrop
    simp [hdrop] at hnewline
  · rename_i c rest hdrop
    rw [hdrop, List.head?_cons, Option.some.injEq] at hnewline
    rw [hnewline]
    exact Text.endsLine_lineFeed rest

theorem exists_endsLineAt_splice (h : f.BreaksLine) (ht : f.stop ≤ t.length) {a b j : Nat}
    (hb : f.Spares b) (haj : a ≤ j) (hjb : j < b) (hj : t.endsLineAt j) :
    ∃ k, moved [f] a ≤ k ∧ k < moved [f] b ∧
      (t.splice f.start f.stop f.insert).endsLineAt k := by
  have hstop : f.stop = f.start + f.width := rfl
  have hwidth := h.width_le_one
  have hpos := h.length_insert_pos
  have hgrowth : f.growth = f.insert.length - f.width := rfl
  simp only [moved_cons, moved_nil]
  -- The line end is in front of the fix, behind it, or touched by it.
  by_cases hbefore : j + 1 < f.start
  · refine ⟨j, ?_, ?_, ?_⟩
    · rw [if_neg (by omega)]
      exact haj
    · split <;> omega
    · rw [Text.endsLineAt_congr (getElem?_splice_of_lt ht (by omega))
        (getElem?_splice_of_lt ht hbefore)]
      exact hj
  · by_cases hbehind : f.stop ≤ j
    · refine ⟨j + f.growth, ?_, ?_, ?_⟩
      · split <;> omega
      · rw [if_pos (by omega)]
        omega
      · have hnext := getElem?_splice_of_le h ht (show f.stop ≤ j + 1 by omega)
        rw [Nat.add_right_comm] at hnext
        rw [Text.endsLineAt_congr (getElem?_splice_of_le h ht hbehind) hnext]
        exact hj
    · -- The line ended right before the fix or at what it takes out: its own line feed takes over.
      have hreach : f.stop ≤ b := by
        rcases hb with hb | hb <;> omega
      refine ⟨f.start, ?_, ?_, endsLineAt_splice_start h ht⟩
      · rw [if_neg (by omega)]
        omega
      · rw [if_pos hreach]
        omega

variable {fixes : List Fix}

theorem exists_endsLineAt_spliced (hfollows : fixes.Pairwise Follows)
    (hbreaks : ∀ f ∈ fixes, f.BreaksLine) (ht : ∀ f ∈ fixes, f.stop ≤ t.length) {a b j : Nat}
    (hb : ∀ f ∈ fixes, f.Spares b) (haj : a ≤ j) (hjb : j < b) (hj : t.endsLineAt j) :
    ∃ k, moved fixes a ≤ k ∧ k < moved fixes b ∧ (spliced t fixes).endsLineAt k := by
  induction fixes with
  | nil => exact ⟨j, haj, hjb, hj⟩
  | cons f rest ih =>
    rw [List.pairwise_cons] at hfollows
    obtain ⟨hf, hrest⟩ := hfollows
    simp only [List.forall_mem_cons] at hbreaks ht hb
    obtain ⟨k, hak, hkb, hk⟩ := ih hrest hbreaks.2 ht.2 hb.2
    have hspares : f.Spares (moved rest b) := by
      rcases hb.1 with hbefore | hbehind
      · left
        rw [moved_eq_self fun g hg =>
          hbefore.trans_le (f.start_le_stop.trans ((hf g hg).trans g.start_le_stop))]
        exact hbefore
      · exact Or.inr (hbehind.trans (le_moved rest b))
    rw [← moved_singleton_moved hf, ← moved_singleton_moved hf]
    exact exists_endsLineAt_splice hbreaks.1 (le_length_spliced ht.1 hf) hspares hak hkb hk

theorem exists_endsLineAt_spliced_of_mem (hfollows : fixes.Pairwise Follows)
    (hbreaks : ∀ f ∈ fixes, f.BreaksLine) (ht : ∀ f ∈ fixes, f.stop ≤ t.length) {a b : Nat}
    (hf : f ∈ fixes) (ha : a ≤ f.start) (hb : f.stop ≤ b) :
    ∃ k, movedEnd fixes a ≤ k ∧ k < moved fixes b ∧ (spliced t fixes).endsLineAt k := by
  induction fixes with
  | nil => simp at hf
  | cons g rest ih =>
    rw [List.pairwise_cons] at hfollows
    obtain ⟨hg, hrest⟩ := hfollows
    simp only [List.forall_mem_cons] at hbreaks ht
    have hlength := le_length_spliced ht.1 hg
    -- The first fix is made last. It ends a line itself or keeps the line end of a later one.
    rcases List.mem_cons.1 hf with rfl | hf
    · refine ⟨f.start, ?_, ?_, endsLineAt_splice_start hbreaks.1 hlength⟩
      · rw [movedEnd_eq_self]
        · exact ha
        · intro h hh
          rcases List.mem_cons.1 hh with rfl | hh
          · exact ha
          · exact ha.trans (f.start_le_stop.trans (hg h hh))
      · have hpos := hbreaks.1.length_insert_pos
        have hmoved := le_moved rest b
        have hspan : f.stop = f.start + f.width := rfl
        rw [moved_cons, if_pos hb, growth]
        omega
    · obtain ⟨k, hak, hkb, hk⟩ := ih hrest hbreaks.2 ht.2 hf
      have hspares : g.Spares (moved rest b) :=
        Or.inr ((hg f hf).trans (f.start_le_stop.trans (hb.trans (le_moved rest b))))
      obtain ⟨k', hak', hkb', hk'⟩ :=
        exists_endsLineAt_splice hbreaks.1 hlength hspares hak hkb hk
      refine ⟨k', ?_, ?_, hk'⟩
      · refine Nat.le_trans ?_ hak'
        have hle := le_movedEnd rest a
        simp only [movedEnd_cons, moved_cons, moved_nil]
        split <;> split <;> omega
      · rw [← moved_singleton_moved hg]
        exact hkb'

/-- Fixes that put in line breaks, apart from one another and inside the text. -/
structure LineBreaks (t : Text) (fixes : List Fix) : Prop where
  breaksLine : ∀ f ∈ fixes, f.BreaksLine
  apart : fixes.Pairwise Apart
  stop_le : ∀ f ∈ fixes, f.stop ≤ t.length

namespace LineBreaks

theorem applyAll_eq (h : LineBreaks t fixes) (limits : Limits) :
    applyAll limits t fixes = .ok (spliced t (ordered fixes)) :=
  applyAll_eq_ok h.apart h.stop_le

theorem width_le (h : LineBreaks t fixes) : ∀ f ∈ fixes, f.width ≤ f.insert.length :=
  fun f hf => (h.breaksLine f hf).width_le

theorem ordered (h : LineBreaks t fixes) :
    LineBreaks t (ordered fixes) ∧ (Fix.ordered fixes).Pairwise Follows := by
  have hperm := ordered_perm fixes
  refine ⟨⟨?_, ?_, ?_⟩, (pairwise_ordered_iff fixes).2 h.apart⟩
  · exact fun f hf => h.breaksLine f (hperm.mem_iff.1 hf)
  · exact (hperm.pairwise_iff Apart.symm).2 h.apart
  · exact fun f hf => h.stop_le f (hperm.mem_iff.1 hf)

theorem length_eq (h : LineBreaks t fixes) :
    (spliced t (Fix.ordered fixes)).length = t.length + totalGrowth fixes := by
  obtain ⟨hordered, hfollows⟩ := h.ordered
  rw [length_spliced hfollows hordered.width_le hordered.stop_le,
    totalGrowth_perm (ordered_perm fixes)]

/-- What began on another line than an offset before it still does. -/
theorem line_moved_ne (h : LineBreaks t fixes) {a a' b : Nat} (hab : a ≤ b)
    (hb : ∀ f ∈ fixes, f.Spares b) (hne : (t.positionAt a).line ≠ (t.positionAt b).line)
    (ha : a' ≤ moved fixes a) :
    ((spliced t (Fix.ordered fixes)).positionAt a').line ≠
      ((spliced t (Fix.ordered fixes)).positionAt (moved fixes b)).line := by
  obtain ⟨hordered, hfollows⟩ := h.ordered
  have hperm := ordered_perm fixes
  obtain ⟨j, haj, hjb, hj⟩ := (Text.line_ne_iff hab).1 hne
  obtain ⟨k, hak, hkb, hk⟩ := exists_endsLineAt_spliced hfollows hordered.breaksLine
    hordered.stop_le (fun f hf => hb f (hperm.mem_iff.1 hf)) haj hjb hj
  rw [moved_perm hperm] at hak hkb
  exact (Text.line_ne_iff (ha.trans (moved_mono fixes hab))).2 ⟨k, ha.trans hak, hkb, hk⟩

theorem line_moved_ne_of_mem (h : LineBreaks t fixes) {a b : Nat} (hf : f ∈ fixes)
    (ha : a ≤ f.start) (hb : f.stop ≤ b) :
    ((spliced t (Fix.ordered fixes)).positionAt (movedEnd fixes a)).line ≠
      ((spliced t (Fix.ordered fixes)).positionAt (moved fixes b)).line := by
  obtain ⟨hordered, hfollows⟩ := h.ordered
  have hperm := ordered_perm fixes
  obtain ⟨k, hak, hkb, hk⟩ := exists_endsLineAt_spliced_of_mem hfollows hordered.breaksLine
    hordered.stop_le (hperm.mem_iff.2 hf) ha hb
  rw [movedEnd_perm hperm] at hak
  rw [moved_perm hperm] at hkb
  exact (Text.line_ne_iff (hak.trans hkb.le)).2 ⟨k, hak, hkb, hk⟩

end LineBreaks

end LayoutLint.Fix
