import LayoutLint.Proofs.Batch

/-! A batch as one replacement of the original text. Made one after the other from the last fix
back to the first, the replacements leave what all of them make at once of slices of the text as it
was. Where several fixes begin at one offset, the texts that are only put in come in the order in
which they are listed, and before what replaces characters there. -/
namespace LayoutLint

namespace Text

variable {i j k : Nat}

theorem drop_take_eq_slice (t : Text) (i j : Nat) : (t.take j).drop i = t.slice i j :=
  List.drop_take

theorem slice_take (t : Text) (hjk : j ≤ k) : slice (t.take k) i j = t.slice i j := by
  rw [slice, List.drop_take, List.take_take, Nat.min_eq_left (by omega), slice]

end Text

namespace Fix

/-- The text from an offset on, with the replacements of fixes in order made all at once. -/
def woven (t : Text) (offset : Nat) : List Fix → Text
  | [] => t.drop offset
  | f :: rest => t.slice offset f.start ++ f.insert ++ woven t f.stop rest

theorem take_spliced {t : Text} {fixes : List Fix} {k : Nat} (ht : k ≤ t.length)
    (hstart : ∀ f ∈ fixes, k ≤ f.start) : (spliced t fixes).take k = t.take k := by
  induction fixes with
  | nil => rfl
  | cons f rest ih =>
    have hrest : ∀ g ∈ rest, k ≤ g.start := fun g hg => hstart g (List.mem_cons_of_mem f hg)
    have hf := hstart f List.mem_cons_self
    have hlength := le_length_spliced ht hrest
    have htake : k ≤ ((spliced t rest).take f.start).length := by
      rw [List.length_take]
      omega
    rw [spliced_cons, Text.splice, List.append_assoc, List.take_append_of_le_length htake,
      List.take_take, Nat.min_eq_left hf, ih hrest]

theorem drop_spliced {t : Text} {fixes : List Fix} {offset : Nat}
    (hfollows : fixes.Pairwise Follows) (ht : ∀ f ∈ fixes, f.stop ≤ t.length)
    (hstart : ∀ f ∈ fixes, offset ≤ f.start) :
    (spliced t fixes).drop offset = woven t offset fixes := by
  induction fixes generalizing offset with
  | nil => rfl
  | cons f rest ih =>
    rw [List.pairwise_cons] at hfollows
    have hbegin := f.start_le_stop
    have hoffset := hstart f List.mem_cons_self
    have hstop := ht f List.mem_cons_self
    have hbehind : ∀ g ∈ rest, f.start ≤ g.start :=
      fun g hg => hbegin.trans (hfollows.1 g hg)
    -- The later replacements are made already. They leave what stands up to the end of `f`.
    have hbefore : (spliced t rest).take f.start = t.take f.start :=
      take_spliced (hbegin.trans hstop) hbehind
    have hafter : (spliced t rest).drop f.stop = woven t f.stop rest :=
      ih hfollows.2 (fun g hg => ht g (List.mem_cons_of_mem f hg)) hfollows.1
    have hlength : offset ≤ (t.take f.start).length := by
      rw [List.length_take]
      omega
    rw [spliced_cons, Text.splice, hbefore, hafter, List.append_assoc,
      List.drop_append_of_le_length hlength, Text.drop_take_eq_slice, woven, List.append_assoc]

theorem woven_eq_slice_append {t : Text} {fixes : List Fix} {offset k : Nat} (hk : offset ≤ k)
    (hstart : ∀ f ∈ fixes, k ≤ f.start) :
    woven t offset fixes = t.slice offset k ++ woven t k fixes := by
  cases fixes with
  | nil => exact (t.slice_append_drop hk).symm
  | cons f rest =>
    rw [woven, woven, ← t.slice_append_slice hk (hstart f List.mem_cons_self)]
    simp only [List.append_assoc]

theorem woven_append {t : Text} {before after : List Fix} {offset k : Nat} (hk : offset ≤ k)
    (hfollows : before.Pairwise Follows) (hbegin : ∀ f ∈ before, offset ≤ f.start)
    (hbefore : ∀ f ∈ before, f.stop ≤ k) (hafter : ∀ f ∈ after, k ≤ f.start) :
    woven t offset (before ++ after) = woven (t.take k) offset before ++ woven t k after := by
  induction before generalizing offset with
  | nil =>
    rw [List.nil_append, woven_eq_slice_append hk hafter, woven, Text.drop_take_eq_slice]
  | cons f rest ih =>
    rw [List.pairwise_cons] at hfollows
    have hstop := hbefore f List.mem_cons_self
    have hrest := ih hstop hfollows.2 hfollows.1 fun g hg => hbefore g (List.mem_cons_of_mem f hg)
    rw [List.cons_append, woven, woven, hrest, Text.slice_take t (f.start_le_stop.trans hstop)]
    simp only [List.append_assoc]

theorem exists_woven_eq_inserts {here : List Fix} {k : Nat} (hhere : ∀ f ∈ here, f.start = k)
    (hfollows : here.Pairwise Follows) (t : Text) (after : List Fix) :
    ∃ rest, woven t k (here ++ after) = here.flatMap (·.insert) ++ rest := by
  induction here with
  | nil => exact ⟨_, rfl⟩
  | cons f more ih =>
    rw [List.pairwise_cons] at hfollows
    have hf := hhere f List.mem_cons_self
    have hmore : ∀ g ∈ more, g.start = k := fun g hg => hhere g (List.mem_cons_of_mem f hg)
    rw [List.cons_append, woven, hf, Text.slice_self, List.nil_append, List.flatMap_cons]
    cases more with
    | nil => exact ⟨woven t f.stop after, by simp⟩
    | cons g rest =>
      -- Another fix begins here too and does not overlap this one, which so has no width.
      have hstop : f.stop = k := by
        have hle := f.start_le_stop
        have hg := hfollows.1 g List.mem_cons_self
        rw [Follows, hmore g List.mem_cons_self] at hg
        omega
      obtain ⟨behind, hbehind⟩ := ih hmore hfollows.2
      exact ⟨behind, by rw [hstop, hbehind, List.append_assoc]⟩

def insertsAt (k : Nat) (f : Fix) : Bool :=
  f.start = k && f.width = 0

def replacesAt (k : Nat) (f : Fix) : Bool :=
  f.start = k && f.width ≠ 0

theorem insertsAt_iff {k : Nat} {f : Fix} : f.insertsAt k ↔ f.start = k ∧ f.stop = k := by
  simp only [insertsAt, stop, Bool.and_eq_true, decide_eq_true_eq]
  omega

theorem replacesAt_iff {k : Nat} {f : Fix} : f.replacesAt k ↔ f.start = k ∧ k < f.stop := by
  simp only [replacesAt, stop, Bool.and_eq_true, decide_eq_true_eq]
  omega

private theorem filter_append_filter {p q : Fix → Bool} {sorted : List Fix}
    (h : sorted.Pairwise fun f g => f.precedes g) (hpq : ∀ f g, f.precedes g → q f → ¬ p g) :
    sorted.filter p ++ sorted.filter q = sorted.filter fun f => p f || q f := by
  induction sorted with
  | nil => rfl
  | cons f rest ih =>
    rw [List.pairwise_cons] at h
    have hrest := ih h.2
    cases hq : q f with
    | false => cases hp : p f <;> simp [hp, hq, hrest]
    | true =>
      have hp : p f = false := Bool.eq_false_iff.2 (hpq f f (precedes_iff.2 (by omega)) hq)
      have hnone : rest.filter p = [] :=
        List.filter_eq_nil_iff.2 fun g hg => hpq f g (h.1 g hg) hq
      rw [hnone, List.nil_append] at hrest
      simp [hp, hq, hnone, hrest]

/-- A batch in order, by how its fixes lie to an offset: what begins before it, what is only put in
there, what is replaced there, and what begins behind it. -/
theorem eq_parts_at {sorted : List Fix} (h : sorted.Pairwise fun f g => f.precedes g) (k : Nat) :
    sorted = sorted.filter (·.start < k) ++ (sorted.filter (·.insertsAt k) ++
      (sorted.filter (·.replacesAt k) ++ sorted.filter (k < ·.start))) := by
  rw [filter_append_filter (p := (·.replacesAt k)) h, filter_append_filter (p := (·.insertsAt k)) h,
    filter_append_filter (p := (·.start < k)) h]
  · symm
    rw [List.filter_eq_self]
    intro f _
    have := f.start_le_stop
    simp only [Bool.or_eq_true, insertsAt_iff, replacesAt_iff, decide_eq_true_eq]
    omega
  all_goals
    intro f g
    simp only [Bool.or_eq_true, precedes_iff, insertsAt_iff, replacesAt_iff, decide_eq_true_eq]
    omega

theorem filter_insertsAt_eq {sorted fixes : List Fix} (h : SortsStably sorted fixes) (k : Nat) :
    sorted.filter (·.insertsAt k) = fixes.filter (·.insertsAt k) := by
  have hspan : (fun f : Fix => f.insertsAt k) = fun f => decide (f.start = k ∧ f.stop = k) := by
    funext f
    rw [Bool.eq_iff_iff, insertsAt_iff, decide_eq_true_eq]
  rw [hspan]
  exact h.filter_span k k

theorem filter_replacesAt_eq {sorted fixes : List Fix} (h : sorted.Perm fixes)
    (hfollows : sorted.Pairwise Follows) (k : Nat) :
    sorted.filter (·.replacesAt k) = fixes.filter (·.replacesAt k) := by
  have hperm := h.filter (·.replacesAt k)
  have hpairs := hfollows.filter (·.replacesAt k)
  have hmem : ∀ f ∈ sorted.filter (·.replacesAt k), f.start = k ∧ k < f.stop :=
    fun f hf => replacesAt_iff.1 (List.mem_filter.1 hf).2
  generalize sorted.filter (·.replacesAt k) = replacing at *
  match replacing with
  | [] => exact hperm.nil_eq
  | [f] => exact List.singleton_perm.1 hperm
  | f :: g :: rest =>
    have hf := hmem f (by simp)
    have hg := hmem g (by simp)
    have hfg : f.stop ≤ g.start := (List.pairwise_cons.1 hpairs).1 g List.mem_cons_self
    omega

theorem exists_woven_eq_at {sorted : List Fix} (hsorted : sorted.Pairwise fun f g => f.precedes g)
    (hfollows : sorted.Pairwise Follows) {f : Fix} (hf : f ∈ sorted) (t : Text) :
    ∃ rest, woven t 0 sorted = woven (t.take f.start) 0 (sorted.filter (·.start < f.start)) ++
      ((sorted.filter (·.insertsAt f.start)).flatMap (·.insert) ++
        ((sorted.filter (·.replacesAt f.start)).flatMap (·.insert) ++ rest)) := by
  have hparts := eq_parts_at hsorted f.start
  generalize hk : f.start = k at hparts
  have hhere : ∀ g ∈ sorted.filter (·.insertsAt k) ++ sorted.filter (·.replacesAt k),
      g.start = k := by
    simp only [List.mem_append, List.mem_filter, insertsAt_iff, replacesAt_iff]
    rintro g (⟨-, hg, -⟩ | ⟨-, hg, -⟩) <;> exact hg
  have hbegin : f ∈ sorted.filter (·.insertsAt k) ++ sorted.filter (·.replacesAt k) := by
    have := f.start_le_stop
    simp only [List.mem_append, List.mem_filter, insertsAt_iff, replacesAt_iff, hf, true_and]
    omega
  have hlater : ∀ g ∈ sorted.filter (·.insertsAt k) ++ sorted.filter (·.replacesAt k) ++
      sorted.filter (k < ·.start), k ≤ g.start := by
    intro g hg
    rcases List.mem_append.1 hg with hg | hg
    · exact (hhere g hg).ge
    · exact Nat.le_of_lt (by simpa using (List.mem_filter.1 hg).2)
  rw [← List.append_assoc (sorted.filter (·.insertsAt k))] at hparts
  have hpairs := hparts ▸ hfollows
  rw [List.pairwise_append, List.pairwise_append] at hpairs
  obtain ⟨hearlier, ⟨hmeet, -, -⟩, hacross⟩ := hpairs
  -- What begins before the offset ends by then, since `f` begins there and overlaps nothing.
  have hbefore : ∀ g ∈ sorted.filter (·.start < k), g.stop ≤ k :=
    fun g hg => hk ▸ hacross g hg f (List.mem_append_left _ hbegin)
  obtain ⟨rest, hrest⟩ :=
    exists_woven_eq_inserts hhere hmeet t (sorted.filter (k < ·.start))
  refine ⟨rest, ?_⟩
  calc woven t 0 sorted
      = woven t 0 (sorted.filter (·.start < k) ++ (sorted.filter (·.insertsAt k) ++
          sorted.filter (·.replacesAt k) ++ sorted.filter (k < ·.start))) :=
        congrArg (woven t 0) hparts
    _ = woven (t.take k) 0 (sorted.filter (·.start < k)) ++
          woven t k (sorted.filter (·.insertsAt k) ++ sorted.filter (·.replacesAt k) ++
            sorted.filter (k < ·.start)) :=
        woven_append (Nat.zero_le k) hearlier (fun g _ => Nat.zero_le _) hbefore hlater
    _ = _ := by rw [hrest, List.flatMap_append, List.append_assoc]

/-- A batch that applies is one replacement of slices of the text as it was. At an offset where a
fix begins, the texts put in stand in the order in which they are listed, behind what the earlier
fixes make of the text up to there and before the text of a replacement. -/
theorem applyAll_eq_woven {limits : Limits} {t u : Text} {fixes : List Fix}
    (h : applyAll limits t fixes = .ok u) :
    SortsStably (ordered fixes) fixes ∧ u = woven t 0 (ordered fixes) ∧
      ∀ k, (∃ f ∈ fixes, f.start = k) → ∃ rest,
        u = woven (t.take k) 0 ((ordered fixes).filter (·.start < k)) ++
          ((fixes.filter (·.insertsAt k)).flatMap (·.insert) ++
            ((fixes.filter (·.replacesAt k)).flatMap (·.insert) ++ rest)) := by
  have hsorts := ordered_sortsStably fixes
  have houtcome := outcome_applyAll limits t fixes
  rw [h] at houtcome
  cases houtcome with
  | applied hapart hinside =>
    have hfollows := (pairwise_ordered_iff fixes).2 hapart
    have hwoven : spliced t (ordered fixes) = woven t 0 (ordered fixes) :=
      drop_spliced hfollows (fun f hf => hinside f (hsorts.perm.mem_iff.1 hf))
        fun f _ => Nat.zero_le _
    refine ⟨hsorts, hwoven, ?_⟩
    rintro k ⟨f, hf, rfl⟩
    -- Sorting keeps the insertions at one offset in the order in which they are listed.
    obtain ⟨rest, hrest⟩ :=
      exists_woven_eq_at (pairwise_ordered fixes) hfollows (hsorts.perm.mem_iff.2 hf) t
    rw [filter_insertsAt_eq hsorts, filter_replacesAt_eq hsorts.perm hfollows] at hrest
    exact ⟨rest, hwoven.trans hrest⟩

def oneOffset : List Fix :=
  [⟨4, 0, "z".toList⟩, ⟨2, 1, "C".toList⟩, ⟨2, 0, "y".toList⟩, ⟨2, 0, "x".toList⟩]

theorem applyAll_eq_woven_oneOffset :
    applyAll .usual "abcd".toList oneOffset = .ok "abyxCdz".toList ∧
    "abyxCdz".toList = woven "abcd".toList 0 (ordered oneOffset) := by
  have hordered : ordered oneOffset =
      [⟨2, 0, "y".toList⟩, ⟨2, 0, "x".toList⟩, ⟨2, 1, "C".toList⟩, ⟨4, 0, "z".toList⟩] := by
    simp [oneOffset, ordered, precedes, stop, List.mergeSort,
      List.MergeSort.Internal.splitInTwo]
  have happly : applyAll .usual "abcd".toList oneOffset = .ok "abyxCdz".toList := by
    rw [applyAll, hordered]
    rfl
  exact ⟨happly, (applyAll_eq_woven happly).2.1⟩

end Fix

end LayoutLint
