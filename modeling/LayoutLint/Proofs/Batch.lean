import Mathlib.Data.List.Chain
import LayoutLint.Fix.Batch
import LayoutLint.Proofs.Writing

/-! What becomes of a batch of fixes. It is put in order first, and then refused if two of its fixes
overlap or the last one reaches past the end of the text. Otherwise it is the fixes' replacements
made from the last one back to the first. -/
namespace LayoutLint.Fix

/-- Two fixes do not overlap: one ends where the other begins, or before. -/
def Apart (f g : Fix) : Prop :=
  f.stop ≤ g.start ∨ g.stop ≤ f.start

instance (f g : Fix) : Decidable (f.Apart g) :=
  inferInstanceAs (Decidable (f.stop ≤ g.start ∨ g.stop ≤ f.start))

theorem Apart.symm {f g : Fix} (h : f.Apart g) : g.Apart f :=
  Or.symm h

def Follows (f g : Fix) : Prop :=
  f.stop ≤ g.start

instance : Trans Follows Follows Follows where
  trans {_ g _} hfg hgh := (Nat.le_trans hfg g.start_le_stop).trans hgh

theorem firstOverlap?_eq_none_iff (fixes : List Fix) :
    firstOverlap? fixes = none ↔ fixes.Pairwise Follows := by
  rw [← List.isChain_iff_pairwise]
  induction fixes with
  | nil => simp [firstOverlap?]
  | cons f rest ih =>
    cases rest with
    | nil => simp [firstOverlap?]
    | cons g rest =>
      rw [firstOverlap?, List.isChain_cons_cons, ← ih]
      split
      · rename_i hoverlap
        simp [Follows, Nat.not_le_of_lt hoverlap]
      · rename_i hfollows
        simp [Follows, Nat.le_of_not_lt hfollows]

/-- In order of start and end, with fixes of one span as they were listed. -/
structure SortsStably (sorted fixes : List Fix) : Prop where
  perm : sorted.Perm fixes
  pairwise : sorted.Pairwise fun f g => f.start < g.start ∨ f.start = g.start ∧ f.stop ≤ g.stop
  filter_span : ∀ start stop, sorted.filter (fun f => f.start = start ∧ f.stop = stop) =
    fixes.filter fun f => f.start = start ∧ f.stop = stop

theorem precedes_iff {f g : Fix} :
    f.precedes g ↔ f.start < g.start ∨ f.start = g.start ∧ f.stop ≤ g.stop := by
  simp [precedes]

theorem ordered_sortsStably (fixes : List Fix) : SortsStably (ordered fixes) fixes where
  perm := ordered_perm fixes
  pairwise := (pairwise_ordered fixes).imp precedes_iff.1
  filter_span start stop := by
    let hasSpan (f : Fix) : Bool := f.start = start ∧ f.stop = stop
    have hsame : (fixes.filter hasSpan).Pairwise fun f g => f.precedes g := by
      refine List.pairwise_of_forall_mem_list fun f hf g hg => precedes_iff.2 ?_
      simp only [hasSpan, List.mem_filter, decide_eq_true_eq] at hf hg
      omega
    have hsublist : (fixes.filter hasSpan).Sublist (ordered fixes) :=
      List.sublist_mergeSort precedes_trans precedes_total hsame List.filter_sublist
    have hkept : (fixes.filter hasSpan).Sublist ((ordered fixes).filter hasSpan) := by
      simpa using hsublist.filter hasSpan
    exact (hkept.eq_of_length ((ordered_perm fixes).filter hasSpan).length_eq.symm).symm

theorem follows_of_precedes {f g : Fix} (hprecedes : f.precedes g) (hapart : f.Apart g) :
    f.Follows g := by
  have hf := f.start_le_stop
  have hg := g.start_le_stop
  simp only [precedes, Bool.or_eq_true, Bool.and_eq_true, decide_eq_true_eq] at hprecedes
  unfold Apart at hapart
  unfold Follows
  omega

theorem pairwise_ordered_iff (fixes : List Fix) :
    (ordered fixes).Pairwise Follows ↔ fixes.Pairwise Apart := by
  rw [← (ordered_perm fixes).pairwise_iff Apart.symm]
  constructor
  · exact fun h => h.imp Or.inl
  · intro h
    exact (pairwise_ordered fixes).imp₂ (fun _ _ => follows_of_precedes) h

/-- The text with the replacements made, the last one first. -/
def spliced (t : Text) (fixes : List Fix) : Text :=
  fixes.foldr (fun f t => t.splice f.start f.stop f.insert) t

@[simp] theorem spliced_cons (t : Text) (f : Fix) (rest : List Fix) :
    spliced t (f :: rest) = (spliced t rest).splice f.start f.stop f.insert := rfl

theorem le_length_spliced {t : Text} {fixes : List Fix} {k : Nat} (ht : k ≤ t.length)
    (hstart : ∀ f ∈ fixes, k ≤ f.start) : k ≤ (spliced t fixes).length := by
  induction fixes with
  | nil => exact ht
  | cons f rest ih =>
    have hrest := ih fun g hg => hstart g (List.mem_cons_of_mem f hg)
    have hf := hstart f List.mem_cons_self
    simp only [spliced_cons, Text.splice, List.length_append, List.length_take]
    omega

variable {limits : Limits}

theorem foldrM_apply_eq {t : Text} {fixes : List Fix} (hfollows : fixes.Pairwise Follows)
    (ht : ∀ f ∈ fixes, f.stop ≤ t.length) :
    fixes.foldrM (apply limits) t = .ok (spliced t fixes) := by
  induction fixes with
  | nil => rfl
  | cons f rest ih =>
    rw [List.pairwise_cons] at hfollows
    have hrest := ih hfollows.2 fun g hg => ht g (List.mem_cons_of_mem f hg)
    have hlength := le_length_spliced (ht f List.mem_cons_self) hfollows.1
    rw [List.foldrM_cons, hrest]
    exact apply_of_le hlength

theorem applyAll_eq_ok {t : Text} {fixes : List Fix} (hapart : fixes.Pairwise Apart)
    (ht : ∀ f ∈ fixes, f.stop ≤ t.length) :
    applyAll limits t fixes = .ok (spliced t (ordered fixes)) := by
  have hfollows := (pairwise_ordered_iff fixes).2 hapart
  rw [applyAll, (firstOverlap?_eq_none_iff _).2 hfollows]
  exact foldrM_apply_eq hfollows fun f hf => ht f ((ordered_perm fixes).mem_iff.1 hf)

theorem stop_le_stop_last {before : List Fix} {f g : Fix} (h : (before ++ [f]).Pairwise Follows)
    (hg : g ∈ before ++ [f]) : g.stop ≤ f.stop := by
  rw [List.pairwise_append] at h
  rcases List.mem_append.1 hg with hg | hg
  · exact (h.2.2 g hg f (List.mem_singleton_self f)).trans f.start_le_stop
  · rw [List.mem_singleton.1 hg]

/-- The last fix is applied first, so that it alone sees the text as it was. -/
theorem foldrM_apply_eq_error {t : Text} {f : Fix} (h : t.length < f.stop) (before : List Fix) :
    (before ++ [f]).foldrM (apply limits) t =
      .error ((Fault.badFix f (.pastEnd t.length)).raised limits) := by
  have hlast : [f].foldrM (apply limits) t =
      .error ((Fault.badFix f (.pastEnd t.length)).raised limits) := by
    rw [List.foldrM_cons]
    exact apply_of_lt h
  rw [List.foldrM_append, hlast]
  rfl

theorem firstOverlap?_eq_some {fixes : List Fix} {previous f : Fix}
    (h : firstOverlap? fixes = some (previous, f)) : ∃ before after,
      fixes = before ++ previous :: f :: after ∧ (before ++ [previous]).IsChain Follows ∧
        ¬ previous.Follows f := by
  fun_induction firstOverlap? fixes with
  | case1 e g rest hoverlap =>
    obtain ⟨rfl, rfl⟩ : e = previous ∧ g = f := by simpa using h
    exact ⟨[], rest, rfl, .singleton e, Nat.not_le_of_lt hoverlap⟩
  | case2 e g rest hfollows ih =>
    obtain ⟨before, after, hrest, hchain, hoverlap⟩ := ih h
    refine ⟨e :: before, after, by rw [hrest]; rfl, ?_, hoverlap⟩
    have hhead : (before ++ [previous]).head? = some g := by
      cases before <;> simp_all
    rw [List.cons_append, List.isChain_cons]
    refine ⟨fun d hd => ?_, hchain⟩
    rw [hhead, Option.mem_def, Option.some.injEq] at hd
    exact hd ▸ Nat.le_of_not_lt hfollows
  | case3 => simp at h

inductive Outcome (limits : Limits) (t : Text) (fixes : List Fix) :
    Except Fault Text → Prop where
  | overlapping {before after : List Fix} {previous f : Fix} (hoverlap : ¬ fixes.Pairwise Apart)
      (hordered : ordered fixes = before ++ previous :: f :: after)
      (hfirst : (before ++ [previous]).IsChain Follows) (hnot : ¬ previous.Follows f) :
      Outcome limits t fixes (.error ((Fault.badFix f (.overlaps previous)).raised limits))
  | outside {before : List Fix} {f : Fix} (hapart : fixes.Pairwise Apart)
      (hordered : ordered fixes = before ++ [f]) (hlast : t.length < f.stop) :
      Outcome limits t fixes (.error ((Fault.badFix f (.pastEnd t.length)).raised limits))
  | applied (hapart : fixes.Pairwise Apart) (hinside : ∀ f ∈ fixes, f.stop ≤ t.length) :
      Outcome limits t fixes (.ok (spliced t (ordered fixes)))

theorem outcome_applyAll (limits : Limits) (t : Text) (fixes : List Fix) :
    Outcome limits t fixes (applyAll limits t fixes) := by
  by_cases hapart : fixes.Pairwise Apart
  · by_cases hinside : ∀ f ∈ fixes, f.stop ≤ t.length
    · rw [applyAll_eq_ok hapart hinside]
      exact .applied hapart hinside
    · have hfollows := (pairwise_ordered_iff fixes).2 hapart
      rcases List.eq_nil_or_concat (ordered fixes) with hnil | ⟨before, f, hordered⟩
      · have hempty : fixes = [] := by simpa [hnil] using ordered_perm fixes
        exact absurd (by simp [hempty]) hinside
      · rw [List.concat_eq_append] at hordered
        -- Were the last fix within the text, so would be all the others.
        have hlast : t.length < f.stop := by
          by_contra hle
          refine hinside fun g hg => (stop_le_stop_last (hordered ▸ hfollows) ?_).trans
            (Nat.le_of_not_lt hle)
          exact hordered ▸ (ordered_perm fixes).mem_iff.2 hg
        rw [applyAll, (firstOverlap?_eq_none_iff _).2 hfollows, hordered]
        rw [foldrM_apply_eq_error hlast before]
        exact .outside hapart hordered hlast
  · have hoverlap := hapart
    rw [← pairwise_ordered_iff, ← firstOverlap?_eq_none_iff] at hoverlap
    obtain ⟨⟨previous, f⟩, hfirst⟩ := Option.ne_none_iff_exists'.1 hoverlap
    obtain ⟨before, after, hordered, hchain, hnot⟩ := firstOverlap?_eq_some hfirst
    rw [applyAll, hfirst]
    exact .overlapping hapart hordered hchain hnot

/-- A batch fails if and only if two of its fixes overlap or one reaches past the text. -/
theorem applyAll_eq_error_iff {t : Text} {fixes : List Fix} :
    (∃ fault, applyAll limits t fixes = .error fault) ↔
      ¬ fixes.Pairwise Apart ∨ ∃ f ∈ fixes, t.length < f.stop := by
  have houtcome := outcome_applyAll limits t fixes
  generalize applyAll limits t fixes = result at houtcome
  cases houtcome with
  | overlapping hoverlap => exact iff_of_true ⟨_, rfl⟩ (Or.inl hoverlap)
  | @outside before f hapart hordered hlast =>
    have hf : f ∈ fixes := (ordered_perm fixes).mem_iff.1 (by simp [hordered])
    exact iff_of_true ⟨_, rfl⟩ (Or.inr ⟨f, hf, hlast⟩)
  | applied hapart hinside =>
    refine iff_of_false nofun ?_
    rintro (hoverlap | ⟨f, hf, hlast⟩)
    · exact hoverlap hapart
    · exact Nat.not_le.2 hlast (hinside f hf)

theorem applyAll_inside_eq_error_iff {t : Text} {fixes : List Fix}
    (ht : ∀ f ∈ fixes, f.stop ≤ t.length) :
    (∃ fault, applyAll limits t fixes = .error fault) ↔ ¬ fixes.Pairwise Apart := by
  refine applyAll_eq_error_iff.trans (or_iff_left ?_)
  rintro ⟨f, hf, hlast⟩
  exact Nat.not_le.2 hlast (ht f hf)

/-- Numbers that may be written are not in the way of a refusal. -/
theorem exists_badFix_iff {t : Text} {fixes : List Fix} (hlength : limits.Allows t.length)
    (hnumbers : ∀ f ∈ fixes, limits.Allows f.start ∧ limits.Allows f.width) :
    (∃ f obstacle, applyAll limits t fixes = .error (.badFix f obstacle)) ↔
      ∃ fault, applyAll limits t fixes = .error fault := by
  have hallowed : ∀ f ∈ ordered fixes, limits.Allows f.start ∧ limits.Allows f.width :=
    fun f hf => hnumbers f ((ordered_perm fixes).mem_iff.1 hf)
  have houtcome := outcome_applyAll limits t fixes
  generalize applyAll limits t fixes = result at houtcome
  -- Either refusal names fixes of the batch, all of whose numbers may be written.
  cases houtcome with
  | @overlapping before after previous f hoverlap hordered =>
    have hprevious := hallowed previous (by simp [hordered])
    rw [raised_overlaps (hallowed f (by simp [hordered])) hprevious]
    exact iff_of_true ⟨_, _, rfl⟩ ⟨_, rfl⟩
  | @outside before f hapart hordered =>
    rw [raised_pastEnd (hallowed f (by simp [hordered])) hlength]
    exact iff_of_true ⟨_, _, rfl⟩ ⟨_, rfl⟩
  | applied => exact iff_of_false nofun nofun

theorem allows_of_stop_le {f : Fix} {length : Nat} (hlength : limits.Allows length)
    (hf : f.stop ≤ length) : limits.Allows f.start ∧ limits.Allows f.width :=
  ⟨hlength.mono (f.start_le_stop.trans hf), hlength.mono ((Nat.le_add_left ..).trans hf)⟩

end LayoutLint.Fix
