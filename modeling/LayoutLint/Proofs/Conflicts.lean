import LayoutLint.Proofs.Batch
import LayoutLint.Proofs.Reports.Run

/-! When the fixes of one run apply together. A keyword's fix stays in the trivia before the
keyword and a constructor's fix covers the whole parameter list, so that two fixes overlap only
if something inside a reported list is reported as well. -/
namespace LayoutLint

namespace Keyword

theorem stop_breakBefore_le (target : Node) (indent : Text) :
    (breakBefore target indent).stop ≤ target.span.start := by
  have := target.span.fullStart_le_start
  simp only [breakBefore, Fix.stop, Span.triviaWidth]
  omega

end Keyword

namespace Construct

variable {o : Options} {t : Text} {n : Node} {c : Construct} {v : Violation}

theorem Reports.fix_span (h : Reports o t n c v) : ∃ f, v.fix = some f ∧
    (v.cause = .multilineConstructor ∧ f.start = v.node.span.start ∧
        f.stop = v.node.span.stop ∨
      v.cause = .ownLine ∧ f.start = v.node.span.fullStart ∧ f.stop ≤ v.node.span.start) := by
  cases h with
  | @crowded signature hsignature hcrowded =>
    exact ⟨_, rfl, Or.inl ⟨rfl, rfl, signature.stop_replace _⟩⟩
  | @shared _ previous target hpair hline =>
    exact ⟨_, rfl, Or.inr ⟨rfl, rfl, Keyword.stop_breakBefore_le target _⟩⟩

theorem Reports.fix_within (h : Reports o t n c v) {f : Fix} (hf : f ∈ v.fix) :
    v.node.span.fullStart ≤ f.start ∧ f.stop ≤ v.node.span.stop := by
  have hfull := v.node.span.fullStart_le_start
  have hstop := v.node.span.start_le_stop
  obtain ⟨g, hg, ⟨-, hstart, hend⟩ | ⟨-, hstart, hend⟩⟩ := h.fix_span
  all_goals
    rw [Option.mem_def, hg, Option.some.injEq] at hf
    subst hf
    omega

theorem Reports.start_le_fix (h : Reports o t n c v) (hn : n.Nests) {f : Fix}
    (hf : f ∈ v.fix) : n.span.start ≤ f.start := by
  cases h with
  | @crowded signature hsignature hcrowded =>
    cases hf
    exact hn.start_le signature (Node.mem_children_of_firstChild? hsignature)
  | @shared _ previous target hpair hline =>
    cases hf
    obtain ⟨-, before, after, hchildren, hprevious⟩ := Keyword.children_of_mem_pairs hpair
    have hstart := hn.start_le previous (by simp [hchildren, hprevious])
    have hstop := (hn.siblings hchildren).1 previous hprevious
    exact (hstart.trans previous.span.start_le_stop).trans hstop

end Construct

namespace Source

/-- Two fixes of a run overlap only if the later one is made below a reported list and reaches
into it. -/
theorem pairwise_fixes {s : Source} (h : s.root.WellNested) (o : Options) :
    (s.violations o).Pairwise fun v w => ∀ f ∈ v.fix, ∀ g ∈ w.fix, f.Apart g ∨
      v.cause = .multilineConstructor ∧ w.node ∈ v.node.descendants ∧
        v.node.span.start < g.stop := by
  refine List.Pairwise.imp_of_mem ?_ (pairwise_violations h o)
  intro v w hv hw hvw f hf g hg
  obtain ⟨m, hm, c, hreport⟩ := exists_reports_of_mem hv
  obtain ⟨n, -, d, hreport'⟩ := exists_reports_of_mem hw
  have hwithin := hreport.fix_within hf
  have hwithin' := hreport'.fix_within hg
  -- Fixes stay within their nodes. What is left are reports below the node of an earlier one.
  rcases hvw with hapart | ⟨n, hn, d, hbelow⟩
  · left
    unfold Node.Apart at hapart
    unfold Fix.Apart
    omega
  · have hvroot : v.node.WellNested :=
      h.of_mem (Node.mem_preorder_trans (Node.mem_preorder_of_mem_children hreport.mem_children) hm)
    have hstart := (hvroot.within hn).2.1.trans
      (hbelow.start_le_fix (hvroot.nests hn) hg)
    obtain ⟨f', hf', hspan⟩ := hreport.fix_span
    rw [Option.mem_def, hf', Option.some.injEq] at hf
    subst hf
    rcases hspan with ⟨hcause, hbegin, -⟩ | ⟨-, -, hend⟩
    · by_cases hreach : v.node.span.start < g.stop
      · exact Or.inr ⟨hcause,
          Node.mem_descendants_of_mem_children hbelow.mem_children hn, hreach⟩
      · exact Or.inl (Or.inr (by omega))
    · exact Or.inl (Or.inl (hend.trans hstart))

theorem stop_le_of_mem_fixes {s : Source} {o : Options} (h : s.root.WellNested) {f : Fix}
    (hf : f ∈ (s.findings (s.violations o)).fixes) : f.stop ≤ s.text.length := by
  obtain ⟨v, hv, hf⟩ := List.mem_filterMap.1 hf
  obtain ⟨n, hn, c, hreport⟩ := exists_reports_of_mem hv
  have hnode := (h.inText s.root_le_length).of_mem hn |>.child hreport.mem_children
  exact (hreport.fix_within hf).2.trans hnode.stop_le

theorem pairwise_keyword_fixes {s : Source} (h : s.root.WellNested) (o : Options) :
    (((s.violations o).filter (·.cause = .ownLine)).filterMap (·.fix)).Pairwise Fix.Apart := by
  rw [List.pairwise_filterMap]
  refine List.Pairwise.imp_of_mem ?_ ((pairwise_fixes h o).filter _)
  intro v w hv hw hvw f hf g hg
  refine (hvw f hf g hg).resolve_right ?_
  rintro ⟨hcause, -⟩
  simp [hcause] at hv

/-- Any two fixes of a run are apart, unless one is made below the list that the other replaces.
Without such a pair all fixes of the run apply together. -/
theorem fixes_apply_together (limits : Limits) (o : Options) (s : Source) (ho : o.Usable)
    (hs : s.root.WellNested) : ∃ found, s.check o = .ok found ∧
      (found.violations.Pairwise fun v w => ∀ f ∈ v.fix, ∀ g ∈ w.fix, f.Apart g ∨
        v.cause = .multilineConstructor ∧ w.node ∈ v.node.descendants) ∧
      ((∀ v ∈ found.violations, ∀ w ∈ found.violations, v.cause = .multilineConstructor →
          w.node ∉ v.node.descendants) →
        found.fixes.Pairwise Fix.Apart ∧ ∃ t, Fix.applyAll limits s.text found.fixes = .ok t) := by
  have hpairs := pairwise_fixes hs o
  refine ⟨_, check_eq ho (hs.inText s.root_le_length), ?_, ?_⟩
  · refine hpairs.imp ?_
    intro v w hvw f hf g hg
    exact (hvw f hf g hg).imp_right fun ⟨hcause, hbelow, _⟩ => ⟨hcause, hbelow⟩
  · intro hflat
    have hapart : (s.findings (s.violations o)).fixes.Pairwise Fix.Apart := by
      rw [Findings.fixes, List.pairwise_filterMap]
      refine List.Pairwise.imp_of_mem ?_ hpairs
      intro v w hv hw hvw f hf g hg
      rcases hvw f hf g hg with hapart | ⟨hcause, hbelow, -⟩
      · exact hapart
      · exact absurd hbelow (hflat v hv w hw hcause)
    exact ⟨hapart, _, Fix.applyAll_eq_ok hapart fun f hf => stop_le_of_mem_fixes hs hf⟩

def flatFile : Source where
  name := "flat.ts".toList
  text := "constructor(private a) {}\ntry {} catch {}".toList
  root := ⟨0, .sourceFile, .between 0 0 41, [
    ⟨1, .constructor, .between 0 0 25, [
      ⟨2, .syntaxList, .between 12 12 21, [
        ⟨3, .parameter, .between 12 12 21, [
          ⟨4, .syntaxList, .between 12 12 19, [⟨5, .privateKeyword, .between 12 12 19, []⟩]⟩]⟩]⟩]⟩,
    ⟨6, .tryStatement, .between 25 26 41, [
      ⟨7, .block, .between 29 30 32, []⟩, ⟨8, .catchClause, .between 32 33 41, []⟩]⟩]⟩
  name_ne_nil := by decide
  root_le_length := by decide

theorem fixes_apply_together_flatFile : Options.Usable {} ∧ flatFile.root.WellNested ∧
    ∃ found, flatFile.check {} = .ok found ∧ found.fixes.length = 2 ∧
      ∃ t, Fix.applyAll .usual flatFile.text found.fixes = .ok t := by
  have hs : flatFile.root.WellNested := by decide
  have hlength : (flatFile.findings (flatFile.violations {})).fixes.length = 2 := by
    rw [violations, Node.constructs_eq]
    decide
  have hids : ∀ v ∈ flatFile.violations {}, ∀ w ∈ flatFile.violations {},
      w.node.id ∉ v.node.descendants.map (·.id) := by
    rw [violations, Node.constructs_eq]
    decide
  obtain ⟨found, hfound, -, happly⟩ := fixes_apply_together .usual {} flatFile (by decide) hs
  have hcheck := check_eq (o := {}) (by decide) (hs.inText flatFile.root_le_length)
  obtain rfl := Except.ok.inj (hfound.symm.trans hcheck)
  refine ⟨by decide, hs, _, hfound, hlength, (happly ?_).2⟩
  intro v hv w hw _ hbelow
  exact hids v hv w hw (List.mem_map_of_mem hbelow)

def innerList : Node :=
  ⟨6, .syntaxList, .between 44 44 53, [
    ⟨7, .parameter, .between 44 44 53, [
      ⟨8, .syntaxList, .between 44 44 51, [⟨9, .privateKeyword, .between 44 44 51, []⟩]⟩]⟩]⟩

def innerConstructor : Node :=
  ⟨5, .constructor, .between 31 32 57, [innerList]⟩

def outerList : Node :=
  ⟨1, .syntaxList, .between 12 12 59, [
    ⟨2, .parameter, .between 12 12 59, [
      ⟨3, .syntaxList, .between 12 12 19, [⟨4, .privateKeyword, .between 12 12 19, []⟩]⟩,
      innerConstructor]⟩]⟩

def nestedLists : Source where
  name := "nested.ts".toList
  text := "constructor(private a = class { constructor(private b) {} }) {}".toList
  root := ⟨0, .constructor, .between 0 0 63, [outerList]⟩
  name_ne_nil := by decide
  root_le_length := by decide

/-- The fixes of one run need not apply together. -/
theorem nestedLists_conflict : Options.Usable {} ∧ nestedLists.root.WellNested ∧
    ∃ found, nestedLists.check {} = .ok found ∧ ¬ found.fixes.Pairwise Fix.Apart ∧
      ∃ f obstacle,
        Fix.applyAll .usual nestedLists.text found.fixes = .error (.badFix f obstacle) := by
  have hs : nestedLists.root.WellNested := by decide
  have hoverlap :
      ¬ (nestedLists.findings (nestedLists.violations {})).fixes.Pairwise Fix.Apart := by
    rw [violations, Node.constructs_eq]
    decide
  have hinside : ∀ f ∈ (nestedLists.findings (nestedLists.violations {})).fixes,
      f.stop ≤ nestedLists.text.length := fun f => stop_le_of_mem_fixes hs
  have hlength : Limits.usual.Allows nestedLists.text.length := by decide
  have hrefused := (Fix.exists_badFix_iff hlength fun f hf =>
    Fix.allows_of_stop_le hlength (hinside f hf)).2
      ((Fix.applyAll_inside_eq_error_iff hinside).2 hoverlap)
  exact ⟨by decide, hs, _, check_eq (by decide) (hs.inText nestedLists.root_le_length), hoverlap,
    hrefused⟩

theorem start_lt_stop_of_reports {s : Source} {o : Options} (hs : s.root.WellNested)
    (hfull : ∀ n ∈ s.root.descendants, n.kind ≠ .syntaxList → n.span.start < n.span.stop)
    {n : Node} {c : Construct} {v : Violation} (hn : n ∈ s.root.preorder)
    (h : Construct.Reports o s.text n c v) : v.node.span.start < v.node.span.stop := by
  cases h with
  | @crowded signature hsignature hcrowded =>
    have hlist := Node.mem_children_of_firstChild? hsignature
    cases hparameters : signature.childrenOf .parameter with
    | nil => simp [Constructor.parameterLines, hparameters, Constructor.crowds] at hcrowded
    | cons p rest =>
      have hp : p ∈ signature.childrenOf .parameter := by simp [hparameters]
      have hpchild := Node.mem_children_of_mem_childrenOf hp
      have hmem := Node.mem_preorder_trans (Node.mem_preorder_of_mem_children hlist) hn
      have hnest := hs.nests hmem
      have hpfull := hfull p (Node.mem_descendants_of_mem_children hpchild hmem)
        (by simp [Node.kind_of_mem_childrenOf hp])
      exact ((hnest.start_le p hpchild).trans_lt hpfull).trans_le (hnest.le_stop p hpchild)
  | @shared _ previous target hpair hline =>
    obtain ⟨hkind, before, after, hchildren, -⟩ := Keyword.children_of_mem_pairs hpair
    exact hfull target
      (Node.mem_descendants_of_mem_children (by simp [hchildren]) hn) hkind

theorem not_apart_of_below {s : Source} {o : Options} (hs : s.root.WellNested)
    (hfull : ∀ n ∈ s.root.descendants, n.kind ≠ .syntaxList → n.span.start < n.span.stop)
    {v w : Violation} (hv : v ∈ s.violations o) (hw : w ∈ s.violations o)
    (hcause : v.cause = .multilineConstructor) (hbelow : w.node ∈ v.node.descendants)
    {f g : Fix} (hf : f ∈ v.fix) (hg : g ∈ w.fix) (hreach : v.node.span.start < g.stop) :
    ¬ f.Apart g := by
  obtain ⟨m, hm, c, hreport⟩ := exists_reports_of_mem hv
  obtain ⟨n, hn, d, hreport'⟩ := exists_reports_of_mem hw
  have hvroot : v.node.WellNested :=
    hs.of_mem (Node.mem_preorder_trans (Node.mem_preorder_of_mem_children hreport.mem_children) hm)
  have hwithin := hvroot.within (Node.mem_preorder_iff.2 (Or.inr hbelow))
  have hnonempty := start_lt_stop_of_reports hs hfull hn hreport'
  have htrivia := w.node.span.fullStart_le_start
  obtain ⟨f', hf', hspan⟩ := hreport.fix_span
  obtain ⟨g', hg', hspan'⟩ := hreport'.fix_span
  rw [Option.mem_def, hf', Option.some.injEq] at hf
  rw [Option.mem_def, hg', Option.some.injEq] at hg
  subst hf hg
  simp only [hcause, true_and, reduceCtorEq, false_and, or_false] at hspan
  unfold Fix.Apart
  rcases hspan' with ⟨-, hbegin, -⟩ | ⟨-, hbegin, -⟩ <;> omega

/-- Something below a reported list is reported as well, and its fix reaches into the list. -/
def ReachesIntoList (vs : List Violation) : Prop :=
  ∃ v ∈ vs, ∃ w ∈ vs, v.cause = .multilineConstructor ∧ w.node ∈ v.node.descendants ∧
    ∃ f ∈ w.fix, v.node.span.start < f.stop

theorem not_pairwise_apart_iff {s : Source} {o : Options} (hs : s.root.WellNested)
    (hfull : ∀ n ∈ s.root.descendants, n.kind ≠ .syntaxList → n.span.start < n.span.stop) :
    ¬ (s.findings (s.violations o)).fixes.Pairwise Fix.Apart ↔
      ReachesIntoList (s.violations o) := by
  rw [Findings.fixes, List.pairwise_filterMap]
  constructor
  · intro hoverlap
    by_contra hnone
    refine hoverlap (List.Pairwise.imp_of_mem ?_ (pairwise_fixes hs o))
    intro v w hv hw hvw f hf g hg
    refine (hvw f hf g hg).resolve_right ?_
    rintro ⟨hcause, hbelow, hreach⟩
    exact hnone ⟨v, hv, w, hw, hcause, hbelow, g, hg, hreach⟩
  · rintro ⟨v, hv, w, hw, hcause, hbelow, g, hg, hreach⟩ hapart
    -- Overlapping does not depend on which of the two reports comes first.
    have hsymm : Std.Symm fun v w : Violation => ∀ f ∈ v.fix, ∀ g ∈ w.fix, f.Apart g :=
      ⟨fun v w hvw f hf g hg => (hvw g hg f hf).symm⟩
    have hne : v ≠ w := by
      rintro rfl
      exact v.node.not_mem_descendants_self hbelow
    obtain ⟨m, -, c, hreport⟩ := exists_reports_of_mem hv
    obtain ⟨f, hf, -⟩ := hreport.fix_span
    exact not_apart_of_below hs hfull hv hw hcause hbelow hf hg hreach
      (hapart.forall hv hw hne f hf g hg)

/-- The fixes of a run are refused if and only if something below a reported list is reported as
well and its fix reaches into the list. Fixes of keywords are never in each other's way. The words
of the refusal hold no larger number than the length of the text. -/
theorem conflict_iff_nested (limits : Limits) (o : Options) (s : Source) (ho : o.Usable)
    (hs : s.root.WellNested)
    (hfull : ∀ n ∈ s.root.descendants, n.kind ≠ .syntaxList → n.span.start < n.span.stop) :
    ∃ found, s.check o = .ok found ∧
      ((∃ fault, Fix.applyAll limits s.text found.fixes = .error fault) ↔
        ∃ v ∈ found.violations, ∃ w ∈ found.violations, v.cause = .multilineConstructor ∧
          w.node ∈ v.node.descendants ∧ ∃ f ∈ w.fix, v.node.span.start < f.stop) ∧
      (limits.Allows s.text.length →
        ((∃ f obstacle, Fix.applyAll limits s.text found.fixes = .error (.badFix f obstacle)) ↔
          ∃ v ∈ found.violations, ∃ w ∈ found.violations, v.cause = .multilineConstructor ∧
            w.node ∈ v.node.descendants ∧ ∃ f ∈ w.fix, v.node.span.start < f.stop)) ∧
      ((found.violations.filter (·.cause = .ownLine)).filterMap (·.fix)).Pairwise Fix.Apart := by
  have hinside : ∀ f ∈ (s.findings (s.violations o)).fixes, f.stop ≤ s.text.length :=
    fun f => stop_le_of_mem_fixes hs
  have hfails : (∃ fault, Fix.applyAll limits s.text (s.findings (s.violations o)).fixes =
      .error fault) ↔ ReachesIntoList (s.violations o) :=
    (Fix.applyAll_inside_eq_error_iff hinside).trans (not_pairwise_apart_iff hs hfull)
  refine ⟨_, check_eq ho (hs.inText s.root_le_length), hfails, fun hlength => ?_,
    pairwise_keyword_fixes hs o⟩
  exact (Fix.exists_badFix_iff hlength fun f hf =>
    Fix.allows_of_stop_le hlength (hinside f hf)).trans hfails

theorem conflict_iff_nested_nestedLists : Options.Usable {} ∧ nestedLists.root.WellNested ∧
    (∀ n ∈ nestedLists.root.descendants, n.kind ≠ .syntaxList → n.span.start < n.span.stop) ∧
    ∃ found, nestedLists.check {} = .ok found ∧
      ∃ f obstacle,
        Fix.applyAll .usual nestedLists.text found.fixes = .error (.badFix f obstacle) := by
  have hs : nestedLists.root.WellNested := by decide
  have hfull : ∀ n ∈ nestedLists.root.descendants,
      n.kind ≠ .syntaxList → n.span.start < n.span.stop := by decide
  have hviolations : nestedLists.violations {} =
      [Constructor.violation {} nestedLists.text nestedLists.root outerList,
        Constructor.violation {} nestedLists.text innerConstructor innerList] := by
    rw [violations, Node.constructs_eq]
    rfl
  obtain ⟨found, hfound, -, hconflict, -⟩ :=
    conflict_iff_nested .usual {} nestedLists (by decide) hs hfull
  have hcheck := check_eq (o := {}) (by decide) (hs.inText nestedLists.root_le_length)
  obtain rfl := Except.ok.inj (hfound.symm.trans hcheck)
  refine ⟨by decide, hs, hfull, _, hfound, (hconflict (by decide)).2 ?_⟩
  simp only [findings, hviolations]
  refine ⟨_, List.mem_cons_self, _, List.mem_cons_of_mem _ List.mem_cons_self, rfl, ?_, _, rfl,
    by decide⟩
  simp [Constructor.violation, outerList, innerConstructor, Node.descendants, Node.preorders,
    Node.preorder]

def elseFirst : Node :=
  ⟨5, .elseKeyword, .between 12 12 16, []⟩

def listWithElse : Node :=
  ⟨1, .syntaxList, .between 12 12 30, [
    ⟨2, .parameter, .between 12 12 19, [
      ⟨3, .ifStatement, .between 12 12 19, [
        ⟨4, .syntaxList, .between 12 12 12, []⟩, elseFirst, ⟨6, .block, .between 16 17 19, []⟩]⟩]⟩,
    ⟨7, .parameter, .between 19 21 30, [
      ⟨8, .syntaxList, .between 20 21 28, [⟨9, .privateKeyword, .between 20 21 28, []⟩]⟩]⟩]⟩

def elseAtListStart : Source where
  name := "else.ts".toList
  text := "constructor(else {}, private b) {}".toList
  root := ⟨0, .constructor, .between 0 0 34, [listWithElse]⟩
  name_ne_nil := by decide
  root_le_length := by decide

/-- A report below a reported list is no conflict by itself: this one only inserts text where the
list begins. -/
theorem elseAtListStart_applies : Options.Usable {} ∧ elseAtListStart.root.WellNested ∧
    (∀ n ∈ elseAtListStart.root.descendants, n.kind ≠ .syntaxList →
      n.span.start < n.span.stop) ∧
    ∃ found, elseAtListStart.check {} = .ok found ∧
      (∃ v ∈ found.violations, ∃ w ∈ found.violations, v.cause = .multilineConstructor ∧
        w.node ∈ v.node.descendants) ∧
      ∃ t, Fix.applyAll .usual elseAtListStart.text found.fixes = .ok t := by
  have hs : elseAtListStart.root.WellNested := by decide
  have hviolations : elseAtListStart.violations {} =
      [Constructor.violation {} elseAtListStart.text elseAtListStart.root listWithElse,
        Keyword.violation {} elseAtListStart.text elseFirst] := by
    rw [violations, Node.constructs_eq]
    rfl
  have hapart :
      (elseAtListStart.findings (elseAtListStart.violations {})).fixes.Pairwise Fix.Apart := by
    rw [hviolations]
    decide
  refine ⟨by decide, hs, by decide, _,
    check_eq (by decide) (hs.inText elseAtListStart.root_le_length), ?_,
    _, Fix.applyAll_eq_ok hapart fun f hf => stop_le_of_mem_fixes hs hf⟩
  simp only [findings, hviolations]
  refine ⟨_, List.mem_cons_self, _, List.mem_cons_of_mem _ List.mem_cons_self, rfl, ?_⟩
  simp [Constructor.violation, Keyword.violation, listWithElse, Node.descendants, Node.preorders,
    Node.preorder]

end Source

end LayoutLint
