import LayoutLint.Proofs.Conflicts
import LayoutLint.Proofs.LineEdits
import LayoutLint.Proofs.Relocate

/-! A run whose reports are all about keywords leaves a file on which the next run reports
nothing. Each fix parts its keyword from the body before it, and whatever began on a new line
still does, so nothing that was accepted becomes a violation. -/
namespace LayoutLint

namespace Node

/-- No node is empty but the root and the parameter lists of constructors. -/
def Filled (root : Node) : Prop :=
  ∀ n ∈ root.preorder, ∀ c ∈ n.children, (n.kind = .constructor → c.kind ≠ .syntaxList) →
    c.span.start < c.span.stop

instance (root : Node) : Decidable root.Filled :=
  inferInstanceAs (Decidable (∀ n ∈ root.preorder, ∀ c ∈ n.children,
    (n.kind = .constructor → c.kind ≠ .syntaxList) → c.span.start < c.span.stop))

theorem WellNested.start_outside_trivia {root n m previous target : Node}
    {before after : List Node} (h : root.WellNested) (hn : n ∈ root.preorder)
    (hchildren : n.children = before ++ target :: after) (hmem : previous ∈ before)
    (hprevious : previous.span.start < previous.span.stop) (hm : m ∈ root.preorder)
    (hfull : m.span.start < m.span.stop) :
    m.span.start < target.span.fullStart ∨ target.span.start ≤ m.span.start := by
  have hnest := h.nests hn
  have htarget : target ∈ n.children := by simp [hchildren]
  have hbegin := hnest.start_le previous (by simp [hchildren, hmem])
  have hend := (hnest.siblings hchildren).1 previous hmem
  have hfullStart := hnest.fullStart_le target htarget
  have hstop := hnest.le_stop target htarget
  have htrivia := target.span.start_le_stop
  have hmtrivia := m.span.fullStart_le_start
  -- `m` lies below `n`, where its place among the children counts, or else outside of its trivia.
  rcases h.below_or_apart hm hn with hbelow | habove | hapart
  · rcases mem_preorder_iff.1 hbelow with rfl | hbelow
    · left
      omega
    · rcases (h.of_mem hn).below_child_or_apart htarget hbelow with hbelow | hapart
      · have htargetRoot := mem_preorder_trans (mem_preorder_of_mem_children htarget) hn
        exact Or.inr ((h.of_mem htargetRoot).within hbelow).2.1
      · unfold Apart at hapart
        omega
  · have hwithin := (h.of_mem hm).within habove
    left
    omega
  · unfold Apart at hapart
    omega

end Node

namespace Keyword

theorem breaksLine_breakBefore (target : Node) (indent : Text) :
    (breakBefore target indent).BreaksLine :=
  ⟨rfl, Nat.min_le_left ..⟩

theorem spares_breakBefore {target : Node} {offset : Nat} (indent : Text)
    (h : offset < target.span.fullStart ∨ target.span.start ≤ offset) :
    (breakBefore target indent).Spares offset :=
  h.imp_right (stop_breakBefore_le target indent).trans

end Keyword

namespace Constructor

theorem crowds_eq_false_of_imp (line line' : Node → Nat) {n : Node} {ps : List Node}
    (hkeep : (n :: ps).IsChain fun p q => line p ≠ line q → line' p ≠ line' q) {seen : Bool}
    (h : crowds (line n) seen (ps.map fun p => (line p, p.isProperty)) = false) :
    crowds (line' n) seen (ps.map fun p => (line' p, p.isProperty)) = false := by
  induction ps generalizing n seen with
  | nil => rfl
  | cons p rest ih =>
    rw [List.isChain_cons_cons] at hkeep
    simp only [List.map_cons, crowds, Bool.or_eq_false_iff, Bool.and_eq_false_imp,
      decide_eq_false_iff_not] at h ⊢
    exact ⟨fun hseen => (hkeep.1 (Ne.symm (h.1 hseen))).symm, ih hkeep.2 h.2⟩

end Constructor

namespace Source

def fixes (o : Options) (s : Source) : List Fix :=
  (s.findings (s.violations o)).fixes

def edited (o : Options) (s : Source) : Text :=
  Fix.spliced s.text (Fix.ordered (s.fixes o))

section

variable {o : Options} {s : Source} {c : Construct} {n previous target : Node}

theorem exists_breakBefore_mem_fixes (hcn : (c, n) ∈ s.root.constructs)
    (hpair : (previous, target) ∈ Keyword.pairs n c)
    (hline : previous.lastLine s.text = target.line s.text) :
    ∃ indent, Keyword.breakBefore target indent ∈ s.fixes o :=
  ⟨_, List.mem_filterMap.2 ⟨_, mem_violations_iff.2 ⟨c, n, hcn, .shared hpair hline⟩, rfl⟩⟩

theorem pair_full (hfull : s.root.Filled) (hcn : (c, n) ∈ s.root.constructs)
    (hpair : (previous, target) ∈ Keyword.pairs n c) :
    previous.span.start < previous.span.stop ∧ target.span.start < target.span.stop := by
  obtain ⟨hn, hkind⟩ := Node.mem_constructs_iff.1 hcn
  obtain ⟨-, before, after, hchildren, hprevious⟩ := Keyword.children_of_mem_pairs hpair
  have hnot : n.kind ≠ .constructor := by
    intro heq
    rw [heq, Construct.ofKind?, Option.some.injEq] at hkind
    simp [← hkind, Keyword.pairs] at hpair
  exact ⟨hfull n hn previous (by simp [hchildren, hprevious]) fun heq => absurd heq hnot,
    hfull n hn target (by simp [hchildren]) fun heq => absurd heq hnot⟩

variable (hs : s.root.WellNested) (hown : ∀ v ∈ s.violations o, v.cause = .ownLine)

include hown

theorem exists_pair_of_mem_fixes {f : Fix} (hf : f ∈ s.fixes o) :
    ∃ c n previous target indent, (c, n) ∈ s.root.constructs ∧
      (previous, target) ∈ Keyword.pairs n c ∧ f = Keyword.breakBefore target indent := by
  obtain ⟨v, hv, hf⟩ := List.mem_filterMap.1 hf
  obtain ⟨c, n, hcn, hreport⟩ := mem_violations_iff.1 hv
  cases hreport with
  | crowded hsignature hcrowded => cases hown _ hv
  | @shared _ previous target hpair hline =>
    exact ⟨c, n, previous, target, _, hcn, hpair, (Option.some.inj hf).symm⟩

include hs

theorem lineBreaks : Fix.LineBreaks s.text (s.fixes o) where
  breaksLine f hf := by
    obtain ⟨c, n, previous, target, indent, -, -, rfl⟩ := exists_pair_of_mem_fixes hown hf
    exact Keyword.breaksLine_breakBefore target indent
  apart := by
    have hkeywords := pairwise_keyword_fixes hs o
    rw [List.filter_eq_self.2 fun v hv => decide_eq_true (hown v hv)] at hkeywords
    exact hkeywords
  stop_le _ hf := stop_le_of_mem_fixes hs hf

def keywordEdits : Edits where
  fixes := s.fixes o
  width_le := (lineBreaks hs hown).width_le

theorem inText_edited : (s.root.mapSpans (keywordEdits hs hown).rebase).InText (s.edited o) := by
  intro m hm
  rw [Node.preorder_mapSpans] at hm
  obtain ⟨n, hn, rfl⟩ := List.mem_map.1 hm
  have hstop := hs.inText s.root_le_length n hn
  rw [edited, (lineBreaks hs hown).length_eq, Node.span_mapSpans]
  exact ((keywordEdits hs hown).stop_rebase_le n.span).trans (Nat.add_le_add_right hstop _)

variable (hfull : s.root.Filled)

include hfull

theorem spares_start {m : Node} (hm : m ∈ s.root.preorder)
    (hmfull : m.span.start < m.span.stop) : ∀ f ∈ s.fixes o, f.Spares m.span.start := by
  intro f hf
  obtain ⟨c, n, previous, target, indent, hcn, hpair, rfl⟩ := exists_pair_of_mem_fixes hown hf
  obtain ⟨-, before, after, hchildren, hprevious⟩ := Keyword.children_of_mem_pairs hpair
  exact Keyword.spares_breakBefore indent
    (hs.start_outside_trivia (Node.mem_constructs_iff.1 hcn).1 hchildren hprevious
      (pair_full hfull hcn hpair).1 hm hmfull)

theorem lastLine_ne_line_edited (hcn : (c, n) ∈ s.root.constructs)
    (hpair : (previous, target) ∈ Keyword.pairs n c) :
    (previous.mapSpans (keywordEdits hs hown).rebase).lastLine (s.edited o) ≠
      (target.mapSpans (keywordEdits hs hown).rebase).line (s.edited o) := by
  have hn := (Node.mem_constructs_iff.1 hcn).1
  have hbreaks := lineBreaks hs hown
  obtain ⟨hprevious, htarget⟩ := pair_full hfull hcn hpair
  obtain ⟨-, before, after, hchildren, hmem⟩ := Keyword.children_of_mem_pairs hpair
  have hbefore := ((hs.nests hn).siblings hchildren).1 previous hmem
  have htrivia := target.span.fullStart_le_start
  have htargetRoot : target ∈ s.root.preorder :=
    Node.mem_preorder_trans (Node.mem_preorder_of_mem_children (by simp [hchildren])) hn
  simp only [Node.lastLine, Node.line, Node.span_mapSpans, Edits.start_rebase,
    Edits.stop_rebase _ hprevious]
  by_cases hline : previous.lastLine s.text = target.line s.text
  · obtain ⟨indent, hf⟩ := exists_breakBefore_mem_fixes (o := o) hcn hpair hline
    exact hbreaks.line_moved_ne_of_mem hf hbefore (Keyword.stop_breakBefore_le target indent)
  · exact hbreaks.line_moved_ne (hbefore.trans htrivia)
      (spares_start hs hown hfull htargetRoot htarget) hline (Fix.movedEnd_le_moved ..)

theorem line_edited_ne {p q : Node} (hle : p.span.start ≤ q.span.start) (hq : q ∈ s.root.preorder)
    (hqfull : q.span.start < q.span.stop) (hline : p.line s.text ≠ q.line s.text) :
    (p.mapSpans (keywordEdits hs hown).rebase).line (s.edited o) ≠
      (q.mapSpans (keywordEdits hs hown).rebase).line (s.edited o) := by
  simp only [Node.line, Node.span_mapSpans, Edits.start_rebase]
  exact (lineBreaks hs hown).line_moved_ne hle (spares_start hs hown hfull hq hqfull) hline
    (Nat.le_refl _)

theorem crowds_edited_eq_false {signature : Node}
    (hcn : (.constructor, n) ∈ s.root.constructs)
    (hsignature : n.firstChild? .syntaxList = some signature) :
    Constructor.crowds ((n.mapSpans (keywordEdits hs hown).rebase).line (s.edited o)) false
      (Constructor.parameterLines (s.edited o)
        (signature.mapSpans (keywordEdits hs hown).rebase)) = false := by
  have hn := (Node.mem_constructs_iff.1 hcn).1
  have hlist := Node.mem_children_of_firstChild? hsignature
  have hlistRoot := Node.mem_preorder_trans (Node.mem_preorder_of_mem_children hlist) hn
  -- A crowded list would have been reported, and no report is about a list.
  have hflat :
      Constructor.crowds (n.line s.text) false (Constructor.parameterLines s.text signature) =
        false := by
    rw [← Bool.not_eq_true]
    intro hcrowded
    cases hown _ (mem_violations_iff.2 ⟨_, n, hcn, .crowded hsignature hcrowded⟩)
  have hparameters := Constructor.pairwise_parameters (hs.of_mem hn).tidy hsignature
  -- Each parameter stands against the one before it, the first one against the constructor.
  have horder : (n :: signature.childrenOf .parameter).Pairwise fun p q =>
      p.span.start ≤ q.span.start ∧ q ∈ signature.childrenOf .parameter := by
    rw [List.pairwise_cons]
    refine ⟨fun p hp => ⟨?_, hp⟩, ?_⟩
    · exact ((hs.nests hn).start_le signature hlist).trans (hparameters.1 p hp).1
    · exact hparameters.2.imp_of_mem fun {p _} _ hq hpq =>
        ⟨p.span.start_le_stop.trans hpq, hq⟩
  rw [Constructor.parameterLines, Node.childrenOf_mapSpans, List.map_map]
  simp only [Function.comp_def, Node.isProperty_mapSpans]
  refine Constructor.crowds_eq_false_of_imp (fun m => m.line s.text)
    (fun m => (m.mapSpans (keywordEdits hs hown).rebase).line (s.edited o))
    (horder.imp ?_).isChain hflat
  rintro p q ⟨hle, hq⟩ hline
  have hqlist := Node.mem_children_of_mem_childrenOf hq
  refine line_edited_ne hs hown hfull hle
    (Node.mem_preorder_trans (Node.mem_preorder_of_mem_children hqlist) hlistRoot) ?_ hline
  exact hfull signature hlistRoot q hqlist fun _ => by simp [Node.kind_of_mem_childrenOf hq]

end

/-- When all reports of a run are about keywords, its fixes apply together, and a run over the
fixed text with the rebased tree reports nothing. -/
theorem check_edited_clean (limits : Limits) (o : Options) (s : Source) (ho : o.Usable)
    (hs : s.root.WellNested) (hfull : s.root.Filled) : ∃ found, s.check o = .ok found ∧
      ((∀ v ∈ found.violations, v.cause = .ownLine) →
        ∃ t, Fix.applyAll limits s.text found.fixes = .ok t ∧
          ∃ (e : Edits) (s' : Source), e.fixes = found.fixes ∧
            build s.name t (s.root.mapSpans e.rebase) = .ok s' ∧
            s'.check o = .ok ⟨s.name, [], s.name_ne_nil⟩) := by
  refine ⟨_, check_eq ho (hs.inText s.root_le_length), fun hown => ?_⟩
  have hin := inText_edited hs hown
  let s' : Source :=
    ⟨s.name, s.edited o, s.root.mapSpans (keywordEdits hs hown).rebase, s.name_ne_nil, hin.stop_le⟩
  refine ⟨_, (lineBreaks hs hown).applyAll_eq limits, keywordEdits hs hown, s', rfl, ?_, ?_⟩
  · rw [build, dif_neg s.name_ne_nil]
    exact dif_pos hin.stop_le
  · have hclean : s'.violations o = [] := by
      rw [List.eq_nil_iff_forall_not_mem]
      intro v hv
      obtain ⟨c, m, hcm, hreport⟩ := mem_violations_iff.1 hv
      -- A construct of the moved tree is a construct of the tree, moved.
      rw [Node.constructs_mapSpans, List.mem_map] at hcm
      obtain ⟨⟨c, n⟩, hcn, hmoved⟩ := hcm
      obtain ⟨rfl, rfl⟩ := Prod.mk.inj hmoved
      cases hreport with
      | crowded hsignature hcrowded =>
        rw [Node.firstChild?_mapSpans] at hsignature
        obtain ⟨list, hlist, rfl⟩ := Option.map_eq_some_iff.1 hsignature
        have hflat := crowds_edited_eq_false hs hown hfull hcn hlist
        rw [hflat] at hcrowded
        cases hcrowded
      | shared hpair hline =>
        rw [Keyword.pairs_mapSpans] at hpair
        obtain ⟨⟨previous, target⟩, hmem, hmoved⟩ := List.mem_map.1 hpair
        obtain ⟨rfl, rfl⟩ := Prod.mk.inj hmoved
        exact lastLine_ne_line_edited hs hown hfull hcn hmem hline
    rw [check_eq ho hin, hclean]
    rfl

def chainedFile : Source where
  name := "chain.ts".toList
  text := "if (a) {} else if (b) { try {} catch {} } else {}".toList
  root := ⟨0, .sourceFile, .between 0 0 49, [
    ⟨1, .ifStatement, .between 0 0 49, [
      ⟨2, .block, .between 6 7 9, []⟩, ⟨3, .elseKeyword, .between 9 10 14, []⟩,
      ⟨4, .ifStatement, .between 14 15 49, [
        ⟨5, .block, .between 21 22 41, [
          ⟨6, .tryStatement, .between 23 24 39, [
            ⟨7, .block, .between 27 28 30, []⟩, ⟨8, .catchClause, .between 30 31 39, []⟩]⟩]⟩,
        ⟨9, .elseKeyword, .between 41 42 46, []⟩, ⟨10, .block, .between 46 47 49, []⟩]⟩]⟩]⟩
  name_ne_nil := by decide
  root_le_length := by decide

theorem check_edited_clean_chainedFile : Options.Usable {} ∧ chainedFile.root.WellNested ∧
    chainedFile.root.Filled ∧ ∃ found, chainedFile.check {} = .ok found ∧
      found.fixes.length = 3 ∧ (∀ v ∈ found.violations, v.cause = .ownLine) ∧
      ∃ t, Fix.applyAll .usual chainedFile.text found.fixes = .ok t ∧
        ∃ (e : Edits) (s' : Source), e.fixes = found.fixes ∧
          build chainedFile.name t (chainedFile.root.mapSpans e.rebase) = .ok s' ∧
          s'.check {} = .ok ⟨chainedFile.name, [], chainedFile.name_ne_nil⟩ := by
  have hs : chainedFile.root.WellNested := by decide
  have hfull : chainedFile.root.Filled := by decide
  have hlength : (chainedFile.findings (chainedFile.violations {})).fixes.length = 3 := by
    rw [violations, Node.constructs_eq]
    decide
  have hown : ∀ v ∈ chainedFile.violations {}, v.cause = .ownLine := by
    rw [violations, Node.constructs_eq]
    decide
  obtain ⟨found, hfound, hclean⟩ := check_edited_clean .usual {} chainedFile (by decide) hs hfull
  have hcheck := check_eq (o := {}) (by decide) (hs.inText chainedFile.root_le_length)
  obtain rfl := Except.ok.inj (hfound.symm.trans hcheck)
  exact ⟨by decide, hs, hfull, _, hfound, hlength, hown, hclean hown⟩

end Source

end LayoutLint
