import LayoutLint.Proofs.Failures

/-! When a keyword is reported, when it is skipped with a note, and when it is accepted. The
inspections look for the first child of a kind and back from there along the children before it.
Here the same is said by the indices of the children, and what is looked up by `id` is the child at
that index. -/
namespace LayoutLint

theorem Kind.isTryBody_iff {k : Kind} : k.isTryBody ↔ k = .block ∨ k = .catchClause := by
  cases k <;> decide

namespace Node

def FirstAt (n : Node) (k : Kind) (i : Nat) (target : Node) : Prop :=
  n.children[i]? = some target ∧ target.kind = k ∧ ∀ c ∈ n.children.take i, c.kind ≠ k

def IsBody (n : Node) : Prop :=
  n.kind = .block ∨ n.kind = .catchClause

instance (n : Node) : Decidable n.IsBody :=
  inferInstanceAs (Decidable (n.kind = .block ∨ n.kind = .catchClause))

def NearestBody (n : Node) (i : Nat) (body : Node) : Prop :=
  ∃ j < i, n.children[j]? = some body ∧ body.IsBody ∧
    ∀ c ∈ (n.children.take i).drop (j + 1), ¬ c.IsBody

private theorem eq_take_append_cons_drop {l : List Node} {i : Nat} {c : Node}
    (h : l[i]? = some c) : l = l.take i ++ c :: l.drop (i + 1) := by
  obtain ⟨hi, rfl⟩ := List.getElem?_eq_some_iff.1 h
  rw [← List.drop_eq_getElem_cons hi, List.take_append_drop]

variable {n : Node} {k : Kind} {i : Nat} {target body : Node}

theorem FirstAt.reach?_eq (h : n.FirstAt k i target) :
    n.reach? k = some (n.children.take i, target) :=
  reach?_eq_some_iff.2 ⟨h.2.1, h.2.2, _, eq_take_append_cons_drop h.1⟩

theorem reach?_eq_none_iff : n.reach? k = none ↔ ∀ c ∈ n.children, c.kind ≠ k := by
  simp [reach?, firstChild?]

theorem exists_firstAt {before : List Node} (h : n.reach? k = some (before, target)) :
    ∃ i, n.FirstAt k i target := by
  obtain ⟨hkind, hbefore, after, hchildren⟩ := reach?_eq_some_iff.1 h
  refine ⟨before.length, ?_, hkind, ?_⟩
  · simp [hchildren]
  · rw [hchildren, List.take_left]
    exact hbefore

theorem lastBody?_take_eq_some_iff :
    lastBody? (n.children.take i) = some body ↔ n.NearestBody i body := by
  rw [lastBody?, List.find?_eq_some_iff_append]
  -- What is passed on the way back stands behind the body.
  constructor
  · rintro ⟨hbody, late, early, hsplit, hlate⟩
    have htake : n.children.take i = early.reverse ++ body :: late.reverse := by
      simpa using congrArg List.reverse hsplit
    have hlength := congrArg List.length htake
    simp only [List.length_take, List.length_append, List.length_cons, List.length_reverse]
      at hlength
    refine ⟨early.length, by omega, ?_, Kind.isTryBody_iff.1 hbody, ?_⟩
    · rw [← List.getElem?_take_of_lt (show early.length < i by omega), htake]
      simp
    · have hdrop : (n.children.take i).drop (early.length + 1) = late.reverse := by
        rw [htake]
        simp [← List.drop_drop]
      intro c hc hbodyc
      rw [hdrop, List.mem_reverse] at hc
      simpa [Kind.isTryBody_iff.2 hbodyc] using hlate c hc
  · rintro ⟨j, hji, hj, hbody, hlate⟩
    rw [← List.getElem?_take_of_lt hji] at hj
    refine ⟨Kind.isTryBody_iff.2 hbody, ((n.children.take i).drop (j + 1)).reverse,
      ((n.children.take i).take j).reverse, ?_, fun c hc => ?_⟩
    · conv => lhs; rw [eq_take_append_cons_drop hj]
      simp
    · have hnot := hlate c (List.mem_reverse.1 hc)
      rw [IsBody, ← Kind.isTryBody_iff] at hnot
      simpa using hnot

/-- Looking a child up by its `id`, and back from there, comes to the same places. -/
theorem FirstAt.lookup (h : n.FirstAt k i target)
    (hid : ∀ c ∈ n.children, c.id = target.id → c = target) :
    n.indexOf target = .ok i ∧
      ∀ body, n.bodyBefore target = .ok (some body) ↔ n.NearestBody i body := by
  have hlength : (n.children.take i).length = i :=
    List.length_take_of_le (List.getElem?_eq_some_iff.1 h.1).1.le
  refine ⟨(indexOf_of_reach? h.reach?_eq hid).trans (congrArg _ hlength), fun body => ?_⟩
  rw [bodyBefore_of_reach? h.reach?_eq hid, Except.ok.injEq, lastBody?_take_eq_some_iff]

theorem lastBody?_eq_none_iff {before : List Node} :
    lastBody? before = none ↔ ∀ c ∈ before, ¬ c.IsBody := by
  simp [lastBody?, IsBody, Kind.isTryBody_iff]

theorem hasChild_iff : n.hasChild k ↔ ∃ c ∈ n.children, c.kind = k := by
  simp [hasChild, firstChild?]

theorem hasChild_iff_eraseIdx {c : Node} (hc : n.children[i]? = some c) (hkind : c.kind ≠ k) :
    n.hasChild k ↔ ∃ d ∈ n.children.eraseIdx i, d.kind = k := by
  rw [hasChild_iff]
  constructor
  · rintro ⟨d, hd, hdk⟩
    obtain ⟨j, hj⟩ := List.mem_iff_getElem?.1 hd
    refine ⟨d, List.mem_eraseIdx_iff_getElem?.2 ⟨j, ?_, hj⟩, hdk⟩
    rintro rfl
    obtain rfl := Option.some.inj (hj.symm.trans hc)
    exact hkind hdk
  · rintro ⟨d, hd, hdk⟩
    exact ⟨d, List.mem_of_mem_eraseIdx hd, hdk⟩

end Node

namespace Keyword

/-- What is noted of the first child of a kind in a try statement, and what is reported of it. -/
inductive TryVerdict (t : Text) (n : Node) (k : Kind) : List Note → List Node → Prop where
  | absent (habsent : ∀ c ∈ n.children, c.kind ≠ k) : TryVerdict t n k [] []
  | skipped {i : Nat} {target : Node} (hfirst : n.FirstAt k i target)
      (hnone : ∀ c ∈ n.children.take i, ¬ c.IsBody) :
      TryVerdict t n k [.noBlockBefore k target.span.start] []
  | apart {i : Nat} {target body : Node} (hfirst : n.FirstAt k i target)
      (hbody : n.NearestBody i body) (hline : body.lastLine t ≠ target.line t) :
      TryVerdict t n k [] []
  | shared {i : Nat} {target body : Node} (hfirst : n.FirstAt k i target)
      (hbody : n.NearestBody i body) (hline : body.lastLine t = target.line t) :
      TryVerdict t n k [] [target]

/-- What is noted of the first else keyword in an if statement, and what is reported of it. -/
inductive IfVerdict (t : Text) (n : Node) : List Note → List Node → Prop where
  | absent (habsent : ∀ c ∈ n.children, c.kind ≠ .elseKeyword) : IfVerdict t n [] []
  | unbraced (hunbraced : ∀ c ∈ n.children, c.kind ≠ .block) : IfVerdict t n [] []
  | skipped {target : Node} (hfirst : n.FirstAt .elseKeyword 0 target)
      (hbraced : ∃ c ∈ n.children, c.kind = .block) :
      IfVerdict t n [.elseWithoutPredecessor target.span.start] []
  | apart {i : Nat} {previous target : Node} (hfirst : n.FirstAt .elseKeyword (i + 1) target)
      (hprevious : n.children[i]? = some previous)
      (hline : previous.lastLine t ≠ target.line t) : IfVerdict t n [] []
  | shared {i : Nat} {previous target : Node} (hfirst : n.FirstAt .elseKeyword (i + 1) target)
      (hprevious : n.children[i]? = some previous) (hbraced : ∃ c ∈ n.children, c.kind = .block)
      (hline : previous.lastLine t = target.line t) : IfVerdict t n [] [target]

variable {o : Options} {t : Text} {n : Node} {notes : List Note} {reported : List Node}

theorem exists_tryVerdict (t : Text) (n : Node) (k : Kind) :
    ∃ notes reported, TryVerdict t n k notes reported := by
  cases hreach : n.reach? k with
  | none => exact ⟨_, _, .absent (Node.reach?_eq_none_iff.1 hreach)⟩
  | some reached =>
    obtain ⟨i, hfirst⟩ := Node.exists_firstAt hreach
    cases hbody : Node.lastBody? (n.children.take i) with
    | none => exact ⟨_, _, .skipped hfirst (Node.lastBody?_eq_none_iff.1 hbody)⟩
    | some body =>
      have hbody := Node.lastBody?_take_eq_some_iff.1 hbody
      by_cases hline : body.lastLine t = reached.2.line t
      · exact ⟨_, _, .shared hfirst hbody hline⟩
      · exact ⟨_, _, .apart hfirst hbody hline⟩

theorem exists_ifVerdict (t : Text) (n : Node) :
    ∃ notes reported, IfVerdict t n notes reported := by
  cases hreach : n.reach? .elseKeyword with
  | none => exact ⟨_, _, .absent (Node.reach?_eq_none_iff.1 hreach)⟩
  | some reached =>
    by_cases hbraced : ∃ c ∈ n.children, c.kind = .block
    · obtain ⟨i, hfirst⟩ := Node.exists_firstAt hreach
      cases i with
      | zero => exact ⟨_, _, .skipped hfirst hbraced⟩
      | succ i =>
        have hi : i < n.children.length :=
          (Nat.lt_succ_self i).trans (List.getElem?_eq_some_iff.1 hfirst.1).1
        have hprevious := List.getElem?_eq_getElem hi
        by_cases hline : n.children[i].lastLine t = reached.2.line t
        · exact ⟨_, _, .shared hfirst hprevious hbraced hline⟩
        · exact ⟨_, _, .apart hfirst hprevious hline⟩
    · exact ⟨_, _, .unbraced fun c hc hblock => hbraced ⟨c, hc, hblock⟩⟩

theorem check_children (hn : n.InText t) {i j : Nat} {previous target : Node}
    (hprevious : n.children[i]? = some previous) (htarget : n.children[j]? = some target)
    (o : Options) : check o t previous target = o.outcome (violations o t (previous, target)) := by
  have hstart := target.span.start_le_stop
  have hstop := (hn.child (List.mem_of_getElem? htarget)).stop_le
  exact check_eq (hn.child (List.mem_of_getElem? hprevious)).stop_le (hstart.trans hstop) o

theorem inspectContinuation_eq_of_body (hn : n.InText t) {k : Kind} {i : Nat} {target body : Node}
    (hfirst : n.FirstAt k i target) (hbody : n.NearestBody i body) (o : Options) :
    inspectContinuation o t n k = ⟨[], o.outcome (violations o t (body, target))⟩ := by
  have ⟨_, _, hj, _⟩ := hbody
  simp only [inspectContinuation, hfirst.reach?_eq, Node.lastBody?_take_eq_some_iff.2 hbody,
    check_children hn hj hfirst.1]
  rfl

theorem inspectContinuation_eq {k : Kind} (ho : o.Usable) (hn : n.InText t)
    (h : TryVerdict t n k notes reported) :
    inspectContinuation o t n k = ⟨notes, .ok (reported.map (violation o t))⟩ := by
  cases h with
  | absent habsent =>
    rw [inspectContinuation, Node.reach?_eq_none_iff.2 habsent]
    rfl
  | skipped hfirst hnone =>
    simp only [inspectContinuation, hfirst.reach?_eq, Node.lastBody?_eq_none_iff.2 hnone]
    rfl
  | apart hfirst hbody hline =>
    rw [inspectContinuation_eq_of_body hn hfirst hbody, violations, if_neg hline]
    rfl
  | shared hfirst hbody hline =>
    rw [inspectContinuation_eq_of_body hn hfirst hbody, Options.outcome_of_usable ho, violations,
      if_pos hline]
    rfl

theorem inspectIf_eq_of_predecessor (hn : n.InText t) {i : Nat} {previous target : Node}
    (hfirst : n.FirstAt .elseKeyword (i + 1) target) (hprevious : n.children[i]? = some previous)
    (o : Options) : inspectIf o t n = ⟨[],
      if n.hasChild .block then o.outcome (violations o t (previous, target)) else .ok []⟩ := by
  have hlast : (n.children.take (i + 1)).getLast? = some previous := by
    simp [List.getLast?_take, hprevious]
  simp only [inspectIf, hfirst.reach?_eq, hlast, check_children hn hprevious hfirst.1]
  split <;> rfl

theorem inspectIf_eq (ho : o.Usable) (hn : n.InText t) (h : IfVerdict t n notes reported) :
    inspectIf o t n = ⟨notes, .ok (reported.map (violation o t))⟩ := by
  cases h with
  | absent habsent =>
    rw [inspectIf, Node.reach?_eq_none_iff.2 habsent]
    rfl
  | unbraced hunbraced =>
    have hblock : n.hasChild .block = false := by
      rw [Bool.eq_false_iff, Ne, Node.hasChild_iff]
      rintro ⟨c, hc, hkind⟩
      exact hunbraced c hc hkind
    unfold inspectIf
    cases n.reach? .elseKeyword with
    | none => rfl
    | some reached =>
      simp only [hblock]
      rfl
  | skipped hfirst hbraced =>
    simp only [inspectIf, hfirst.reach?_eq, Node.hasChild_iff.2 hbraced]
    rfl
  | apart hfirst hprevious hline =>
    rw [inspectIf_eq_of_predecessor hn hfirst hprevious, violations, if_neg hline, Options.outcome,
      ite_self]
    rfl
  | shared hfirst hprevious hbraced hline =>
    rw [inspectIf_eq_of_predecessor hn hfirst hprevious, if_pos (Node.hasChild_iff.2 hbraced),
      Options.outcome_of_usable ho, violations, if_pos hline]
    rfl

/-- The verdicts on a statement are what its inspection notes and reports, in order, and there is
one on every statement. The keyword that a verdict is about is the one that its `id` leads to. -/
theorem inspect_exactly_verdicts (o : Options) (t : Text) (n : Node) (ho : o.Usable)
    (hn : n.InText t) :
    ((∀ k, ∃ notes reported, TryVerdict t n k notes reported) ∧
        ∀ notes notes' reported reported', TryVerdict t n .catchClause notes reported →
          TryVerdict t n .finallyKeyword notes' reported' → inspectTry o t n =
            ⟨notes ++ notes', .ok ((reported ++ reported').map (violation o t))⟩) ∧
      ((∃ notes reported, IfVerdict t n notes reported) ∧
        ∀ notes reported, IfVerdict t n notes reported →
          inspectIf o t n = ⟨notes, .ok (reported.map (violation o t))⟩) ∧
      ∀ k i target, n.FirstAt k i target → (∀ c ∈ n.children, c.id = target.id → c = target) →
        n.indexOf target = .ok i ∧
          ∀ body, n.bodyBefore target = .ok (some body) ↔ n.NearestBody i body := by
  refine ⟨⟨exists_tryVerdict t n, ?_⟩, ⟨exists_ifVerdict t n, ?_⟩, fun _ _ _ => Node.FirstAt.lookup⟩
  · intro notes notes' reported reported' hcatch hfinally
    rw [inspectTry, inspectContinuation_eq ho hn hcatch, inspectContinuation_eq ho hn hfinally,
      Inspection.append_of_ok rfl, List.map_append]
    rfl
  · intro notes reported h
    exact inspectIf_eq ho hn h

def twinBlocksText : Text := "catch {} {} finally {}".toList

def secondTwin : Node :=
  ⟨3, .block, .between 8 9 11, []⟩

def twinsFinally : Node :=
  ⟨4, .finallyKeyword, .between 11 12 19, []⟩

def twinBlocks : Node :=
  ⟨0, .tryStatement, .between 0 0 22, [
    ⟨1, .catchClause, .between 0 0 8, []⟩, ⟨2, .block, .between 8 9 11, []⟩, secondTwin,
    twinsFinally, ⟨5, .block, .between 19 20 22, []⟩]⟩

def leadingElseText : Text := "else {}".toList

def leadingElse : Node :=
  ⟨0, .ifStatement, .between 0 0 7, [
    ⟨1, .elseKeyword, .between 0 0 4, []⟩, ⟨2, .block, .between 4 5 7, []⟩]⟩

theorem inspect_exactly_verdicts_twinBlocks : Options.Usable {} ∧
    twinBlocks.InText twinBlocksText ∧ leadingElse.InText leadingElseText ∧
    inspectTry {} twinBlocksText twinBlocks =
      ⟨[.noBlockBefore .catchClause 0], .ok [violation {} twinBlocksText twinsFinally]⟩ ∧
    twinBlocks.indexOf twinsFinally = .ok 3 ∧
    twinBlocks.bodyBefore twinsFinally = .ok (some secondTwin) ∧
    inspectIf {} leadingElseText leadingElse = ⟨[.elseWithoutPredecessor 0], .ok []⟩ := by
  have hin : twinBlocks.InText twinBlocksText := by decide
  have hin' : leadingElse.InText leadingElseText := by decide
  have hfinally : twinBlocks.FirstAt .finallyKeyword 3 twinsFinally := ⟨rfl, rfl, by decide⟩
  have hbody : twinBlocks.NearestBody 3 secondTwin := ⟨2, by decide, rfl, Or.inl rfl, by decide⟩
  have hid : ∀ c ∈ twinBlocks.children, c.id = twinsFinally.id → c = twinsFinally := by
    simp [twinBlocks, secondTwin, twinsFinally]
  obtain ⟨⟨-, htry⟩, -, hlookup⟩ :=
    inspect_exactly_verdicts {} twinBlocksText twinBlocks (by decide) hin
  obtain ⟨-, ⟨-, hif⟩, -⟩ :=
    inspect_exactly_verdicts {} leadingElseText leadingElse (by decide) hin'
  obtain ⟨hindex, hback⟩ := hlookup _ _ _ hfinally hid
  exact ⟨by decide, hin, hin',
    htry _ _ _ _ (.skipped (i := 0) ⟨rfl, rfl, by decide⟩ (by decide))
      (.shared hfinally hbody (by decide)),
    hindex, (hback _).2 hbody, hif _ _ (.skipped ⟨rfl, rfl, by decide⟩ ⟨_, .tail _ (.head _), rfl⟩)⟩

/-- An if statement whose consequent is no block is exempt when none of its other children is a
block. A block elsewhere, as behind the else keyword, takes the exemption away, and then the keyword
is reported if it starts on the line where the consequent ends. -/
theorem unbraced_exempt_iff (o : Options) (t : Text) (n : Node) (hn : n.InText t) {i : Nat}
    {consequent target : Node} (hfirst : n.FirstAt .elseKeyword (i + 1) target)
    (hconsequent : n.children[i]? = some consequent) (hunbraced : consequent.kind ≠ .block) :
    (inspectIf o t n).notes = [] ∧
      ((inspectIf o t n).found = .ok [] ↔
        (∀ c ∈ n.children.eraseIdx i, c.kind ≠ .block) ∨
          consequent.lastLine t ≠ target.line t) ∧
      (∀ c ∈ n.children.eraseIdx i, c.kind = .block → consequent.lastLine t = target.line t →
        (inspectIf o t n).found = o.outcome [violation o t target]) := by
  have hblock := Node.hasChild_iff_eraseIdx hconsequent hunbraced
  have hreports : o.outcome [violation o t target] ≠ .ok [] := fun h =>
    List.cons_ne_nil _ _ (Options.eq_of_outcome_eq_ok h)
  -- The consequent is no block, so a block must be another child, before or behind the keyword.
  rw [inspectIf_eq_of_predecessor hn hfirst hconsequent, violations]
  refine ⟨rfl, ?_, fun c hc hkind hline => ?_⟩
  · by_cases hline : consequent.lastLine t = target.line t
    · rw [if_pos hline, or_iff_left (not_not.2 hline)]
      split
      · rename_i hbraced
        obtain ⟨c, hc, hkind⟩ := hblock.1 hbraced
        exact iff_of_false hreports fun hnone => hnone c hc hkind
      · rename_i hbraced
        exact iff_of_true rfl fun c hc hkind => hbraced (hblock.2 ⟨c, hc, hkind⟩)
    · rw [if_neg hline, Options.outcome, ite_self]
      exact iff_of_true rfl (Or.inr hline)
  · rw [if_pos hline, if_pos (hblock.2 ⟨c, hc, hkind⟩)]

def chainedIfText : Text := "if (x) a(); else if (y) b();".toList

def chainedIf : Node :=
  ⟨0, .ifStatement, .between 0 0 28, [
    ⟨1, .other, .between 0 0 2, []⟩, ⟨2, .other, .between 2 3 6, []⟩,
    ⟨3, .other, .between 6 7 11, []⟩, ⟨4, .elseKeyword, .between 11 12 16, []⟩,
    ⟨5, .ifStatement, .between 16 17 28, []⟩]⟩

theorem unbraced_exempt_iff_chainedIf : chainedIf.InText chainedIfText ∧
    chainedIf.FirstAt .elseKeyword 3 ⟨4, .elseKeyword, .between 11 12 16, []⟩ ∧
    chainedIf.children[2]? = some ⟨3, .other, .between 6 7 11, []⟩ ∧ Kind.other ≠ .block ∧
    (∀ c ∈ chainedIf.children.eraseIdx 2, c.kind ≠ .block) ∧
    inspectIf .tooWide chainedIfText chainedIf = .nothing := by
  have hin : chainedIf.InText chainedIfText := by decide
  have hfirst : chainedIf.FirstAt .elseKeyword 3 ⟨4, .elseKeyword, .between 11 12 16, []⟩ :=
    ⟨rfl, rfl, by decide⟩
  have hothers : ∀ c ∈ chainedIf.children.eraseIdx 2, c.kind ≠ .block := by decide
  obtain ⟨hnotes, hfound, -⟩ :=
    unbraced_exempt_iff .tooWide chainedIfText chainedIf hin hfirst rfl (by decide)
  refine ⟨hin, hfirst, rfl, by decide, hothers, ?_⟩
  exact congrArg₂ Inspection.mk hnotes (hfound.2 (Or.inl hothers))

def bracedElseText : Text := "if (x) a(); else { b(); }".toList

def bracedElseKeyword : Node :=
  ⟨4, .elseKeyword, .between 11 12 16, []⟩

def bracedElse : Node :=
  ⟨0, .ifStatement, .between 0 0 25, [
    ⟨1, .other, .between 0 0 2, []⟩, ⟨2, .other, .between 2 3 6, []⟩,
    ⟨3, .other, .between 6 7 11, []⟩, bracedElseKeyword, ⟨5, .block, .between 16 17 25, []⟩]⟩

/-- The consequent is no block, and yet the keyword is reported. -/
theorem bracedElse_is_reported : bracedElse.kind = .ifStatement ∧
    bracedElse.InText bracedElseText ∧ bracedElse.FirstAt .elseKeyword 3 bracedElseKeyword ∧
    (∃ consequent, bracedElse.children[2]? = some consequent ∧ consequent.kind ≠ .block) ∧
    (inspectIf {} bracedElseText bracedElse).found =
      .ok [violation {} bracedElseText bracedElseKeyword] := by
  have hin : bracedElse.InText bracedElseText := by decide
  have hfirst : bracedElse.FirstAt .elseKeyword 3 bracedElseKeyword := ⟨rfl, rfl, by decide⟩
  refine ⟨rfl, hin, hfirst, ⟨_, rfl, by decide⟩, ?_⟩
  rw [inspectIf_eq_of_predecessor hin hfirst rfl]
  rfl

end Keyword

end LayoutLint
