import LayoutLint.Check.Run
import LayoutLint.Proofs.Reports.Outcome

/-! What the inspection of a keyword within the text reports. The keywords of a construct form
pairs with the nodes whose lines they have to leave, and each pair is reported or not. -/
namespace LayoutLint.Keyword

/-- The first child of a kind, after the block or catch clause whose line it has to leave. -/
def continuation (n : Node) (k : Kind) : List (Node × Node) :=
  match n.reach? k with
  | none => []
  | some (before, target) => ((Node.lastBody? before).map (·, target)).toList

/-- The keywords of a construct, each after the node whose line it has to leave. -/
def pairs (n : Node) : Construct → List (Node × Node)
  | .constructor => []
  | .tryStatement => continuation n .catchClause ++ continuation n .finallyKeyword
  | .ifStatement =>
    match n.reach? .elseKeyword with
    | none => []
    | some (before, target) =>
      if n.hasChild .block then (before.getLast?.map (·, target)).toList else []

def violation (o : Options) (t : Text) (target : Node) : Violation where
  cause := .ownLine
  message := message.toList
  node := target
  start := t.positionAt target.span.start
  fix := some (breakBefore target
    (o.blanks (o.levelOf ((t.positionAt target.span.start).character - offset))))
  message_ne_nil

def violations (o : Options) (t : Text) (pair : Node × Node) : List Violation :=
  if pair.1.lastLine t = pair.2.line t then [violation o t pair.2] else []

theorem eq_violation_of_mem {o : Options} {t : Text} {previous target : Node} {v : Violation}
    (h : v ∈ violations o t (previous, target)) : v = violation o t target := by
  unfold violations at h
  split at h
  · exact List.mem_singleton.1 h
  · simp at h

theorem check_eq {t : Text} {previous target : Node} (hprevious : previous.span.stop ≤ t.length)
    (htarget : target.span.start ≤ t.length) (o : Options) :
    check o t previous target = o.outcome (violations o t (previous, target)) := by
  have hstart := Node.startPosition_of_le htarget
  have hlevel := Node.indentLevel_of_le htarget o offset
  unfold check
  rw [Node.sharesLine_eq hprevious htarget, hlevel, hstart, violations]
  by_cases hline : previous.lastLine t = target.line t
  · simp only [hline, decide_true, if_true, bind, Except.bind]
    by_cases ho : o.Usable
    · rw [Options.indent_eq_blanks ho, Options.outcome_of_usable ho]
      rfl
    · rw [Options.indent_eq_error ho, Options.outcome_of_not_usable ho (List.cons_ne_nil _ _)]
  · simp only [hline, decide_false, if_false, bind, Except.bind]
    rfl

theorem report_of_check {o : Options} {t : Text} {previous target : Node} {vs : List Violation}
    (h : check o t previous target = .ok vs) {v : Violation} (hv : v ∈ vs) :
    o.Usable ∧ target.span.start ≤ t.length ∧ previous.lastLine t = target.line t ∧
      v = violation o t target := by
  rcases Nat.lt_or_ge t.length previous.span.stop with hprevious | hprevious
  · rw [check, Node.sharesLine, Node.endPosition_of_lt hprevious] at h
    cases h
  rcases Nat.lt_or_ge t.length target.span.start with htarget | htarget
  · rw [check, Node.sharesLine, Node.endPosition_eq hprevious,
      Node.startPosition_of_lt htarget] at h
    cases h
  rw [check_eq hprevious htarget] at h
  obtain rfl := Options.eq_of_outcome_eq_ok h
  have hvs : violations o t (previous, target) ≠ [] := List.ne_nil_of_mem hv
  refine ⟨?_, htarget, ?_, eq_violation_of_mem hv⟩
  · refine Decidable.byContradiction fun ho => ?_
    rw [Options.outcome_of_not_usable ho hvs] at h
    cases h
  · refine Decidable.byContradiction fun hline => hvs ?_
    exact if_neg hline

theorem isTryBody_of_lastBody? {before : List Node} {body : Node}
    (h : Node.lastBody? before = some body) : body.kind.isTryBody := by
  unfold Node.lastBody? at h
  simpa using List.find?_some h

theorem children_of_mem_continuation {n previous target : Node} {k : Kind}
    (h : (previous, target) ∈ continuation n k) :
    target.kind = k ∧ previous.kind.isTryBody ∧
      ∃ before after, n.children = before ++ target :: after ∧ previous ∈ before := by
  unfold continuation at h
  split at h
  · simp at h
  · rename_i before target' hreach
    simp only [Option.mem_toList, Option.map_eq_some_iff, Prod.mk.injEq] at h
    obtain ⟨body, hbody, rfl, rfl⟩ := h
    obtain ⟨hkind, -, after, hchildren⟩ := Node.reach?_eq_some_iff.1 hreach
    have hmem : body ∈ before := by simpa using List.mem_of_find?_eq_some hbody
    exact ⟨hkind, isTryBody_of_lastBody? hbody, before, after, hchildren, hmem⟩

theorem children_of_mem_pairs {n previous target : Node} {c : Construct}
    (h : (previous, target) ∈ pairs n c) :
    target.kind ≠ .syntaxList ∧
      ∃ before after, n.children = before ++ target :: after ∧ previous ∈ before := by
  cases c with
  | constructor => simp [pairs] at h
  | tryStatement =>
    rw [pairs, List.mem_append] at h
    rcases h with h | h
    · obtain ⟨hkind, -, hchildren⟩ := children_of_mem_continuation h
      exact ⟨by simp [hkind], hchildren⟩
    · obtain ⟨hkind, -, hchildren⟩ := children_of_mem_continuation h
      exact ⟨by simp [hkind], hchildren⟩
  | ifStatement =>
    rw [pairs] at h
    split at h
    · simp at h
    · rename_i before target' hreach
      split at h
      · simp only [Option.mem_toList, Option.map_eq_some_iff, Prod.mk.injEq] at h
        obtain ⟨last, hlast, rfl, rfl⟩ := h
        obtain ⟨hkind, -, after, hchildren⟩ := Node.reach?_eq_some_iff.1 hreach
        exact ⟨by simp [hkind], before, after, hchildren, List.mem_of_getLast? hlast⟩
      · simp at h

theorem pairwise_kind_pairs (n : Node) (c : Construct) :
    (pairs n c).Pairwise fun p q => p.2.kind ≠ q.2.kind := by
  have hsingle : ∀ k, (continuation n k).Pairwise fun p q => p.2.kind ≠ q.2.kind := by
    intro k
    unfold continuation
    split
    · simp
    · cases Node.lastBody? _ <;> simp
  cases c with
  | constructor => simp [pairs]
  | tryStatement =>
    rw [pairs, List.pairwise_append]
    refine ⟨hsingle _, hsingle _, ?_⟩
    rintro ⟨p, target⟩ hp ⟨q, target'⟩ hq
    simp [(children_of_mem_continuation hp).1, (children_of_mem_continuation hq).1]
  | ifStatement =>
    rw [pairs]
    split
    · simp
    · rename_i before target _
      split
      · cases before.getLast? <;> simp
      · simp

theorem pairwise_pairs {n : Node} (hn : n.Nests) (c : Construct) :
    (pairs n c).Pairwise fun p q => p.2.Apart q.2 := by
  refine List.Pairwise.imp_of_mem ?_ (pairwise_kind_pairs n c)
  rintro ⟨p, target⟩ ⟨q, target'⟩ hp hq hkind
  obtain ⟨-, before, after, hchildren, -⟩ := children_of_mem_pairs hp
  obtain ⟨-, before', after', hchildren', -⟩ := children_of_mem_pairs hq
  have hne : target' ≠ target := fun heq => hkind (congrArg Node.kind heq).symm
  have hmem : target' ∈ before ++ target :: after := by
    rw [← hchildren, hchildren']
    simp
  obtain ⟨hbefore, hafter⟩ := hn.siblings hchildren
  simp only [List.mem_append, List.mem_cons, hne, false_or] at hmem
  rcases hmem with hmem | hmem
  · exact Or.inr (hbefore target' hmem)
  · exact Or.inl (hafter target' hmem)

def checks (o : Options) (t : Text) (ps : List (Node × Node)) : Inspection :=
  .concat (ps.map fun p => .ofFound (check o t p.1 p.2))

theorem checks_singleton (o : Options) (t : Text) (p : Node × Node) :
    checks o t [p] = .ofFound (check o t p.1 p.2) :=
  Inspection.append_nothing _

theorem found_inspectContinuation (o : Options) (t : Text) (n : Node) (k : Kind) :
    (inspectContinuation o t n k).found = (checks o t (continuation n k)).found := by
  unfold inspectContinuation continuation
  cases n.reach? k with
  | none => rfl
  | some reached =>
    obtain ⟨before, target⟩ := reached
    cases hbody : Node.lastBody? before with
    | none =>
      simp only [hbody]
      rfl
    | some body =>
      simp only [hbody, Option.map_some, Option.toList_some, checks_singleton]

theorem found_inspectTry (o : Options) (t : Text) (n : Node) :
    (inspectTry o t n).found = (checks o t (pairs n .tryStatement)).found := by
  rw [pairs, checks, List.map_append, Inspection.concat_append, inspectTry,
    Inspection.found_append_eq, Inspection.found_append_eq, found_inspectContinuation,
    found_inspectContinuation]
  rfl

theorem found_inspectIf (o : Options) (t : Text) (n : Node) :
    (inspectIf o t n).found = (checks o t (pairs n .ifStatement)).found := by
  unfold inspectIf pairs
  cases n.reach? .elseKeyword with
  | none => rfl
  | some reached =>
    obtain ⟨before, target⟩ := reached
    cases n.hasChild .block with
    | false => rfl
    | true =>
      cases hlast : before.getLast? with
      | none =>
        simp only [hlast]
        rfl
      | some last =>
        simp only [hlast, if_true, Option.map_some, Option.toList_some, checks_singleton]

theorem mem_children_of_mem_pairs {n previous target : Node} {c : Construct}
    (h : (previous, target) ∈ pairs n c) : previous ∈ n.children ∧ target ∈ n.children := by
  obtain ⟨-, before, after, hchildren, hprevious⟩ := children_of_mem_pairs h
  simp [hchildren, hprevious]

theorem found_checks {t : Text} {n : Node} (hn : n.InText t) (o : Options) (c : Construct) :
    (checks o t (pairs n c)).found = o.outcome ((pairs n c).flatMap (violations o t)) := by
  refine Inspection.found_concat ?_
  rintro ⟨previous, target⟩ hp
  obtain ⟨hprevious, htarget⟩ := mem_children_of_mem_pairs hp
  exact check_eq (hn.child hprevious).stop_le
    (target.span.start_le_stop.trans (hn.child htarget).stop_le) o

end LayoutLint.Keyword
