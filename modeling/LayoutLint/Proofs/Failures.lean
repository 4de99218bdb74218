import LayoutLint.Fix.Apply
import LayoutLint.Proofs.LineStarts
import LayoutLint.Proofs.Reports.Run

/-! When a run fails. Nodes may stand in any order and overlap at will: as long as they end within
the text, nothing that is asked about them on the way to a report is refused. Texts may grow to any
length, so that what is left to fail is an indentation in units too wide to be counted, and it does
fail as soon as there is a report. -/
namespace LayoutLint

theorem Construct.Reports.exists_of_options {o : Options} {t : Text} {n : Node} {c : Construct}
    {v : Violation} (h : Reports o t n c v) (o' : Options) : ∃ w, Reports o' t n c w := by
  cases h with
  | crowded hsignature hcrowded => exact ⟨_, .crowded hsignature hcrowded⟩
  | shared hpair hline => exact ⟨_, .shared hpair hline⟩

theorem Source.violations_ne_nil_of_options {o : Options} {s : Source}
    (h : s.violations o ≠ []) (o' : Options) : s.violations o' ≠ [] := by
  obtain ⟨v, hv⟩ := List.exists_mem_of_ne_nil _ h
  obtain ⟨c, n, hcn, hreport⟩ := mem_violations_iff.1 hv
  obtain ⟨w, hw⟩ := hreport.exists_of_options o'
  exact List.ne_nil_of_mem (mem_violations_iff.2 ⟨c, n, hcn, hw⟩)

namespace Text

theorem ofInts_positionAt (t : Text) (offset : Nat) :
    Position.ofInts ((t.passed offset).length - 1) (offset - (t.passed offset).getLastD 0) =
      .ok (t.positionAt offset) := by
  obtain ⟨before, last, hpassed, hlast⟩ := t.exists_passed_eq offset
  rw [positionAt_of_passed_eq hpassed, hpassed, List.getLastD_concat]
  exact Position.ofInts_eq_ok (by simp) (Int.ofNat_sub hlast).symm

end Text

namespace Node

variable {n : Node} {k : Kind} {before : List Node} {target : Node}

theorem exists_indexOf (h : target ∈ n.children) : ∃ i, n.indexOf target = .ok i := by
  unfold indexOf
  cases hindex : n.children.findIdx? (·.id = target.id) with
  | none =>
    have := List.findIdx?_eq_none_iff.1 hindex target h
    simp at this
  | some i => exact ⟨i, rfl⟩

/-- The first child of a kind is found where it stands, when no other child has its `id`. -/
theorem indexOf_of_reach? (h : n.reach? k = some (before, target))
    (hid : ∀ c ∈ n.children, c.id = target.id → c = target) :
    n.indexOf target = .ok before.length := by
  obtain ⟨hkind, hbefore, after, hchildren⟩ := reach?_eq_some_iff.1 h
  have hother : ∀ c ∈ before, ¬ c.id = target.id := by
    intro c hc heq
    have htarget : c = target := hid c (by simp [hchildren, hc]) heq
    exact hbefore c hc (htarget ▸ hkind)
  have hindex : n.children.findIdx? (·.id = target.id) = some before.length := by
    rw [hchildren, List.findIdx?_append, List.findIdx?_eq_none_iff.2 (by simpa using hother),
      List.findIdx?_cons]
    simp
  rw [indexOf, hindex]

theorem bodyBefore_of_reach? (h : n.reach? k = some (before, target))
    (hid : ∀ c ∈ n.children, c.id = target.id → c = target) :
    n.bodyBefore target = .ok (lastBody? before) := by
  obtain ⟨-, -, after, hchildren⟩ := reach?_eq_some_iff.1 h
  rw [bodyBefore, indexOf_of_reach? h hid, Except.map, hchildren, List.take_left]

/-- What is asked about a node on the way to a report, on integers where a number could come out
negative. Each check gives the value that a report is made of. -/
structure Passes (n : Node) (o : Options) (t : Text) : Prop where
  indexOf : ∀ k before target, n.reach? k = some (before, target) →
    ∃ i, n.indexOf target = .ok i ∧
      ((∀ c ∈ n.children, c.id = target.id → c = target) →
        i = before.length ∧ n.bodyBefore target = .ok (lastBody? before))
  position : ∀ offset ∈ [n.span.start, n.span.stop],
    t.position offset = .ok (t.positionAt offset) ∧
      Position.ofInts ((t.passed offset).length - 1) (offset - (t.passed offset).getLastD 0) =
        .ok (t.positionAt offset)
  breakBefore : ∀ indent,
    Fix.ofInts n.span.fullStart (min 1 (n.span.start - n.span.fullStart : Int)) ('\n' :: indent) =
      .ok (Keyword.breakBefore n indent)
  replace : ∀ insert,
    Fix.ofInts n.span.start (n.span.stop - n.span.start) insert = .ok (n.replace insert)
  keywordReport : ∀ start fix, ∃ v,
    Violation.build .ownLine Keyword.message.toList n start fix = .ok v
  constructorReport : ∀ text start fix, ∃ v,
    Violation.build .multilineConstructor (Constructor.message.toList ++ '\n' :: text) n start
      fix = .ok v
  indent : ∀ discount, ∃ level, n.indentLevel o t discount = .ok level ∧
    ∀ more : Nat, ∀ q got, o.indentOf (level + more) ≠ .error (.belowLeast q got)

theorem ofInts_breakBefore (n : Node) (indent : Text) :
    Fix.ofInts n.span.fullStart (min 1 (n.span.start - n.span.fullStart : Int)) ('\n' :: indent) =
      .ok (Keyword.breakBefore n indent) := by
  have hle := n.span.fullStart_le_start
  have hwidth : min 1 (n.span.start - n.span.fullStart : Int) =
      (Keyword.breakBefore n indent).width := by
    simp only [Keyword.breakBefore, Span.triviaWidth]
    omega
  exact Fix.ofInts_eq_ok rfl hwidth

theorem ofInts_replace (n : Node) (insert : Text) :
    Fix.ofInts n.span.start (n.span.stop - n.span.start) insert = .ok (n.replace insert) :=
  Fix.ofInts_eq_ok (f := n.replace insert) rfl (Int.ofNat_sub n.span.start_le_stop).symm

end Node

theorem Options.indentOf_ne_belowLeast (o : Options) (level : Nat) (q : Quantity) (got : Int) :
    o.indentOf level ≠ .error (.belowLeast q got) := by
  rw [indentOf, indentWithin_natCast]
  split
  · simp
  · split <;> simp

theorem Violation.exists_build {message : Text} (h : message ≠ []) (cause : Cause) (node : Node)
    (start : Position) (fix : Option Fix) : ∃ v, build cause message node start fix = .ok v :=
  ⟨_, dif_neg h⟩

theorem Node.passes {n : Node} {t : Text} (hn : n.span.stop ≤ t.length) (o : Options) :
    n.Passes o t where
  indexOf := by
    intro k before target hreach
    obtain ⟨-, -, after, hchildren⟩ := reach?_eq_some_iff.1 hreach
    have htarget : target ∈ n.children := by simp [hchildren]
    obtain ⟨i, hi⟩ := exists_indexOf htarget
    refine ⟨i, hi, fun hid => ⟨?_, bodyBefore_of_reach? hreach hid⟩⟩
    rw [indexOf_of_reach? hreach hid] at hi
    exact (Except.ok.inj hi).symm
  position := by
    intro offset hoffset
    have hstart := n.span.start_le_stop
    simp only [List.mem_cons, List.not_mem_nil, or_false] at hoffset
    exact ⟨Text.position_natCast (by omega), t.ofInts_positionAt offset⟩
  breakBefore := n.ofInts_breakBefore
  replace := n.ofInts_replace
  keywordReport := Violation.exists_build Keyword.message_ne_nil .ownLine n
  constructorReport text := Violation.exists_build (by simp) .multilineConstructor n
  indent discount :=
    ⟨_, Node.indentLevel_of_le (n.span.start_le_stop.trans hn) o discount,
      fun more => o.indentOf_ne_belowLeast (_ + more)⟩

def Options.tooWide : Options where
  size := countLimit
  size_pos := by decide

namespace Source

/-- A run over nodes within the text fails if and only if the indentation cannot be built and
there is something to report, and then for that reason. Nothing else that it asks about a node is
refused. -/
theorem inspect_fails_iff (o : Options) (s : Source) (hs : s.root.InText s.text) :
    ((∃ fault, (s.inspect o).found = .error fault) ↔
        o.useTabs = false ∧ countLimit ≤ o.size ∧
          ∃ vs, (s.inspect .standard).found = .ok vs ∧ vs ≠ []) ∧
      (∀ fault, (s.inspect o).found = .error fault → fault = .countTooLarge) ∧
      ∀ n ∈ s.root.preorder, n.Passes o s.text := by
  have hstandard : (s.inspect .standard).found = .ok (s.violations .standard) :=
    found_inspect (by decide) hs
  -- Reports under two options differ in their texts only: there are some under both or none.
  have hreports : (∃ vs, (s.inspect .standard).found = .ok vs ∧ vs ≠ []) ↔
      s.violations o ≠ [] := by
    rw [hstandard]
    constructor
    · rintro ⟨vs, hvs, hne⟩
      obtain rfl := Except.ok.inj hvs
      exact violations_ne_nil_of_options hne o
    · intro hne
      exact ⟨_, rfl, violations_ne_nil_of_options hne .standard⟩
  have hfails : ∀ fault, (s.inspect o).found = .error fault ↔
      (¬ o.Usable ∧ s.violations o ≠ []) ∧ fault = .countTooLarge := by
    intro fault
    rw [found_inspect_outcome hs, Options.outcome_eq_error_iff]
  refine ⟨?_, fun fault h => ((hfails fault).1 h).2, fun n hn => Node.passes (hs n hn) o⟩
  rw [← and_assoc, ← Options.not_usable_iff, hreports]
  constructor
  · rintro ⟨fault, h⟩
    exact ((hfails fault).1 h).1
  · intro h
    exact ⟨_, (hfails _).2 ⟨h, rfl⟩⟩

def tangledFile : Source where
  name := "tangled.ts".toList
  text := "constructor(private a) {} else {}".toList
  root := ⟨0, .ifStatement, .between 0 0 33, [
    ⟨1, .elseKeyword, .between 25 26 30, []⟩, ⟨2, .block, .between 30 31 33, []⟩,
    ⟨3, .constructor, .between 0 0 25, [
      ⟨4, .syntaxList, .between 12 12 21, [
        ⟨5, .parameter, .between 12 12 21, [
          ⟨6, .syntaxList, .between 12 12 19, [
            ⟨7, .privateKeyword, .between 12 12 19, []⟩]⟩]⟩]⟩]⟩]⟩
  name_ne_nil := by decide
  root_le_length := by decide

theorem inspect_fails_iff_tangledFile : tangledFile.root.InText tangledFile.text ∧
    (tangledFile.inspect .tooWide).found = .error .countTooLarge ∧
    ∃ vs, (tangledFile.inspect .standard).found = .ok vs ∧ vs.length = 1 := by
  have hin : tangledFile.root.InText tangledFile.text := by decide
  have hstandard : (tangledFile.inspect .standard).found = .ok (tangledFile.violations .standard) :=
    found_inspect (by decide) hin
  have hcount : (tangledFile.violations .standard).length = 1 := by
    rw [violations, Node.constructs_eq]
    decide
  have hne : tangledFile.violations .standard ≠ [] := by
    rw [← List.length_pos_iff, hcount]
    exact Nat.one_pos
  obtain ⟨hiff, hfault, -⟩ := inspect_fails_iff .tooWide tangledFile hin
  obtain ⟨fault, hfails⟩ := hiff.2 ⟨rfl, Nat.le_refl _, _, hstandard, hne⟩
  exact ⟨hin, hfault fault hfails ▸ hfails, _, hstandard, hcount⟩

end Source

end LayoutLint
