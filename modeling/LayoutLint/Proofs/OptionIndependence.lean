import LayoutLint.Proofs.CommaBreaks
import LayoutLint.Proofs.TwoRuns

/-! Options say how far inserted lines are indented and nothing else. Two runs over a file under
different options, both able to build their indentation, find the same violations, and the texts
that their fixes put in differ in spaces and tabs alone. -/
namespace LayoutLint

namespace Text

def dense (t : Text) : Text :=
  t.filter fun c => c ≠ ' ' && c ≠ '\t'

@[simp] theorem dense_append (t u : Text) : (t ++ u).dense = t.dense ++ u.dense :=
  List.filter_append t u

@[simp] theorem dense_lineFeed (t : Text) : dense ('\n' :: t) = '\n' :: t.dense := rfl

@[simp] theorem dense_comma (t : Text) : dense (',' :: t) = ',' :: t.dense := rfl

@[simp] theorem dense_space (t : Text) : dense (' ' :: t) = t.dense := rfl

end Text

@[simp] theorem Options.dense_blanks (o : Options) (level : Nat) : (o.blanks level).dense = [] :=
  o.filter_blanks level (by decide) (by decide)

/-- The same characters replaced by texts that differ in spaces and tabs alone. -/
structure Fix.Alike (f g : Fix) : Prop where
  start : f.start = g.start
  width : f.width = g.width
  insert : f.insert.dense = g.insert.dense

structure Violation.Alike (v w : Violation) : Prop where
  cause : v.cause = w.cause
  node : v.node = w.node
  start : v.start = w.start
  fix : ∃ f ∈ v.fix, ∃ g ∈ w.fix, f.Alike g

theorem Violation.alike_mk {cause : Cause} {message message' : Text} {node : Node}
    {start : Position} {f g : Fix} {h : message ≠ []} {h' : message' ≠ []} (hfg : f.Alike g) :
    Alike ⟨cause, message, node, start, some f, h⟩ ⟨cause, message', node, start, some g, h'⟩ :=
  ⟨rfl, rfl, rfl, f, rfl, g, rfl, hfg⟩

theorem Node.alike_replace (n : Node) {t u : Text} (h : t.dense = u.dense) :
    (n.replace t).Alike (n.replace u) :=
  ⟨rfl, rfl, h⟩

theorem Keyword.alike_breakBefore (target : Node) {t u : Text} (h : t.dense = u.dense) :
    (breakBefore target t).Alike (breakBefore target u) :=
  ⟨rfl, rfl, congrArg ('\n' :: ·) h⟩

namespace Constructor

/-- Which commas are broken does not depend on the indentation. -/
theorem dense_breakCommas {indent : Text} (h : indent.dense = []) (t : Text) :
    (breakCommas indent t).dense = (breakCommas [] t).dense := by
  fun_induction breakCommas indent t with
  | case1 => rfl
  | case2 rest hnewline ih =>
    rw [breakCommas, if_pos hnewline]
    simp only [Text.dense_comma, Text.dense_space, ih]
  | case3 rest hother ih =>
    rw [breakCommas, if_neg hother]
    simp only [List.cons_append, Text.dense_comma, Text.dense_lineFeed, Text.dense_append, h, ih,
      List.nil_append]
  | case4 c rest hother ih =>
    have hkept : breakCommas [] (c :: rest) = c :: breakCommas [] rest := by
      rw [breakCommas]
      exact hother
    calc Text.dense (c :: breakCommas indent rest)
      _ = Text.dense [c] ++ (breakCommas indent rest).dense := Text.dense_append [c] _
      _ = Text.dense [c] ++ (breakCommas [] rest).dense := by rw [ih]
      _ = Text.dense (c :: breakCommas [] rest) := (Text.dense_append [c] _).symm
      _ = Text.dense (breakCommas [] (c :: rest)) := by rw [hkept]

theorem dense_rewritten (o : Options) (t : Text) (n signature : Node) :
    (rewritten o t n signature).dense =
      '\n' :: (breakCommas [] (signature.span.text t ++ ['\n'])).dense := by
  have hhead : ∀ level, ',' ∉ '\n' :: o.blanks level := by
    simpa using o.comma_notMem_blanks
  have hlast : ∀ indent level, breakCommas indent (o.blanks level) = o.blanks level :=
    fun _ level => breakCommas_of_not_mem (o.comma_notMem_blanks level)
  simp only [rewritten]
  -- The indentation has no comma, so that only the list between its two copies is rewritten.
  rw [List.append_assoc, breakCommas_append_of_not_mem (hhead _), breakCommas_append_lineFeed,
    hlast]
  simp only [Text.dense_append, Text.dense_lineFeed, Options.dense_blanks,
    dense_breakCommas (Options.dense_blanks _ _), List.append_nil, List.cons_append,
    List.nil_append]

theorem agree_inspect {o o' : Options} (ho : o.Usable) (ho' : o'.Usable) (t : Text) (n : Node) :
    Agree Violation.Alike (inspect o t n) (inspect o' t n) := by
  unfold inspect
  cases n.firstChild? .syntaxList with
  | none => exact .none
  | some signature =>
    -- A constructor past the end of the text fails before any indentation is built.
    rcases Nat.lt_or_ge t.length n.span.start with hout | hin
    · simp only [Node.startPosition_of_lt hout, bind, Except.bind]
      exact .failed _
    simp only [Node.startPosition_of_le hin, multiline_eq ho hin, multiline_eq ho' hin, bind,
      Except.bind]
    cases isCrowded t (t.positionAt n.span.start).line false (signature.childrenOf .parameter) with
    | error fault => exact .failed fault
    | ok crowded =>
      cases crowded with
      | false => exact .none
      | true =>
        rcases Nat.lt_or_ge t.length signature.span.start with hout | hin'
        · simp only [Node.startPosition_of_lt hout]
          exact .failed _
        · simp only [Node.startPosition_of_le hin']
          refine .one (Violation.alike_mk (signature.alike_replace ?_))
          simp only [dense_rewritten]

end Constructor

namespace Keyword

theorem agree_check {o o' : Options} (ho : o.Usable) (ho' : o'.Usable) (t : Text)
    (previous target : Node) :
    Agree Violation.Alike (check o t previous target) (check o' t previous target) := by
  unfold check Node.sharesLine
  cases previous.endPosition t with
  | error fault => exact .failed fault
  | ok stop =>
    rcases Nat.lt_or_ge t.length target.span.start with hout | hin
    · simp only [Node.startPosition_of_lt hout, bind, Except.bind]
      exact .failed _
    · simp only [Node.startPosition_of_le hin, Node.indentLevel_of_le hin,
        Options.indent_eq_blanks ho, Options.indent_eq_blanks ho', bind, Except.bind, pure,
        Except.pure]
      split
      · refine .one (Violation.alike_mk (alike_breakBefore target ?_))
        simp only [Options.dense_blanks]
      · exact .none

end Keyword

namespace Source

/-- Options that can build their indentation make no difference to what a run finds, nor to where
it fails. The texts that the fixes put in are the same but for spaces and tabs. -/
theorem inspect_alike (o o' : Options) (s : Source) (ho : o.Usable) (ho' : o'.Usable) :
    Agree Violation.Alike (s.inspect o).found (s.inspect o').found := by
  refine agree_inspect id (by simp) fun c n _ => ?_
  refine Construct.agree_inspect (Constructor.agree_inspect ho ho' s.text n) (fun d => ?_) c
  exact Agree.concat fun p _ => Keyword.agree_check ho ho' s.text p.1 p.2

def indentedFile : Source where
  name := "indented.ts".toList
  text := "  constructor(private a, b) {}".toList
  root := ⟨0, .sourceFile, .between 0 0 30, [
    ⟨1, .constructor, .between 0 2 30, [
      ⟨2, .syntaxList, .between 14 14 26, [
        ⟨3, .parameter, .between 14 14 23, [
          ⟨4, .syntaxList, .between 14 14 21, [⟨5, .privateKeyword, .between 14 14 21, []⟩]⟩]⟩,
        ⟨6, .parameter, .between 24 25 26, []⟩]⟩]⟩]⟩
  name_ne_nil := by decide
  root_le_length := by decide

theorem inspect_alike_indentedFile : Options.Usable {} ∧ Options.Usable { useTabs := true } ∧
    ∃ vs ws, (indentedFile.inspect {}).found = .ok vs ∧
      (indentedFile.inspect { useTabs := true }).found = .ok ws ∧ vs.length = 1 ∧
      List.Forall₂ Violation.Alike vs ws ∧ vs.filterMap (·.fix) ≠ ws.filterMap (·.fix) := by
  have hin : indentedFile.root.InText indentedFile.text := by decide
  have hspaces := found_inspect (o := {}) (by decide) hin
  have htabs := found_inspect (o := { useTabs := true }) (by decide) hin
  have halike := inspect_alike {} { useTabs := true } indentedFile (by decide) (by decide)
  rw [hspaces, htabs] at halike
  cases halike with
  | found h =>
    refine ⟨by decide, by decide, _, _, hspaces, htabs, ?_, h, ?_⟩
    · rw [violations, Node.constructs_eq]
      decide
    · rw [violations, violations, Node.constructs_eq]
      decide +kernel

end Source

end LayoutLint
