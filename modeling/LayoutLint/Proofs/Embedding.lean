import LayoutLint.Proofs.LineStarts
import LayoutLint.Proofs.Relocate
import LayoutLint.Proofs.TwoRuns

/-! A file in the middle of a larger one. When it begins and ends at the borders of lines, a run
over the larger file with the tree moved along finds what a run over the file itself finds, moved
along as well. -/
namespace LayoutLint

def Position.down (lines : Nat) (p : Position) : Position :=
  ⟨p.line + lines, p.character⟩

def Span.shift (k : Nat) (s : Span) : Span where
  fullStart := s.fullStart + k
  start := s.start + k
  stop := s.stop + k
  fullStart_le_start := Nat.add_le_add_right s.fullStart_le_start k
  start_le_stop := Nat.add_le_add_right s.start_le_stop k

def Fix.shift (k : Nat) (f : Fix) : Fix :=
  { f with start := f.start + k }

abbrev Node.shift (k : Nat) (n : Node) : Node :=
  n.mapSpans (.shift k)

def Violation.shift (lines k : Nat) (v : Violation) : Violation :=
  { v with node := v.node.shift k, start := v.start.down lines, fix := v.fix.map (.shift k) }

namespace Text

/-- A text that holds another one from offset `k` on, as lines of its own from line `lines` on. -/
structure Holds (u t : Text) (lines k : Nat) : Prop where
  length_le : t.length + k ≤ u.length
  positionAt_add : ∀ {i : Nat}, i ≤ t.length → u.positionAt (i + k) = (t.positionAt i).down lines
  slice_add : ∀ {i j : Nat}, j ≤ t.length → u.slice (i + k) (j + k) = t.slice i j

theorem holds_middle {p t q : Text} (hbegin : ∀ c ∈ p.getLast?, isLineBreak c)
    (hstart : ¬ (p ++ t ++ q).InsidePair p.length)
    (hstop : ¬ (p ++ t ++ q).InsidePair (p.length + t.length)) :
    (p ++ t ++ q).Holds t (p.lineStarts.length - 1) p.length where
  length_le := by
    simp only [List.length_append]
    omega
  positionAt_add hi := positionAt_middle hbegin hstart hstop hi
  slice_add {i j} hj := by
    have hwidth : j + p.length - (i + p.length) = j - i := by omega
    rw [slice, slice, hwidth, Nat.add_comm i, ← List.drop_drop, List.append_assoc,
      List.drop_left]
    -- Only an empty slice may start behind the end of `t`.
    rcases Nat.lt_or_ge j i with hji | hij
    · rw [Nat.sub_eq_zero_of_le hji.le, List.take_zero, List.take_zero]
    · rw [List.drop_append_of_le_length (hij.trans hj),
        List.take_append_of_le_length (by rw [List.length_drop]; omega)]

end Text

variable {u t : Text} {lines k : Nat} (hu : u.Holds t lines k)

include hu

namespace Node

theorem stop_shift_le {n : Node} (hn : n.span.stop ≤ t.length) :
    (n.shift k).span.stop ≤ u.length := by
  rw [span_mapSpans]
  exact (Nat.add_le_add_right hn k).trans hu.length_le

theorem startPosition_shift {n : Node} (hn : n.span.stop ≤ t.length) :
    (n.shift k).startPosition u = .ok ((t.positionAt n.span.start).down lines) := by
  rw [startPosition_eq (stop_shift_le hu hn), span_mapSpans]
  exact congrArg Except.ok (hu.positionAt_add (n.span.start_le_stop.trans hn))

theorem endPosition_shift {n : Node} (hn : n.span.stop ≤ t.length) :
    (n.shift k).endPosition u = .ok ((t.positionAt n.span.stop).down lines) := by
  rw [endPosition_eq (stop_shift_le hu hn), span_mapSpans]
  exact congrArg Except.ok (hu.positionAt_add hn)

theorem sharesLine_shift {n next : Node} (hn : n.span.stop ≤ t.length)
    (hnext : next.span.stop ≤ t.length) :
    (n.shift k).sharesLine (next.shift k) u = n.sharesLine next t := by
  rw [sharesLine, sharesLine, endPosition_shift hu hn, startPosition_shift hu hnext,
    endPosition_eq hn, startPosition_eq hnext]
  simp only [bind, Except.bind, Position.down, Nat.add_right_cancel_iff]

theorem indentLevel_shift {n : Node} (hn : n.span.stop ≤ t.length) (o : Options)
    (discount : Nat) : (n.shift k).indentLevel o u discount = n.indentLevel o t discount := by
  rw [indentLevel, indentLevel, startPosition_shift hu hn, startPosition_eq hn]
  rfl

end Node

namespace Keyword

omit hu in
theorem breakBefore_shift (target : Node) (indent : Text) :
    breakBefore (target.shift k) indent = (breakBefore target indent).shift k := by
  have hwidth : target.span.start + k - (target.span.fullStart + k) =
      target.span.start - target.span.fullStart := by omega
  rw [breakBefore, Node.shift, Node.span_mapSpans]
  simp only [Span.triviaWidth, Span.shift, hwidth]
  rfl

theorem agree_check_shift {previous target : Node} (hprevious : previous.span.stop ≤ t.length)
    (htarget : target.span.stop ≤ t.length) (o : Options) :
    Agree (fun v w => w = v.shift lines k) (check o t previous target)
      (check o u (previous.shift k) (target.shift k)) := by
  unfold check
  rw [Node.sharesLine_shift hu hprevious htarget, Node.indentLevel_shift hu htarget,
    Node.startPosition_shift hu htarget, Node.startPosition_eq htarget]
  cases previous.sharesLine target t with
  | error fault => exact .failed fault
  | ok shares =>
    cases shares with
    | false => exact .none
    | true =>
      cases target.indentLevel o t offset with
      | error fault => exact .failed fault
      | ok level =>
        cases hindent : o.indent level with
        | error fault =>
          simp only [bind, Except.bind, if_true, hindent]
          exact .failed fault
        | ok indent =>
          simp only [bind, Except.bind, if_true, hindent, breakBefore_shift]
          exact .one rfl

end Keyword

namespace Constructor

theorem isCrowded_shift {ps : List Node} (hps : ∀ p ∈ ps, p.span.stop ≤ t.length) (line : Nat)
    (seen : Bool) :
    isCrowded u (line + lines) seen (ps.map (.shift k)) = isCrowded t line seen ps := by
  induction ps generalizing line seen with
  | nil => rfl
  | cons p rest ih =>
    have hp := hps p List.mem_cons_self
    have hrest := fun line seen => ih (fun q hq => hps q (List.mem_cons_of_mem p hq)) line seen
    rw [List.map_cons, isCrowded, isCrowded, Node.startPosition_shift hu hp,
      Node.startPosition_eq hp]
    simp only [bind, Except.bind, Position.down, Nat.add_right_cancel_iff, hrest,
      Node.isProperty_mapSpans]

theorem multiline_shift {n signature : Node} (hn : n.span.stop ≤ t.length)
    (hsignature : signature.span.stop ≤ t.length) (o : Options) :
    multiline o u (n.shift k) (signature.shift k) = multiline o t n signature := by
  have htext : (signature.shift k).span.text u = signature.span.text t := by
    rw [Node.shift, Node.span_mapSpans]
    exact hu.slice_add hsignature
  rw [multiline, multiline, Node.indentLevel_shift hu hn, htext]

omit hu in
theorem replace_shift (n : Node) (insert : Text) :
    (n.shift k).replace insert = (n.replace insert).shift k := by
  have hwidth : n.span.stop + k - (n.span.start + k) = n.span.stop - n.span.start := by omega
  rw [Node.replace, Node.shift, Node.span_mapSpans]
  simp only [Span.width, Span.shift, hwidth]
  rfl

theorem agree_inspect_shift {n : Node} (hn : n.InText t) (o : Options) :
    Agree (fun v w => w = v.shift lines k) (inspect o t n) (inspect o u (n.shift k)) := by
  unfold inspect
  rw [Node.firstChild?_mapSpans]
  cases hsignature : n.firstChild? .syntaxList with
  | none => exact .none
  | some signature =>
    have hlist := hn.child (Node.mem_children_of_firstChild? hsignature)
    have hparameters : ∀ p ∈ signature.childrenOf .parameter, p.span.stop ≤ t.length :=
      fun p hp => (hlist.child (Node.mem_children_of_mem_childrenOf hp)).stop_le
    have hcrowded := isCrowded_shift hu hparameters (t.positionAt n.span.start).line false
    have hmultiline := multiline_shift hu hn.stop_le hlist.stop_le o
    simp only [Option.map_some, Node.childrenOf_mapSpans, Node.startPosition_shift hu hn.stop_le,
      Node.startPosition_eq hn.stop_le, Node.startPosition_shift hu hlist.stop_le,
      Node.startPosition_eq hlist.stop_le, bind, Except.bind, Position.down, hcrowded, hmultiline]
    cases isCrowded t (t.positionAt n.span.start).line false (signature.childrenOf .parameter) with
    | error fault => exact .failed fault
    | ok crowded =>
      cases crowded with
      | false => exact .none
      | true =>
        cases multiline o t n signature with
        | error fault => exact .failed fault
        | ok text =>
          simp only [if_true, replace_shift]
          exact .one rfl

end Constructor

omit hu

namespace Source

def embed (p q : Text) (s : Source) : Source where
  name := s.name
  text := p ++ s.text ++ q
  root := s.root.shift p.length
  name_ne_nil := s.name_ne_nil
  root_le_length := by
    have hroot := s.root_le_length
    rw [Node.span_mapSpans]
    simp only [Span.shift, List.length_append]
    omega

/-- A run over a file in the middle of a larger one finds what a run over the file finds, moved
along, and fails where that one fails. The file begins a line, and neither of its borders parts a
carriage return from the line feed behind it. -/
theorem inspect_embed (o : Options) (s : Source) (p q : Text) (hs : s.root.InText s.text)
    (hbegin : ∀ c ∈ p.getLast?, isLineBreak c)
    (hstart : ¬ (p ++ s.text ++ q).InsidePair p.length)
    (hstop : ¬ (p ++ s.text ++ q).InsidePair (p.length + s.text.length)) :
    ((s.embed p q).inspect o).found =
      (s.inspect o).found.map (List.map (.shift (p.lineStarts.length - 1) p.length)) := by
  have hu := Text.holds_middle hbegin hstart hstop
  refine Agree.eq_map (agree_inspect (.shift p.length) ?_ fun c n hn => ?_)
  · exact Node.constructs_mapSpans _ s.root
  · have hin := hs.of_mem hn
    refine Construct.agree_inspect (Constructor.agree_inspect_shift hu hin o) (fun d => ?_) c
    -- Pairs correspond one to one, so that it is enough to compare the check of each pair.
    rw [Keyword.checks, Keyword.checks, Keyword.pairs_mapSpans, List.map_map]
    refine Agree.concat ?_
    rintro ⟨previous, target⟩ hpair
    obtain ⟨hprevious, htarget⟩ := Keyword.mem_children_of_mem_pairs hpair
    exact Keyword.agree_check_shift hu (hin.child hprevious).stop_le (hin.child htarget).stop_le o

def caughtClause : Node :=
  ⟨3, .catchClause, .between 7 8 16, []⟩

def caughtFile : Source where
  name := "caught.ts".toList
  text := "\ntry {} catch {}\r".toList
  root := ⟨0, .sourceFile, .between 0 1 17, [
    ⟨1, .tryStatement, .between 0 1 16, [⟨2, .block, .between 4 5 7, []⟩, caughtClause]⟩]⟩
  name_ne_nil := by decide
  root_le_length := by decide

theorem inspect_embed_caughtFile : caughtFile.root.InText caughtFile.text ∧
    (∀ c ∈ "// a\r\n".toList.getLast?, isLineBreak c) ∧
    ¬ Text.InsidePair ("// a\r\n".toList ++ caughtFile.text ++ ['\r', '\n']) 6 ∧
    ¬ Text.InsidePair ("// a\r\n".toList ++ caughtFile.text ++ ['\r', '\n']) (6 + 17) ∧
    ∃ v, (caughtFile.inspect {}).found = .ok [v] ∧ v.start = ⟨1, 7⟩ ∧
      ((caughtFile.embed "// a\r\n".toList ['\r', '\n']).inspect {}).found =
        .ok [v.shift 1 6] := by
  have hin : caughtFile.root.InText caughtFile.text := by decide
  have hviolations : caughtFile.violations {} =
      [Keyword.violation {} caughtFile.text caughtClause] := by
    rw [violations, Node.constructs_eq]
    rfl
  have hfound := found_inspect (o := {}) (by decide) hin
  have hbegin : ∀ c ∈ "// a\r\n".toList.getLast?, isLineBreak c := by
    rintro c ⟨⟩
    rfl
  have hembed := inspect_embed {} caughtFile "// a\r\n".toList ['\r', '\n'] hin hbegin
    (by decide) (by decide)
  rw [hviolations] at hfound
  rw [hfound] at hembed
  exact ⟨hin, hbegin, by decide, by decide, _, hfound, by decide, hembed⟩

end Source

end LayoutLint
