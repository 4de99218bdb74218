import LayoutLint.Expression.Slip
import LayoutLint.Fix.Basic
import LayoutLint.Tree.Kind

/-! What can go wrong, as causes. The words of each stand in `Fault.phrase`, and bounds on what is
written can be in their way when an error is raised. Refusals of arguments and of fixes are raised
where they come up, all others where a command is answered. -/
namespace LayoutLint

inductive Quantity where
  | fullStart
  | line
  | character
  | indentSize
  | level
  | startOffset
  | removeWidth
  | maxViolations
  | width
deriving DecidableEq

namespace Quantity

def name : Quantity → String
  | .fullStart => "full_start"
  | .line => "line"
  | .character => "character"
  | .indentSize => "indent_size"
  | .level => "level"
  | .startOffset => "start_offset"
  | .removeWidth => "remove_width"
  | .maxViolations => "max_violations"
  | .width => "width"

def least : Quantity → Nat
  | .indentSize => 1
  | .width => 20
  | _ => 0

end Quantity

inductive Objection where
  | unknownWord
  | negativeSize
  | wrongType
  | stated (reason : Text)

def Objection.reason : Objection → Text
  | .unknownWord => "unknown option, expected 'tabs'".toList
  | .negativeSize => "indent size must be >= 0".toList
  | .wrongType => "expected 'tabs' or an indent size".toList
  | .stated reason => reason

inductive Obstacle where
  | pastEnd (length : Nat)
  | overlaps (previous : Fix)
  | stated (reason : Text)

def Obstacle.phrase : Obstacle → Phrase
  | .pastEnd length =>
    [.words "span ends past end of text (".toList, .number length, .words [')']]
  | .overlaps previous => .words "overlaps ".toList :: previous.phrase
  | .stated reason => [.words reason]

inductive Fault where
  | belowLeast (quantity : Quantity) (got : Int)
  | startBeforeFullStart (start fullStart : Int)
  | endBeforeStart (stop start : Int)
  | unknownKind (name : Text)
  | unknownViolationKind (name : Text)
  | notAChild (child parent : Kind)
  | offsetOutside (offset : Int) (length : Nat)
  | rootPastEnd (stop length : Nat)
  | emptyFileName
  | emptyMessage
  | countTooLarge
  | repeatedTooLong
  | levelTooLarge
  | badArgument (argument : Json) (objection : Objection)
  | badFix (fix : Fix) (obstacle : Obstacle)
  | argumentReasonMissing
  | fixReasonMissing
  | fixMissing
  | unmatchedClosingTag (tag : Text) (offset : Nat)
  | nothingToClose (offset : Nat)
  | digitsMissing
  | badParameter (parameter read : Text) (slip : Expression.Slip)
  | noLiteral (parameter : Text) (trouble : Expression.Trouble)
  | unwritable (excess : Excess)

namespace Fault

def phrase : Fault → Phrase
  | .belowLeast q got =>
    [.words (q.name.toList ++ " must be >= ".toList), .number q.least, .words ", got ".toList,
      .number got]
  | .startBeforeFullStart start fullStart =>
    [.words "start (".toList, .number start, .words ") must be >= full_start (".toList,
      .number fullStart, .words [')']]
  | .endBeforeStart stop start =>
    [.words "end (".toList, .number stop, .words ") must be >= start (".toList, .number start,
      .words [')']]
  | .unknownKind name => [.words name.quoted]
  | .unknownViolationKind name =>
    [.words (name.quoted ++ " is not a valid ViolationKind".toList)]
  | .notAChild child parent =>
    [.words (child.text ++ " node is not a child of ".toList ++ parent.text ++ " node".toList)]
  | .offsetOutside offset length =>
    [.words "offset ".toList, .number offset, .words " outside text of length ".toList,
      .number length]
  | .rootPastEnd stop length =>
    [.words "root ends at ".toList, .number stop, .words ", past end of text (".toList,
      .number length, .words [')']]
  | .emptyFileName => [.words "file_name must not be empty".toList]
  | .emptyMessage => [.words "message must not be empty".toList]
  | .countTooLarge => [.words "cannot fit 'int' into an index-sized integer".toList]
  | .repeatedTooLong => [.words "repeated string is too long".toList]
  | .levelTooLarge => [.words "integer division result too large for a float".toList]
  | .badArgument argument objection =>
    [.words "Invalid rule argument ".toList, .quoted argument,
      .words (": ".toList ++ objection.reason)]
  | .badFix fix obstacle =>
    .words "Cannot apply ".toList :: fix.phrase ++ .words ": ".toList :: obstacle.phrase
  | .argumentReasonMissing => [.words "reason must not be empty".toList]
  | .fixReasonMissing => [.words "reason must be non-empty string".toList]
  | .fixMissing => [.words "fix must not be None".toList]
  | .unmatchedClosingTag tag offset =>
    [.words ("closing tag '[".toList ++ tag ++ "]' at position ".toList), .number offset,
      .words " doesn't match any open tag".toList]
  | .nothingToClose offset =>
    [.words "closing tag '[/]' at position ".toList, .number offset,
      .words " has nothing to close".toList]
  | .digitsMissing => [.words "invalid literal for int() with base 10: ''".toList]
  | .badParameter parameter read slip =>
    [.words ("error parsing ".toList ++ read.quoted ++ " in ".toList ++ parameter.quoted ++
      "; ".toList ++ slip.message)]
  | .noLiteral parameter trouble =>
    [.words ("error parsing ".toList ++ parameter.quoted ++ "; ".toList ++ trouble.message)]
  | .unwritable excess => [.words excess.message]

def message (f : Fault) : Text :=
  f.phrase.text

/-- The error that is met when this one is raised. An error has its words from the start, so that
one whose words cannot be written gives way to the error of writing them. -/
def raised (limits : Limits) (f : Fault) : Fault :=
  match f.phrase.excess? limits with
  | none => f
  | some excess => .unwritable excess

theorem raised_of_writable {limits : Limits} {f : Fault} (h : f.phrase.Writable limits) :
    f.raised limits = f := by
  rw [raised, show f.phrase.excess? limits = none from h]

theorem raised_of_excess {limits : Limits} {f : Fault} {excess : Excess}
    (h : f.phrase.excess? limits = some excess) : f.raised limits = .unwritable excess := by
  rw [raised, h]

end Fault

def Excess.refuse : Option Excess → Except Fault Unit
  | none => .ok ()
  | some excess => .error (.unwritable excess)

namespace Phrase

def check (limits : Limits) (p : Phrase) : Except Fault Unit :=
  Excess.refuse (p.excess? limits)

def write (limits : Limits) (p : Phrase) : Except Fault Text := do
  p.check limits
  return p.text

theorem check_of_writable {limits : Limits} {p : Phrase} (h : p.Writable limits) :
    p.check limits = .ok () := by
  rw [check, show p.excess? limits = none from h, Excess.refuse]

theorem check_of_excess {limits : Limits} {p : Phrase} {excess : Excess}
    (h : p.excess? limits = some excess) : p.check limits = .error (.unwritable excess) := by
  rw [check, h, Excess.refuse]

end Phrase

namespace Fault

def build (limits : Limits) (f : Fault) : Except Fault Fault := do
  f.phrase.check limits
  return f

def ofArgument (limits : Limits) (argument : Json) (reason : Text) : Except Fault Fault :=
  if reason = [] then .error .argumentReasonMissing
  else build limits (.badArgument argument (.stated reason))

/-- A refusal of a fix in words of the caller's own. A missing fix is noticed before a missing
reason. -/
def ofFix (limits : Limits) (fix : Option Fix) (reason : Text) : Except Fault Fault :=
  match fix with
  | none => .error .fixMissing
  | some fix =>
    if reason = [] then .error .fixReasonMissing
    else build limits (.badFix fix (.stated reason))

end Fault

def Quantity.check (q : Quantity) (got : Int) : Except Fault Nat :=
  if got < q.least then .error (.belowLeast q got) else .ok got.toNat

def countLimit : Nat := Nat.pow 2 63

/-- How often a text is repeated `n` times. A number below zero means never, but it has to fit in
64 bits with its sign like any other. -/
def repetitions (n : Int) : Except Fault Nat :=
  if -(countLimit : Int) ≤ n && n < countLimit then .ok n.toNat else .error .countTooLarge

theorem Quantity.check_eq_ok_iff {q : Quantity} {got : Int} {n : Nat} :
    q.check got = .ok n ↔ got = n ∧ q.least ≤ n := by
  unfold Quantity.check
  split
  · simp only [reduceCtorEq, false_iff, not_and]
    omega
  · simp only [Except.ok.injEq]
    omega

end LayoutLint
