import LayoutLint.Expression.Grammar.Rules

/-! Reading a text as an expression. A text that is none is searched a second time, strictly, for a
reason that says more than that. -/
namespace LayoutLint.Expression

namespace Source

def lastLine (src : Source) (seen : Nat) : Nat :=
  ((src.tokens[seen - 1]?).map (·.start.line)).getD 0

/-- A slip gives way to a token that is wrong further on, and to a bracket of an earlier line that
is never closed. -/
def settled (src : Source) (slip : Slip) (seen : Nat) : Refusal :=
  match src.ending with
  | .wrong later => .slip later
  | .stopped _ (some (opener, line)) =>
    .slip (if line < src.lastLine seen then src.worded (.unclosed opener) else slip)
  | _ => .slip slip

/-- A slip that has been raised stands once the end of the text has been noticed. -/
def settledRaised (src : Source) (slip : Slip) (seen : Nat) : Refusal :=
  if src.touched && seen = src.tokens.size then .slip slip else src.settled slip seen

/-- Why neither search found anything, by the tokens that each of them had looked at. -/
def unexplained (src : Source) (first second : Nat) : Refusal :=
  match src.tokens[first - 1]? with
  | some ⟨.indent, _, _, _⟩ => .slip .indented
  | _ =>
    match src.ending, src.explainedAt .malformed (first - 1) with
    | .wrong later, _ => .slip later
    | _, .ok slip => src.settled slip second
    | _, .error trouble => .trouble trouble

def read (src : Source) (search : Search Expression) : Except Refusal Expression :=
  match search src Grammar.levelLimit {} with
  | .found e _ => .ok e
  | .halted refusal => .error refusal
  | .raised slip seen => .error (src.settledRaised slip seen)
  | .missing s =>
    match search src Grammar.levelLimit { seen := s.seen, strict := true } with
    | .halted refusal => .error refusal
    | .raised slip seen => .error (src.settledRaised slip seen)
    | .found _ t => .error (src.unexplained s.seen t.seen)
    | .missing t => .error (src.unexplained s.seen t.seen)

end Source

/-- Checks an expression behind a brace at a place. It is read in parentheses, and may be no more
than `depth` strings deep. -/
def checkPart : Nat → Place → Text → Except Refusal Unit
  | 0, _, _ => .error (.trouble .tooComplex)
  | depth + 1, origin, t =>
    let src : Source :=
      { scan origin.line ('(' :: t ++ [')', '\n']) with origin, nested := checkPart depth }
    (src.read Grammar.part).map fun _ => ()

/-- The expression that a text writes. Strings in strings are shorter than the text. -/
def ofText (t : Text) : Except Refusal Expression :=
  if t.contains '\x00' then .error (.trouble .nullCharacter)
  else
    let t := withLineFeeds t
    ({ scan 1 t with nested := checkPart t.length } : Source).read Grammar.text

end LayoutLint.Expression
