import LayoutLint.Expression.Grammar.Listing

/-! The loops of a comprehension, and the expressions that are made by them. -/
namespace LayoutLint.Expression.Grammar

open Search

variable (call : Rule → Search Expression)

def starTargets : Search Unit :=
  deeper
    ((do let _ ← call .starTarget; notAhead (sign ",")) <|>
     (do
       let _ ← call .starTarget
       let _ ← many (deeper (do sign ","; call .starTarget))
       let _ ← optional (sign ",")))

def loopSource : Search Unit := do
  let _ ← call .disjunction
  let _ ← many (deeper (do keyword "if"; call .disjunction))

/-- A loop after its first words. Once its `in` has been found, it is a loop or nothing is. -/
def loopTail : Search (Option Unit) := do
  keyword "for"
  starTargets call
  keyword "in"
  optional (loopSource call)

mutual

/-- The first part of an expression that no value can be assigned to, where a loop assigns values to
the expression: its shape and the token it begins with. The `in` of the loop may have been read as a
comparison. -/
def badTarget? (src : Source) : Expression → Nat → Nat → Option (Shape × Nat)
  | .node .tuple parts, first, last =>
    let n := src.wrappings (last - first) first last
    badPart? src parts (first + n) (last - n)
  | .node .starred parts, first, last => badPart? src parts (first + 1) last
  | .node (.comparison operator) (left :: _), first, last =>
    if operator = "in" then
      let n := src.wrappings (last - first) first last
      badTarget? src left (first + n) (src.endOf (.keyword "in") (first + n) (last - n))
    else none
  | .node (.comparison _) [], _, _ => none
  | .node (.name _) _, _, _ => none
  | .node .member _, _, _ => none
  | .node shape _, first, last => some (shape, first + src.around shape first last)

def badPart? (src : Source) : List Expression → Nat → Nat → Option (Shape × Nat)
  | [], _, _ => none
  | e :: rest, first, last =>
    let stop := src.endOf (.sign ",") first last
    badTarget? src e first stop <|> badPart? src rest (stop + 1) last

end

def badLoopTarget : Search Unit :=
  deeper do
    let _ ← optional (keyword "async")
    keyword "for"
    let first ← mark
    let e ← starExpressions call
    match badTarget? (← source) e first (← mark) with
    | some (shape, start) => raiseAt start (.badTarget shape)
    | none => fail

def loop : Search Unit :=
  deeper
    (settle (do keyword "async"; loopTail call) fun _ =>
     settle (loopTail call) fun _ =>
     ifStrict (badLoopTarget call))

def loops : Search Unit :=
  deeper (do let _ ← many1 (loop call))

def badComprehension : Search Expression :=
  deeper
    ((do
       deeper (sign "(" <|> sign "\x7b")
       let start ← mark
       let _ ← spreadStar call
       loops call
       raiseAt start .starredComprehension) <|>
     (do
       deeper (sign "\x7b")
       let (_, start) ← placed (starNamed call)
       sign ","
       let _ ← starNamedList call
       loops call
       raiseAt start .bareTarget) <|>
     (do
       deeper (sign "\x7b")
       let (_, start) ← placed (starNamed call)
       sign ","
       loops call
       raiseAt start .bareTarget))

def generator : Search Expression :=
  deeper
    ((do
       sign "("
       let e ← deeper (assignment call <|> unnamed call)
       loops call
       sign ")"
       return .node .generator [e]) <|>
     ifStrict (badComprehension call))

def setComprehension : Search Expression :=
  deeper
    ((do
       sign "\x7b"
       let e ← named call
       loops call
       sign "\x7d"
       return .node .setComprehension [e]) <|>
     ifStrict (badComprehension call))

end LayoutLint.Expression.Grammar
