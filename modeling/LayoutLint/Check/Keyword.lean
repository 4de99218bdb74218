import LayoutLint.Check.Measure
import LayoutLint.Check.Inspection

/-! The keywords that continue a statement, else, catch and finally, start a line of their own
instead of following the closing brace of the block before them. -/
namespace LayoutLint.Keyword

def message : String :=
  "Control statements (else/catch/finally) should be on their own line."

theorem message_ne_nil : message.toList ≠ [] := by decide

/-- A brace and a blank stand before the keyword and are not indentation. -/
def offset : Nat := 2

/-- Puts a line break and the indentation in place of the one character before the keyword.
Without leading trivia nothing is removed. -/
def breakBefore (target : Node) (indent : Text) : Fix :=
  ⟨target.span.fullStart, min 1 target.span.triviaWidth, '\n' :: indent⟩

def check (o : Options) (t : Text) (previous target : Node) : Except Fault (List Violation) := do
  if ← previous.sharesLine target t then
    let level ← target.indentLevel o t offset
    let indent ← o.indent level
    let start ← target.startPosition t
    return [{
      cause := .ownLine
      message := message.toList
      node := target
      start
      fix := some (breakBefore target indent)
      message_ne_nil }]
  else return []

/-- The first child of that kind, against the nearest block or catch clause before it. -/
def inspectContinuation (o : Options) (t : Text) (statement : Node) (k : Kind) : Inspection :=
  match statement.reach? k with
  | none => .nothing
  | some (before, target) =>
    match Node.lastBody? before with
    | none => .note (.noBlockBefore k target.span.start)
    | some previous => .ofFound (check o t previous target)

def inspectTry (o : Options) (t : Text) (statement : Node) : Inspection :=
  inspectContinuation o t statement .catchClause ++
    inspectContinuation o t statement .finallyKeyword

/-- The else keyword against the child before it. A statement without a block is exempt. -/
def inspectIf (o : Options) (t : Text) (statement : Node) : Inspection :=
  match statement.reach? .elseKeyword with
  | none => .nothing
  | some (before, target) =>
    if statement.hasChild .block then
      match before.getLast? with
      | none => .note (.elseWithoutPredecessor target.span.start)
      | some previous => .ofFound (check o t previous target)
    else .nothing

end LayoutLint.Keyword
