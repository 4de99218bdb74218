import LayoutLint.Expression.Grammar.Loop

/-! The arguments of a call. -/
namespace LayoutLint.Expression.Grammar

open Search

variable (call : Rule → Search Expression)

def assignedGenerator : Search Expression := do
  let start ← mark
  let _ ← name
  sign "="
  let _ ← call .expression
  loops call
  raiseAt start .nameAssigned

def badNamedArgument : Search Expression :=
  deeper
    ((do
       let start ← mark
       let word ← deeper (oneKeyword ["True", "False", "None"])
       sign "="
       raiseAt start (.constantArgument word)) <|>
     assignedGenerator call <|>
     (do
       notAhead (deeper (do let _ ← name; sign "="))
       let (_, start) ← placed (call .expression)
       sign "="
       raiseAt start .assignmentArgument))

def namedArgument : Search Expression := do
  let _ ← name
  sign "="
  return .node .argument [← call .expression]

def namedOrStarred : Search Expression :=
  deeper (ifStrict (badNamedArgument call) <|> namedArgument call <|> spreadStar call)

def namedOrSpread : Search Expression :=
  deeper
    (ifStrict (badNamedArgument call) <|> namedArgument call <|>
     (do sign "**"; return .node .spread [← call .expression]))

abbrev Arguments := List (Expression × Nat)

def namedArguments : Search Arguments :=
  deeper
    ((do
       let first ← listed (placed (namedOrStarred call))
       sign ","
       return first ++ (← listed (placed (namedOrSpread call)))) <|>
     listed (placed (namedOrStarred call)) <|>
     listed (placed (namedOrSpread call)))

def positional : Search Expression :=
  deeper
    (spreadStar call <|>
     (do
       let e ← deeper (assignment call <|> unnamed call)
       notAhead (sign "=")
       return e))

def argumentList : Search Arguments :=
  deeper
    ((do
       let first ← listed (placed (positional call))
       let more ← optional (deeper (do sign ","; namedArguments call))
       return first ++ more.getD []) <|>
     namedArguments call)

def isPositional (e : Expression) : Bool :=
  !(e.shape matches .argument | .spread)

def isSpread (e : Expression) : Bool :=
  e.shape matches .spread

def badArguments : Search Expression :=
  deeper
    ((do
       let start ← mark
       let _ ← argumentList call
       sign ","
       sign "*"
       raiseAt start .starBehindSpread) <|>
     (do
       let (_, start) ← placed (call .expression)
       loops call
       sign ","
       let _ ← optional
         (deeper ((do let _ ← argumentList call) <|> (do let _ ← call .expression; loops call)))
       raiseAt start .bareGenerator) <|>
     assignedGenerator call <|>
     settle
       (do
         let args ← argumentList call
         loops call
         match (args.filter fun (e, _) => isPositional e).reverse with
         | (_, start) :: _ :: _ => raiseAt start .bareGenerator
         | _ => return none)
       fun _ =>
         (do
           let _ ← argumentList call
           sign ","
           let (_, start) ← placed (call .expression)
           loops call
           raiseAt start .bareGenerator) <|>
         (do
           let args ← argumentList call
           sign ","
           let _ ← argumentList call
           raise (if args.any fun (e, _) => isSpread e then .positionalBehindSpread
             else .positionalBehindNamed)))

/-- The arguments up to the closing bracket, as a call without what is called. -/
def arguments : Search Expression :=
  (do
    let args ← argumentList call
    let _ ← optional (sign ",")
    ahead (sign ")")
    return .node .call (args.map (·.1))) <|>
  ifStrict (badArguments call)

end LayoutLint.Expression.Grammar
