import LayoutLint.Expression.Grammar.Atom
import LayoutLint.Expression.Grammar.Parameter

/-! The rules that remember what they find, from a whole expression to a name. -/
namespace LayoutLint.Expression.Grammar

open Search

variable (call : Rule → Search Expression)

def conditional : Search Expression :=
  (do
    let first ← call .disjunction
    let rest ← optional (do
      keyword "if"
      let condition ← call .disjunction
      keyword "else"
      return [condition, ← call .expression])
    return match rest with
      | some parts => .node .condition (first :: parts)
      | none => first) <|>
  function call

def softKeyword : Search Unit := do
  let word ← name
  if ["_", "case", "match"].any (word.isPrefixOf ·.toList) then return () else fail

/-- Two expressions side by side inside brackets, unless the first one may begin a statement. -/
def besides : Search (Option Expression) := do
  notAhead (deeper ((do let _ ← name; let _ ← stringToken) <|> softKeyword))
  let (first, start) ← placed (call .disjunction)
  let _ ← deeper (leniently (conditional call))
  if isStatementName first || (← openBrackets) = 0 then return none
  else raiseAt start .commaMissing

def badExpression : Search Expression :=
  deeper
    (settle (besides call) fun _ => do
      let (_, start) ← placed (call .disjunction)
      keyword "if"
      let _ ← call .disjunction
      notAhead (deeper (keyword "else" <|> sign ":"))
      raiseAt start .elseMissing)

def badStatement : Search Expression :=
  deeper do
    let start ← mark
    let word := (← name).map plainLetter
    notAhead (sign "(")
    let _ ← starExpressions call
    if isStatementName (leaf (.name word)) then raiseAt start (.callMissing word) else fail

def expression : Search Expression :=
  ifStrict (badExpression call) <|> ifStrict (badStatement call) <|> conditional call

def notAssigned : Search Unit :=
  notAhead (deeper (sign "=" <|> sign ":="))

def misnamed : Search Expression :=
  (do
    let (e, start) ← placed (call .expression)
    sign ":="
    let _ ← call .expression
    raiseAt start (.shapeNamed e.shape)) <|>
  (do
    let start ← mark
    let _ ← name
    sign "="
    let _ ← call .bitOr
    notAssigned
    raiseAt start .nameAssigned) <|>
  (do
    notAhead (deeper
      ((do let _ ← tuple call) <|> (do let _ ← generator call) <|>
       (do let _ ← oneKeyword ["True", "None", "False"])))
    let (e, start) ← placed (call .bitOr)
    sign "="
    let _ ← call .bitOr
    notAssigned
    raiseAt start (.shapeAssigned e.shape))

def starExpression : Search Expression :=
  (do sign "*"; return .node .starred [← call .bitOr]) <|> call .expression

def joined (word : String) (operand : Rule) : Search Expression := do
  let first ← call operand
  let more ← optional (many1 (deeper (do keyword word; call operand)))
  return match more with
    | some more => .node .choice (first :: more)
    | none => first

def comparisonOperator : Search String :=
  oneSign ["==", "!=", "<=", "<", ">=", ">"] <|>
  (do keyword "not"; keyword "in"; return "not in") <|>
  (do keyword "in"; return "in") <|>
  (do keyword "is"; keyword "not"; return "is not") <|>
  (do keyword "is"; return "is")

def comparison : Search Expression :=
  deeper do
    let first ← call .bitOr
    let more ← optional (many1 (deeper (deeper do
      let operator ← comparisonOperator
      return (operator, ← call .bitOr))))
    return match more with
      | some ((operator, second) :: more) =>
        .node (.comparison operator) (first :: second :: more.map (·.2))
      | _ => first

def inversion : Search Expression :=
  (do keyword "not"; return .node (.sign "not") [← call .inversion]) <|> comparison call

def operation (self operand : Rule) (operators : List String) : Search Expression := do
  match ← optional (call self) with
  | none => call operand
  | some left =>
    let operator ← oneSign operators
    return .node (.operation operator) [left, ← call operand]

def power : Search Expression :=
  deeper do
    let base ← call .awaited
    match ← optional (do sign "**"; call .factor) with
    | some exponent => return .node (.operation "**") [base, exponent]
    | none => return base

def factor : Search Expression := do
  match ← optional (oneSign ["+", "-", "~"]) with
  | some operator => return .node (.sign operator) [← call .factor]
  | none => power call

def awaited : Search Expression :=
  (do keyword "await"; return .node .awaited [← call .primary]) <|> call .primary

def called (e : Expression) : Search Expression := do
  sign "("
  let args ← optional (call .arguments)
  sign ")"
  return match args with
    | some (.node _ args) => .node .call (e :: args)
    | none => .node .call [e]

def calledOnGenerator (e : Expression) : Search Expression := do
  return .node .call [e, ← generator call]

def member (e : Expression) : Search Expression := do
  sign "."
  let _ ← name
  return .node .member [e]

def primary : Search Expression := do
  match ← optional (call .primary) with
  | none => atom call
  | some e => member e <|> calledOnGenerator call e <|> called call e

def goesOn : Search Unit := deeper (sign "(" <|> sign ".")

def targetBase : Search Expression := do
  match ← optional (call .targetBase) with
  | none => (do let e ← atom call; ahead goesOn; return e)
  | some e =>
    (do let e ← member e; ahead goesOn; return e) <|>
    (do let e ← calledOnGenerator call e; ahead goesOn; return e) <|>
    (do let e ← called call e; ahead goesOn; return e)

def targetTuple : Search Unit :=
  deeper
    ((do
       let _ ← call .starTarget
       let _ ← many1 (deeper (do sign ","; call .starTarget))
       let _ ← optional (sign ",")) <|>
     (do let _ ← call .starTarget; sign ","))

def starAtom : Search Expression :=
  deeper
    ((do return leaf (.name (← name))) <|>
     (do sign "("; let e ← call .memberTarget; sign ")"; return e) <|>
     (do sign "("; let _ ← optional (targetTuple call); sign ")"; return leaf .tuple))

def memberTarget : Search Expression :=
  (do
    let e ← call .targetBase
    let e ← member e
    notAhead goesOn
    return e) <|>
  starAtom call

def starTarget : Search Expression :=
  (do
    sign "*"
    let e ← deeper (do notAhead (sign "*"); call .starTarget)
    return .node .starred [e]) <|>
  call .memberTarget

/-- What a rule looks for, given the rules that it uses. -/
def body : Rule → Search Expression
  | .expression => expression call
  | .starExpression => starExpression call
  | .disjunction => joined call "or" .conjunction
  | .conjunction => joined call "and" .inversion
  | .inversion => inversion call
  | .bitOr => operation call .bitOr .bitXor ["|"]
  | .bitXor => operation call .bitXor .bitAnd ["^"]
  | .bitAnd => operation call .bitAnd .shift ["&"]
  | .shift => operation call .shift .sum ["<<", ">>"]
  | .sum => operation call .sum .term ["+", "-"]
  | .term => operation call .term .factor ["*", "/", "//", "%", "@"]
  | .factor => factor call
  | .awaited => awaited call
  | .primary => primary call
  | .strings => strings
  | .arguments => arguments call
  | .starTarget => starTarget call
  | .memberTarget => memberTarget call
  | .targetBase => targetBase call
  | .misnamed => misnamed call

def levelLimit : Nat := 6000

/-- A rule with as many levels of rules below it as the first argument says. -/
def rule : Nat → Rule → Source → Nat → State → Outcome Expression
  | 0, _, _, _, _ => .halted (.trouble .tooComplex)
  | n + 1, r, src, room, s =>
    if r.growsLeft then deeper (grown r (deeper (body (rule n) r))) src room s
    else deeper (remembered r (body (rule n) r)) src room s

def text : Search Expression :=
  deeper do
    let e ← expressions (rule levelLimit)
    let _ ← many (take fun | .lineEnd => some () | _ => none)
    take fun | .finish => some e | _ => none

def part : Search Expression :=
  deeper (starExpressions (rule levelLimit))

end LayoutLint.Expression.Grammar
