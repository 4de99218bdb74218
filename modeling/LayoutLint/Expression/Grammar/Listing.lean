import LayoutLint.Expression.Search

/-! Expressions with names, stars and commas. Every rule is given the rules that remember what they
find. -/
namespace LayoutLint.Expression.Grammar

open Search

variable (call : Rule → Search Expression)

def oneSign (signs : List String) : Search String :=
  take fun | .sign t => if signs.contains t then some t else none | _ => none

def oneKeyword (words : List String) : Search String :=
  take fun | .keyword w => if words.contains w then some w else none | _ => none

def assignment : Search Expression :=
  deeper do
    let word ← name
    sign ":="
    let value ← call .expression
    return .node .named [leaf (.name word), value]

def unnamed : Search Expression := do
  let e ← call .expression
  notAhead (sign ":=")
  return e

def named : Search Expression :=
  deeper (assignment call <|> ifStrict (call .misnamed) <|> unnamed call)

def starNamed : Search Expression :=
  deeper ((do sign "*"; return .node .starred [← call .bitOr]) <|> named call)

def starNamedList : Search (List Expression) :=
  deeper do
    let items ← listed (starNamed call)
    let _ ← optional (sign ",")
    return items

def tupled (item : Search Expression) : Search Expression :=
  deeper do
    let first ← item
    let more ← optional (many1 (deeper (do sign ","; item)))
    let comma ← optional (sign ",")
    return if more.isNone && comma.isNone then first else .node .tuple (first :: more.getD [])

def expressions : Search Expression := tupled (call .expression)

def starExpressions : Search Expression := tupled (call .starExpression)

def spreadStar : Search Expression :=
  deeper (do sign "*"; return .node .starred [← call .expression])

def yielded : Search Expression :=
  deeper
    ((do keyword "yield"; keyword "from"; return .node .yielded [← call .expression]) <|>
     (do keyword "yield"; return .node .yielded (← optional (starExpressions call)).toList))

def isStatementName (e : Expression) : Bool :=
  e.word?.any fun w => w = "print".toList || w = "exec".toList

end LayoutLint.Expression.Grammar
