import LayoutLint.Expression.Grammar.Argument

/-! Names, constants, strings and what stands in brackets. -/
namespace LayoutLint.Expression.Grammar

open Search

variable (call : Rule → Search Expression)

def tuple : Search Expression :=
  deeper do
    sign "("
    let items ← optional (deeper do
      let first ← starNamed call
      sign ","
      return first :: (← optional (starNamedList call)).getD [])
    sign ")"
    return .node .tuple (items.getD [])

def badGroup : Search Expression :=
  deeper
    ((do
       sign "("
       let start ← mark
       let _ ← spreadStar call
       sign ")"
       raiseAt start .starred) <|>
     (do
       sign "("
       let start ← mark
       sign "**"
       let _ ← call .expression
       sign ")"
       raiseAt start .doubleStarred))

def group : Search Expression :=
  deeper
    ((do
       sign "("
       let e ← deeper (yielded call <|> named call)
       sign ")"
       return e) <|>
     ifStrict (badGroup call))

def set : Search Expression :=
  deeper do
    sign "\x7b"
    let items ← starNamedList call
    sign "\x7d"
    return .node .set items

def pair : Search (List Expression) :=
  deeper do
    let key ← call .expression
    sign ":"
    return [key, ← call .expression]

def entry : Search (List Expression) :=
  deeper ((do sign "**"; return [leaf .keyless, ← call .bitOr]) <|> pair call)

def entries : Search (List Expression) :=
  deeper do
    let found ← listed (entry call)
    let _ ← optional (sign ",")
    return found.flatten

def badValue : Search Unit :=
  (do
    let _ ← call .expression
    sign ":"
    let start ← mark
    sign "*"
    let _ ← call .bitOr
    raiseAt start .starredValue) <|>
  (do
    let _ ← call .expression
    sign ":"
    ahead (deeper (sign "\x7d" <|> sign ","))
    raiseHere .valueMissing)

def badEntry : Search Unit :=
  deeper
    ((do
       let first ← mark
       let e ← call .expression
       notAhead (sign ":")
       raiseBehind e first .colonMissing) <|>
     badValue call)

def badEntries : Search Unit :=
  deeper
    ((do let _ ← listed (entry call); sign ","; badEntry call) <|> badValue call)

/-- Slips in the entries of a mapping are raised in any search. -/
def mapping : Search Expression :=
  deeper
    ((do
       sign "\x7b"
       let found ← optional (entries call)
       sign "\x7d"
       return .node .mapping (found.getD [])) <|>
     (do sign "\x7b"; badEntries call; sign "\x7d"; fail))

def mappingComprehension : Search Expression :=
  deeper
    ((do
       sign "\x7b"
       let parts ← pair call
       loops call
       sign "\x7d"
       return .node .mappingComprehension parts) <|>
     ifStrict (deeper do
       sign "\x7b"
       let start ← mark
       sign "**"
       let _ ← call .bitOr
       loops call
       sign "\x7d"
       raiseAt start .spreadComprehension))

structure StringToken where
  marks : Text
  quotes : Nat
  body : Text
  index : Nat
  start : Place

namespace StringToken

def isBytes (s : StringToken) : Bool := s.marks.contains 'b'

def isRaw (s : StringToken) : Bool := s.marks.contains 'r'

def isFormat (s : StringToken) : Bool := s.marks.contains 'f'

def check (s : StringToken) : Except Slip Unit :=
  if s.isFormat || s.isRaw then .ok ()
  else if s.isBytes then Escape.checkBytesFrom 0 s.body
  else Escape.check s.body

/-- Strings that are joined have to be of one kind, of bytes or not. -/
def checkNext (nested : Place → Text → Except Refusal Unit) (bytes : Option Bool)
    (s : StringToken) : Except Complaint Unit := do
  Format.own s.check
  if bytes.any (· ≠ s.isBytes) then throw (.own .mixedStrings)
  if s.isFormat then Format.check nested s.isRaw s.start (s.marks.length + s.quotes) s.body

end StringToken

def stringToken : Search StringToken := do
  let index ← mark
  let token ← peek
  let start := (← source).placeOf token
  take fun
    | .string marks quotes body => some ⟨marks, quotes, body, index, start⟩
    | _ => none

def checkStrings (bytes : Option Bool) : List StringToken → Search Unit
  | [] => pure ()
  | s :: rest => do
    if s.isBytes && s.body.any (!Escape.isPlain ·) then raiseAt s.index .wideByte
    match s.checkNext (← source).nested bytes with
    | .ok () => checkStrings (some s.isBytes) rest
    | .error complaint => complain complaint

def strings : Search Expression := do
  let found ← many1 stringToken
  checkStrings none found
  return leaf (if found.any (·.isFormat) then .format else .string)

def atom : Search Expression :=
  deeper do
    match (← peek).lexeme with
    | .name word => take fun _ => some (leaf (.name (word.map plainLetter)))
    | .number n => take fun _ => some (leaf (.number n))
    | .string .. => call .strings
    | .keyword "True" => take fun _ => some (leaf (.truth true))
    | .keyword "False" => take fun _ => some (leaf (.truth false))
    | .keyword "None" => take fun _ => some (leaf .nothing)
    | .sign "(" => deeper (tuple call <|> group call <|> generator call)
    | .sign "\x7b" =>
      deeper (mapping call <|> set call <|> mappingComprehension call <|> setComprehension call)
    | .sign "..." => take fun _ => some (leaf .ellipsis)
    | _ => fail

end LayoutLint.Expression.Grammar
