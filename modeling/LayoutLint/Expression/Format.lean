import LayoutLint.Expression.Escape
import LayoutLint.Expression.Token

/-! Strings with expressions between braces. Braces that stand for themselves are doubled. Behind
an expression there may be an equals sign, a conversion and a format, which may hold expressions
of its own. -/
namespace LayoutLint.Expression

inductive Complaint where
  | own (slip : Slip)
  | relayed (refusal : Refusal)

namespace Format

/-- A text up to an expression. `again` tells that a doubled brace ended it. -/
structure Plain where
  text : Text
  again : Bool
  rest : Text

def hidden (t : Text) : Nat :=
  match t with
  | 'N' :: '\x7b' :: rest =>
    let name := rest.takeWhile (· ≠ '\x7d')
    min (name.length + 1) rest.length + 2
  | 'N' :: _ :: _ => 2
  | '\x7b' :: _ => 0
  | '\x7d' :: _ => 0
  | _ => 1

/-- The text up to an expression or, in a format, to the brace that ends it, when the next
`covered` characters belong to an escape. -/
def plain (raw inFormat : Bool) (covered : Nat) : Text → Except Slip Plain
  | [] => .ok ⟨[], false, []⟩
  | c :: rest =>
    let further (covered : Nat) : Except Slip Plain :=
      (plain raw inFormat covered rest).map fun p => { p with text := c :: p.text }
    match covered with
    | covered + 1 => further covered
    | 0 =>
      if c = '\\' && !raw then further (hidden rest)
      else if c ≠ '\x7b' && c ≠ '\x7d' then further 0
      else if inFormat then .ok ⟨[], false, c :: rest⟩
      else if rest.head? = some c then .ok ⟨[c], true, rest.drop 1⟩
      else if c = '\x7d' then .error .loneBrace
      else .ok ⟨[], false, c :: rest⟩

/-- Where in an expression its end is looked for: inside quotes, which may be tripled, and inside
brackets. -/
structure Spot where
  quote : Option (Char × Bool) := none
  brackets : List Char := []

namespace Spot

def end? (p : Spot) : Option Slip :=
  match p.quote, p.brackets with
  | some _, _ => some .openStringInPart
  | none, bracket :: _ => some (.unmatchedInPart bracket)
  | none, [] => none

def opened (p : Spot) (bracket : Char) : Except Slip Spot :=
  if 200 ≤ p.brackets.length then .error .tooManyBracketsInPart
  else .ok { p with brackets := bracket :: p.brackets }

def closed (p : Spot) (closer : Char) : Except Slip Spot :=
  match p.brackets with
  | [] => .error (.unmatchedInPart closer)
  | opener :: outer =>
    if (opener == '(') == (closer == ')') then .ok { p with brackets := outer }
    else .error (.mismatchedInPart closer opener)

/-- The place behind a character, and how many characters behind it belong to it. Nothing is
returned if the expression ends before it. -/
def step (p : Spot) (c : Char) (rest : Text) : Except Slip (Option (Spot × Nat)) := do
  let tripled := [c, c].isPrefixOf rest
  if c = '\\' then throw .backslashInPart
  match p.quote with
  | some (quote, long) =>
    if c ≠ quote || long && !tripled then return some (p, 0)
    else return some ({ p with quote := none }, if long then 2 else 0)
  | none =>
    if Lexeme.isQuote c then
      return some ({ p with quote := some (c, tripled) }, if tripled then 2 else 0)
    else if c = '(' || c = '\x7b' then return some (← p.opened c, 0)
    else if c = '#' then throw .hashInPart
    else if p.brackets = [] && "!:\x7d=<>".toList.contains c then
      if c ≠ ':' && c ≠ '\x7d' && rest.head? = some '=' then return some (p, 1)
      else if c = '<' || c = '>' then return some (p, 0)
      else return none
    else if c = ')' || c = '\x7d' then return some (← p.closed c, 0)
    else return some (p, 0)

end Spot

def part (p : Spot) (covered : Nat) : Text → Except Slip (Text × Text)
  | [] =>
    match p.end? with
    | some slip => .error slip
    | none => .ok ([], [])
  | c :: rest =>
    let further (p : Spot) (covered : Nat) : Except Slip (Text × Text) :=
      (part p covered rest).map fun (read, rest) => (c :: read, rest)
    match covered with
    | covered + 1 => further p covered
    | 0 => do
      match ← p.step c rest with
      | some (p, covered) => further p covered
      | none => return ([], c :: rest)

def isGap (c : Char) : Bool :=
  c = ' ' || c = '\t' || c = '\n' || c = '\x0c'

def isSpace (c : Char) : Bool :=
  isGap c || c = '\x0b'

/-- What is wrong with an expression that is nothing but a gap, in front of a character. -/
def emptySlip (next : Option Char) : Slip :=
  match next with
  | some c => if c = '!' || c = ':' || c = '=' then .emptyPartBefore c else .emptyPart
  | none => .emptyPart

def goesOn (t : Text) : Except Slip Text :=
  if t = [] then .error .braceMissing else .ok t

def afterEquals (t : Text) : Except Slip Text :=
  match t with
  | '=' :: rest => goesOn (rest.dropWhile isSpace)
  | _ => .ok t

def afterConversion (t : Text) : Except Slip Text := do
  match t with
  | '!' :: rest =>
    match ← goesOn rest with
    | c :: rest => if c = 's' || c = 'r' || c = 'a' then return rest else throw .badConversion
    | [] => return []
  | _ => return t

/-- How a string is read: whether its backslashes stand for themselves, the place of an expression
that begins a rest of it, and what an expression is checked by. -/
structure Manner where
  raw : Bool
  placeOf : Text → Place
  nested : Place → Text → Except Refusal Unit

def own (r : Except Slip α) : Except Complaint α :=
  r.mapError .own

/-- Checks an expression behind its brace and returns the text behind it, where its format begins
if it has one. -/
def field (m : Manner) (t : Text) : Except Complaint Text := do
  let (read, rest) ← own (part {} 0 t)
  let rest ← own (goesOn rest)
  if read.all isGap then throw (.own (emptySlip rest.head?))
  (m.nested (m.placeOf t) read).mapError .relayed
  own (afterEquals rest >>= afterConversion)

/-- Checks the text and the expressions of a string, or of a format at a `level` above zero, and
returns the rest. The first argument bounds the steps. -/
def pieces (m : Manner) : Nat → Nat → Text → Except Complaint Text
  | 0, _, t => .ok t
  | n + 1, level, t => do
    let p ← own (plain m.raw (level ≠ 0) 0 t)
    if !m.raw then own (Escape.check p.text)
    if p.again then pieces m n level p.rest
    else
      match p.rest with
      | '\x7b' :: inner =>
        if 2 ≤ level then throw (.own .nestedParts)
        let rest ← field m inner
        let rest ←
          match rest with
          | ':' :: format => pieces m n (level + 1) (← own (goesOn format))
          | _ => pure rest
        match rest with
        | '\x7d' :: rest => pieces m n level rest
        | _ => throw (.own .braceMissing)
      | rest =>
        if level ≠ 0 && rest = [] then throw (.own .braceMissing) else return rest

/-- The place of the brace before an expression, when the string begins at `start` and has so many
characters before its text. If nothing follows the brace in its line, the columns that the string
takes up do not count. -/
def placeOf (start : Place) (lead : Nat) (body rest : Text) : Place :=
  let before := body.take (body.length - rest.length - 1)
  let brace := before.foldl .next ⟨start.line, start.column + lead⟩
  if (rest.dropWhile fun c => c = ' ' || c = '\t' || c = '\x0c').head? = some '\n' then
    ⟨brace.line, if brace.line = start.line then start.column else 0⟩
  else brace

def check (nested : Place → Text → Except Refusal Unit) (raw : Bool) (start : Place) (lead : Nat)
    (body : Text) : Except Complaint Unit := do
  let _ ← pieces ⟨raw, placeOf start lead body, nested⟩ (body.length + 1) 0 body

end Format

end LayoutLint.Expression
