import LayoutLint.Expression.Format
import LayoutLint.Expression.Scanner
import Std.Data.HashMap

/-! Searching tokens for an expression, alternative by alternative. What a rule finds at a token is
remembered, so no rule is tried twice at the same one. In a strict search, rules that know of common
slips raise them. -/
namespace LayoutLint.Expression

inductive Rule where
  | expression
  | starExpression
  | disjunction
  | conjunction
  | inversion
  | bitOr
  | bitXor
  | bitAnd
  | shift
  | sum
  | term
  | factor
  | awaited
  | primary
  | strings
  | arguments
  | starTarget
  | memberTarget
  | targetBase
  | misnamed
deriving DecidableEq, Hashable

/-- Whether what the rule finds begins with what the same rule finds. -/
def Rule.growsLeft : Rule → Bool
  | .bitOr | .bitXor | .bitAnd | .shift | .sum | .term | .primary | .targetBase => true
  | _ => false

abbrev Finding := Option Expression × Nat

/-- The next token, the number of tokens looked at so far, whether slips are raised, and what is
remembered. -/
structure State where
  mark : Nat := 0
  seen : Nat := 0
  strict : Bool := false
  memory : Std.HashMap (Rule × Nat) Finding := {}

/-- A scanned text, with what the expressions in its strings are checked by. If it is itself such an
expression, it has an origin. -/
structure Source extends Scan where
  origin : Option Place := none
  nested : Place → Text → Except Refusal Unit

namespace Source

def worded (src : Source) (slip : Slip) : Slip :=
  if src.origin.isSome then .inPart slip else slip

def isFirstLine (src : Source) (token : Token) : Bool :=
  src.origin.any (·.line = token.stop.line)

/-- The place of a token in the whole text. Columns are only known in the first line. -/
def placeOf (src : Source) (token : Token) : Place :=
  match src.origin with
  | some origin =>
    if src.isFirstLine token then ⟨token.start.line, origin.column + token.start.column⟩
    else token.start
  | none => token.start

/-- A reason names a column that is counted from the origin. It cannot be given if the column, which
starts from one, lies before the origin. -/
def explained (src : Source) (slip : Slip) (firstLine : Bool) (column : Nat) :
    Except Trouble Slip :=
  if !firstLine && src.origin.any (column < ·.column) then .error .columnMissing
  else .ok (src.worded slip)

def explainedAt (src : Source) (slip : Slip) (i : Nat) : Except Trouble Slip :=
  match src.tokens[i]? with
  | some token => src.explained slip (src.isFirstLine token) (token.start.column + 1)
  | none => .ok (src.worded slip)

def wrappings (src : Source) : Nat → Nat → Nat → Nat
  | 0, _, _ => 0
  | n + 1, first, last =>
    match src.tokens[first]?, src.tokens[last - 1]? with
    | some ⟨.sign "(", _, _, depth⟩, some ⟨.sign ")", _, _, _⟩ =>
      if first + 1 < last && (src.tokens.extract first (last - 1)).all (depth ≤ ·.depth) then
        wrappings src n (first + 1) (last - 1) + 1
      else 0
    | _, _ => 0

/-- The brackets around an expression of a shape. They do not belong to it, unless they make it what
it is. -/
def around (src : Source) (shape : Shape) (first last : Nat) : Nat :=
  let n := src.wrappings (last - first) first last
  match shape with
  | .tuple | .generator => n - 1
  | _ => n

def openBefore (src : Source) (i : Nat) : Nat :=
  ((src.tokens[i - 1]?).map (·.depth)).getD 0

/-- The next separator between as many brackets, or else the token behind those that are searched.
The number comes behind the depth. -/
def nextSeparator (src : Source) (separator : Lexeme) : Nat → Nat → Nat → Nat
  | _, 0, i => i
  | depth, n + 1, i =>
    if (src.tokens[i]?).any fun token => token.lexeme = separator && token.depth = depth then i
    else nextSeparator src separator depth n (i + 1)

def endOf (src : Source) (separator : Lexeme) (first last : Nat) : Nat :=
  src.nextSeparator separator (src.openBefore first) (last - first) first

end Source

/-- A slip that is raised tells how many tokens had been looked at. A halt is not open to a better
explanation. -/
inductive Outcome (α : Type) where
  | found (value : α) (state : State)
  | missing (state : State)
  | raised (slip : Slip) (seen : Nat)
  | halted (refusal : Refusal)

def Search (α : Type) : Type :=
  Source → Nat → State → Outcome α

namespace Search

instance : Monad Search where
  pure a := fun _ _ s => .found a s
  bind p f := fun src room s =>
    match p src room s with
    | .found a s => f a src room s
    | .missing s => .missing s
    | .raised slip seen => .raised slip seen
    | .halted refusal => .halted refusal

@[inline] def orElse (p : Search α) (q : Unit → Search α) : Search α := fun src room s =>
  let start := s.mark
  match p src room s with
  | .missing s => q () src room { s with mark := start }
  | outcome => outcome

instance : OrElse (Search α) := ⟨Search.orElse⟩

def fail : Search α := fun _ _ s => .missing s

def raiseAt (i : Nat) (slip : Slip) : Search α := fun src _ s =>
  match src.explainedAt slip i with
  | .ok slip => .raised slip s.seen
  | .error trouble => .halted (.trouble trouble)

def raise (slip : Slip) : Search α := fun src room s =>
  raiseAt (s.seen - 1) slip src room s

def raiseHere (slip : Slip) : Search α := fun src room s =>
  raiseAt (s.mark - 1) slip src room s

def mark : Search Nat := fun _ _ s => .found s.mark s

def placed (p : Search Expression) : Search (Expression × Nat) := fun src room s =>
  let first := s.mark
  match p src room s with
  | .found e s => .found (e, first + src.around e.shape first s.mark) s
  | .missing s => .missing s
  | .raised slip seen => .raised slip seen
  | .halted refusal => .halted refusal

def raiseBehind (e : Expression) (first : Nat) (slip : Slip) : Search α := fun src _ s =>
  let last := s.mark - 1 - src.around e.shape first s.mark
  match src.tokens[last]? with
  | some token =>
    match src.explained slip (src.isFirstLine token) token.stop.column with
    | .ok slip => .raised slip s.seen
    | .error trouble => .halted (.trouble trouble)
  | none => .raised (src.worded slip) s.seen

def complain (c : Complaint) : Search α := fun src room s =>
  match c with
  | .own slip => raise slip src room s
  | .relayed (.slip slip) => .raised slip s.seen
  | .relayed refusal => .halted refusal

@[inline] def deeper (p : Search α) : Search α := fun src room s =>
  match room with
  | 0 => .halted (.trouble .tooComplex)
  | room + 1 => p src room s

/-- The next token, which then has been looked at. Behind the last one is what ends the text. -/
def peek : Search Token := fun src _ s =>
  match src.tokens[s.mark]? with
  | some token => .found token { s with seen := max s.seen (s.mark + 1) }
  | none =>
    match src.ending with
    | .complete => .missing s
    | .wrong slip => .halted (.slip slip)
    | .stopped slip _ => .halted (.slip (src.worded slip))

@[inline] def take (wanted : Lexeme → Option α) : Search α := fun src room s =>
  match peek src room s with
  | .found token s =>
    match wanted token.lexeme with
    | some a => .found a { s with mark := s.mark + 1 }
    | none => .missing s
  | .missing s => .missing s
  | .raised slip seen => .raised slip seen
  | .halted refusal => .halted refusal

def sign (text : String) : Search Unit :=
  take fun | .sign t => if t = text then some () else none | _ => none

def keyword (word : String) : Search Unit :=
  take fun | .keyword w => if w = word then some () else none | _ => none

def name : Search Text :=
  take fun | .name word => some word | _ => none

def ahead (p : Search α) : Search Unit := fun src room s =>
  let start := s.mark
  match p src room s with
  | .found _ s => .found () { s with mark := start }
  | .missing s => .missing { s with mark := start }
  | .raised slip seen => .raised slip seen
  | .halted refusal => .halted refusal

def notAhead (p : Search α) : Search Unit := fun src room s =>
  let start := s.mark
  match p src room s with
  | .found _ s => .missing { s with mark := start }
  | .missing s => .found () { s with mark := start }
  | .raised slip seen => .raised slip seen
  | .halted refusal => .halted refusal

@[inline] def optional (p : Search α) : Search (Option α) :=
  (do return some (← p)) <|> pure none

def repeated (p : Search α) : Nat → List α → Search (List α)
  | 0, found => pure found.reverse
  | n + 1, found => fun src room s =>
    let start := s.mark
    match p src room s with
    | .found a s => repeated p n (a :: found) src room s
    | .missing s => .found found.reverse { s with mark := start }
    | .raised slip seen => .raised slip seen
    | .halted refusal => .halted refusal

def many (p : Search α) : Search (List α) :=
  deeper fun src room s => repeated p (src.tokens.size + 1) [] src room s

def many1 (p : Search α) : Search (List α) := do
  match ← many p with
  | [] => fail
  | found => return found

def listed (p : Search α) : Search (List α) :=
  deeper do
    let first ← p
    let more ← many (do sign ","; p)
    return first :: more

@[inline] def ifStrict (p : Search α) : Search α := fun src room s =>
  if s.strict then p src room s else .missing s

def leniently (p : Search α) : Search α := fun src room s =>
  let strict := s.strict
  match p src room { s with strict := false } with
  | .found a s => .found a { s with strict }
  | .missing s => .missing { s with strict }
  | .raised slip seen => .raised slip seen
  | .halted refusal => .halted refusal

/-- A search that settles the matter if it finds something, even if what it finds is nothing. -/
def settle (p : Search (Option α)) (q : Unit → Search α) : Search α := fun src room s =>
  let start := s.mark
  match p src room s with
  | .found (some a) s => .found a s
  | .found none s => .missing s
  | .missing s => q () src room { s with mark := start }
  | .raised slip seen => .raised slip seen
  | .halted refusal => .halted refusal

def source : Search Source := fun src _ s => .found src s

def openBrackets : Search Nat := fun src _ s =>
  .found (src.openBefore s.mark) s

@[inline] def recalled (rule : Rule) (p : Search Expression) : Search Expression :=
  fun src room s =>
  match peek src room s with
  | .found _ s =>
    match s.memory[(rule, s.mark)]? with
    | some (some e, mark) => .found e { s with mark }
    | some (none, mark) => .missing { s with mark }
    | none => p src room s
  | .missing s => .missing s
  | .raised slip seen => .raised slip seen
  | .halted refusal => .halted refusal

def remembered (rule : Rule) (p : Search Expression) : Search Expression :=
  recalled rule fun src room s =>
    let start := s.mark
    match p src room s with
    | .found e s => .found e { s with memory := s.memory.insert (rule, start) (some e, s.mark) }
    | .missing s =>
      .missing { s with mark := start, memory := s.memory.insert (rule, start) (none, start) }
    | .raised slip seen => .raised slip seen
    | .halted refusal => .halted refusal

/-- Repeats a search at `start` as long as it finds more than before, with what it found before
remembered. The first argument bounds the steps. -/
def growing (rule : Rule) (p : Search Expression) (start : Nat) : Nat → Finding → Search Expression
  | 0, _ => fail
  | n + 1, best => fun src room s =>
    let ended (s : State) : Outcome Expression :=
      match best with
      | (some e, mark) => .found e { s with mark }
      | (none, mark) => .missing { s with mark }
    match p src room { s with mark := start, memory := s.memory.insert (rule, start) best } with
    | .found e s =>
      if s.mark ≤ best.2 then ended s else growing rule p start n (some e, s.mark) src room s
    | .missing s => ended s
    | .raised slip seen => .raised slip seen
    | .halted refusal => .halted refusal

def grown (rule : Rule) (p : Search Expression) : Search Expression :=
  recalled rule fun src room s =>
    growing rule p s.mark (src.tokens.size + 2) (none, s.mark) src room s

end Search

end LayoutLint.Expression
