import LayoutLint.Expression.Token

/-! Dividing a text into tokens. Lines end in a token of their own unless a bracket is open, and a
line that begins further to the right than the one before is indented. -/
namespace LayoutLint.Expression

abbrev Bracket := Char × Nat

/-- How a text ends: well, at a token that is wrong, or where no further token can be read. -/
inductive Ending where
  | complete
  | wrong (slip : Slip)
  | stopped (slip : Slip) (bracket : Option Bracket)

/-- The tokens of a text. `touched` tells that the last one could only be read together with the end
of the text. -/
structure Scan where
  tokens : Array Token
  ending : Ending
  touched : Bool := false

/-- The column that a line begins in. A tab reaches to every eighth column in the one count and is
as wide as a blank in the other. -/
structure Margin where
  column : Nat := 0
  narrow : Nat := 0
deriving DecidableEq

namespace Margin

structure Gap where
  margin : Margin
  length : Nat
  rest : Text

/-- Reads the gap from `length` characters on. The line may be continued behind a backslash, and
then begins in the column of the first one, unless that is the first column. -/
def gap? (m : Margin) (continued length : Nat) : Text → Option Gap
  | ' ' :: rest => gap? ⟨m.column + 1, m.narrow + 1⟩ continued (length + 1) rest
  | '\t' :: rest => gap? ⟨(m.column / 8 + 1) * 8, m.narrow + 1⟩ continued (length + 1) rest
  | '\x0c' :: rest => gap? {} continued (length + 1) rest
  | '\\' :: '\n' :: rest =>
    gap? m (if continued = 0 then m.column else continued) (length + 2) rest
  | '\\' :: _ => none
  | rest => some ⟨if continued = 0 then m else ⟨continued, continued⟩, length, rest⟩

end Margin

/-- How far a text has been read. `blank` tells that the line holds nothing but a gap or a comment,
and `margins` are those of the lines around, the innermost first. -/
structure Scanner where
  place : Place
  blank : Bool := false
  brackets : List Bracket := []
  margins : List Margin := []
  tokens : Array Token := #[]
  touched : Bool := false

namespace Scanner

def bracketLimit : Nat := 200

def marginLimit : Nat := 99

def put (s : Scanner) (lexeme : Lexeme) : Scanner :=
  { s with tokens := s.tokens.push ⟨lexeme, s.place, s.place, s.brackets.length⟩ }

def putText (s : Scanner) (lexeme : Lexeme) (t rest : Text) : Scanner :=
  { s with
    tokens := s.tokens.push ⟨lexeme, s.place, t.foldl .next s.place, s.brackets.length⟩
    touched := rest.isEmpty && lexeme.looksAhead }

def putSign (s : Scanner) (c : Char) (rest : Text) : Scanner :=
  s.putText (.sign c.toString) [c] rest

def stop (s : Scanner) (slip : Slip) : Scan :=
  ⟨s.tokens, .stopped slip s.brackets.head?, s.touched⟩

def fail (s : Scanner) (slip : Slip) : Scan :=
  ⟨s.tokens, .wrong slip, s.touched⟩

def margin (s : Scanner) : Margin :=
  s.margins.headD {}

def dedent (m : Margin) (s : Scanner) : List Margin → Scanner
  | [] => { s with margins := [] }
  | inner :: outer =>
    if m.column < inner.column then dedent m (s.put .dedent) outer
    else { s with margins := inner :: outer }

/-- Moves to the margin of a line. Both counts of columns have to agree on what is further. -/
def moveTo (m : Margin) (s : Scanner) : Except Scan Scanner :=
  if m.column = s.margin.column then
    if m.narrow = s.margin.narrow then .ok s else .error (s.stop .badMargin)
  else if s.margin.column < m.column then
    if s.margins.length < marginLimit && s.margin.narrow < m.narrow then
      .ok { s.put .indent with margins := m :: s.margins }
    else .error (s.stop .badMargin)
  else
    let outer := dedent m s s.margins
    if m = outer.margin then .ok outer else .error (s.stop .badMargin)

def startLine (s : Scanner) (t : Text) : Except Scan (Scanner × Nat) :=
  match Margin.gap? {} 0 0 t with
  | none => .error (s.stop .brokenLine)
  | some gap =>
    if gap.rest.head?.any fun c => c = '#' || c = '\n' then
      .ok ({ s with blank := true }, gap.length)
    else if s.brackets ≠ [] then .ok ({ s with blank := false }, gap.length)
    else ({ s with blank := false } : Scanner).moveTo gap.margin |>.map (·, gap.length)

def closed (line : Nat) (closer : Char) (brackets : List Bracket) : Except Slip (List Bracket) :=
  match brackets with
  | [] => .error (.unmatched closer)
  | (bracket, since) :: outer =>
    if (bracket == '(') == (closer == ')') then .ok outer
    else if since = line then .error (.mismatched closer bracket)
    else .error (.mismatchedSince closer bracket since)

def pass (s : Scanner) (c : Char) : Scanner :=
  { s with place := s.place.next c }

/-- Reads what begins with a character, and returns how many characters behind it belong to it. A
backslash has to end its line. -/
def step (s : Scanner) (c : Char) (rest : Text) : Except Scan (Scanner × Nat) :=
  match c with
  | ' ' | '\t' | '\x0c' => .ok (s, 0)
  | '\n' =>
    let ended := if s.blank || s.brackets ≠ [] then s else s.put .lineEnd
    (ended.pass c).startLine rest
  | '#' => .ok (s, (rest.takeWhile (· ≠ '\n')).length)
  | '\\' => if rest.head? = some '\n' then .ok (s, 1) else .error (s.stop .brokenLine)
  | '(' | '\x7b' =>
    if bracketLimit ≤ s.brackets.length then .error (s.fail .tooManyBrackets)
    else
      let inside : Scanner := { s with brackets := (c, s.place.line) :: s.brackets }
      .ok (inside.putSign c rest, 0)
  | ')' | '\x7d' =>
    match closed s.place.line c s.brackets with
    | .ok brackets => .ok (({ s with brackets } : Scanner).putSign c rest, 0)
    | .error slip => .error (s.fail slip)
  | _ =>
    match Lexeme.ofChar s.place.line c rest with
    | .ok (lexeme, length) =>
      .ok (s.putText lexeme (c :: rest.take (length - 1)) (rest.drop (length - 1)), length - 1)
    | .error slip => .error (s.fail slip)

def finish (s : Scanner) : Scan :=
  match s.brackets with
  | [] => ⟨(s.put .finish).tokens, .complete, s.touched⟩
  | (bracket, _) :: _ => s.stop (.unclosed bracket)

/-- Reads a text of which `covered` characters belong to what has been read. -/
def run (s : Scanner) (covered : Nat) : Text → Scan
  | [] => s.finish
  | c :: rest =>
    match covered with
    | covered + 1 => run (s.pass c) covered rest
    | 0 =>
      match s.step c rest with
      | .ok (s, covered) => run (if c = '\n' then s else s.pass c) covered rest
      | .error scan => scan

end Scanner

def withLineFeeds : Text → Text
  | [] => []
  | '\r' :: '\n' :: rest => '\n' :: withLineFeeds rest
  | '\r' :: rest => '\n' :: withLineFeeds rest
  | c :: rest => c :: withLineFeeds rest

def scan (line : Nat) (t : Text) : Scan :=
  match ({ place := ⟨line, 0⟩ } : Scanner).startLine t with
  | .ok (s, covered) => s.run covered t
  | .error scan => scan

end LayoutLint.Expression
