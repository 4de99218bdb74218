import LayoutLint.Expression.Read

/-! Whether an expression is a literal: constants, and tuples, sets and mappings of literals. What a
set holds and the keys of a mapping have to be values that never change. -/
namespace LayoutLint.Expression

/-- A value, as far as it matters: the type of something in it that may change. -/
abbrev Changing := Option String

/-- Whole numbers from here on are too large to be added to a number with fractions. -/
def wholeLimit : Nat := Nat.pow 2 1024 - Nat.pow 2 970

def signedNumber? : Expression → Option Number
  | .node (.number n) _ => some n
  | .node (.sign operator) [.node (.number n) _] =>
    if operator = "+" || operator = "-" then some n else none
  | _ => none

def sumValue (operator : String) (left right : Expression) : Except Trouble Changing :=
  if operator ≠ "+" && operator ≠ "-" then .error .notLiteral
  else
    match signedNumber? left, right with
    | some (.whole n), .node (.number .imaginary) _ =>
      if n < wholeLimit then .ok none else .error .tooLarge
    | some .real, .node (.number .imaginary) _ => .ok none
    | _, _ => .error .notLiteral

def unchanging : Changing → Except Trouble Unit
  | some type => .error (.unhashable type)
  | none => .ok ()

mutual

def value : Expression → Except Trouble Changing
  | .node .nothing _ => .ok none
  | .node (.truth _) _ => .ok none
  | .node .ellipsis _ => .ok none
  | .node (.number _) _ => .ok none
  | .node .string _ => .ok none
  | .node .tuple parts => values parts
  | .node .set parts => do
    members parts
    return some "set"
  | .node .mapping parts => do
    entries parts
    return some "dict"
  | .node .call [.node (.name word) _] =>
    if word = "set".toList then .ok (some "set") else .error .notLiteral
  | .node (.operation operator) [left, right] => sumValue operator left right
  | .node (.sign operator) parts =>
    if (signedNumber? (.node (.sign operator) parts)).isSome then .ok none else .error .notLiteral
  | .node .keyless _ => .error .keyless
  | _ => .error .notLiteral

def values : List Expression → Except Trouble Changing
  | [] => .ok none
  | e :: rest => do
    let first ← value e
    let more ← values rest
    return first <|> more

/-- Each value goes into the set before the next one is made. -/
def members : List Expression → Except Trouble Unit
  | [] => .ok ()
  | e :: rest => do
    unchanging (← value e)
    members rest

/-- Keys and values in turn. A key is used once its value is made. -/
def entries : List Expression → Except Trouble Unit
  | key :: e :: rest => do
    let key ← value key
    let _ ← value e
    unchanging key
    entries rest
  | _ => .ok ()

end

def depthLimit : Nat := 2930

def refusal? (t : Text) : Option Refusal :=
  match ofText t with
  | .error refusal => some refusal
  | .ok e =>
    if depthLimit < e.depth then some (.trouble .tooDeep)
    else
      match e.value with
      | .ok _ => none
      | .error trouble => some (.trouble trouble)

end LayoutLint.Expression
