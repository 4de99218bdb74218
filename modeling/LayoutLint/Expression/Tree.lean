import LayoutLint.Text.Basic

/-! Expressions as trees. -/
namespace LayoutLint

namespace Expression

inductive Number where
  | whole (value : Nat)
  | real
  | imaginary
deriving DecidableEq

/-- What an expression is made by. Besides expressions there are the arguments of calls, named or
spread, and the key that a spread mapping lacks. -/
inductive Shape where
  | name (word : Text)
  | nothing
  | truth (value : Bool)
  | ellipsis
  | number (value : Number)
  | string
  | format
  | member
  | call
  | tuple
  | set
  | mapping
  | starred
  | sign (operator : String)
  | operation (operator : String)
  | choice
  | comparison (operator : String)
  | condition
  | function
  | generator
  | setComprehension
  | mappingComprehension
  | yielded
  | awaited
  | named
  | argument
  | spread
  | keyless

def Shape.text : Shape → String
  | .name _ => "name"
  | .nothing => "None"
  | .truth value => if value then "True" else "False"
  | .ellipsis => "ellipsis"
  | .number _ => "literal"
  | .string => "literal"
  | .format => "f-string expression"
  | .member => "attribute"
  | .call => "function call"
  | .tuple => "tuple"
  | .set => "set display"
  | .mapping => "dict literal"
  | .starred => "starred"
  | .comparison _ => "comparison"
  | .condition => "conditional expression"
  | .function => "lambda"
  | .generator => "generator expression"
  | .setComprehension => "set comprehension"
  | .mappingComprehension => "dict comprehension"
  | .yielded => "yield expression"
  | .awaited => "await expression"
  | .named => "named expression"
  | .sign _ | .operation _ | .choice | .argument | .spread | .keyless => "expression"

end Expression

inductive Expression where
  | node (shape : Expression.Shape) (parts : List Expression)

namespace Expression

def shape : Expression → Shape
  | .node shape _ => shape

def leaf (shape : Shape) : Expression :=
  .node shape []

def word? : Expression → Option Text
  | .node (.name word) _ => some word
  | _ => none

mutual

def depth : Expression → Nat
  | .node _ parts => depthOfParts parts + 1

def depthOfParts : List Expression → Nat
  | [] => 0
  | e :: rest => max (depth e) (depthOfParts rest)

end

end Expression

end LayoutLint
