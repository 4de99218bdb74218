import LayoutLint.Check.Measure
import LayoutLint.Violation

/-! A constructor that declares properties through its parameters lists them one to a line. -/
namespace LayoutLint.Constructor

def message : String := "Constructors with property declarations should be multi-line."

/-- Whether a parameter starts on the line of its predecessor once a property has been seen.
The predecessor of the first parameter starts on `line`. -/
def isCrowded (t : Text) (line : Nat) (seen : Bool) : List Node → Except Fault Bool
  | [] => .ok false
  | parameter :: rest => do
    let start ← parameter.startPosition t
    if (seen || parameter.isProperty) && start.line = line then return true
    else isCrowded t start.line (seen || parameter.isProperty) rest

/-- Breaks the line at each comma and space that no line feed follows. -/
def breakCommas (indent : Text) : Text → Text
  | [] => []
  | ',' :: ' ' :: rest =>
    if rest.head? = some '\n' then ',' :: ' ' :: breakCommas indent rest
    else ',' :: '\n' :: indent ++ breakCommas indent rest
  | c :: rest => c :: breakCommas indent rest

def multiline (o : Options) (t : Text) (node signature : Node) : Except Fault Text := do
  let level ← node.indentLevel o t 0
  let inner ← o.indent (level + 1)
  let outer ← o.indent level
  return breakCommas inner ('\n' :: inner ++ signature.span.text t ++ '\n' :: outer)

def inspect (o : Options) (t : Text) (node : Node) : Except Fault (List Violation) :=
  match node.firstChild? .syntaxList with
  | none => .ok []
  | some signature => do
    let start ← node.startPosition t
    if ← isCrowded t start.line false (signature.childrenOf .parameter) then
      let text ← multiline o t node signature
      let start ← signature.startPosition t
      return [{
        cause := .multilineConstructor
        message := message.toList ++ '\n' :: text
        node := signature
        start
        fix := some (signature.replace text)
        message_ne_nil := by simp }]
    else return []

end LayoutLint.Constructor
