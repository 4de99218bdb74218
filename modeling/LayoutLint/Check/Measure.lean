import LayoutLint.Options
import LayoutLint.Position
import LayoutLint.Tree.Node

/-! Measures of a node against the text that it belongs to. -/
namespace LayoutLint

namespace Node

def startPosition (n : Node) (t : Text) : Except Fault Position :=
  t.position n.span.start

def endPosition (n : Node) (t : Text) : Except Fault Position :=
  t.position n.span.stop

def sharesLine (n next : Node) (t : Text) : Except Fault Bool := do
  let stop ← n.endPosition t
  let start ← next.startPosition t
  return stop.line = start.line

def indentLevel (n : Node) (o : Options) (t : Text) (discount : Nat) : Except Fault Nat := do
  let start ← n.startPosition t
  return o.levelOf (start.character - discount)

/-- The level when a number of characters is taken off the column, or added to it if negative. -/
def indentLevelBy (n : Node) (o : Options) (t : Text) : Int → Except Fault Nat
  | .ofNat discount => n.indentLevel o t discount
  | .negSucc more => do o.levelOfWide ((← n.startPosition t).character + (more + 1))

def replace (n : Node) (insert : Text) : Fix :=
  ⟨n.span.start, n.span.width, insert⟩

end Node

end LayoutLint
