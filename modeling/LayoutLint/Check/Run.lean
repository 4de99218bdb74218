import LayoutLint.Check.Constructor
import LayoutLint.Check.Keyword
import LayoutLint.Source
import LayoutLint.Tree.Walk

/-! Checking a file: every construct of its tree is inspected in the order of the walk. -/
namespace LayoutLint

inductive Construct where
  | constructor
  | tryStatement
  | ifStatement
deriving DecidableEq

namespace Construct

def name : Construct → String
  | .constructor => "constructor"
  | .tryStatement => "try"
  | .ifStatement => "if"

def ofKind? : Kind → Option Construct
  | .constructor => some .constructor
  | .tryStatement => some .tryStatement
  | .ifStatement => some .ifStatement
  | _ => none

def inspect (o : Options) (t : Text) : Construct → Node → Inspection
  | .constructor, n => .ofFound (Constructor.inspect o t n)
  | .tryStatement, n => Keyword.inspectTry o t n
  | .ifStatement, n => Keyword.inspectIf o t n

end Construct

def Node.constructs (root : Node) : List (Construct × Node) :=
  root.walk.filterMap fun n => (Construct.ofKind? n.kind).map (·, n)

namespace Source

def inspect (o : Options) (s : Source) : Inspection :=
  (Inspection.concat (s.root.constructs.map fun (c, n) => c.inspect o s.text n)).close s.name

def findings (s : Source) (violations : List Violation) : Findings :=
  ⟨s.name, violations, s.name_ne_nil⟩

def check (o : Options) (s : Source) : Except Fault Findings :=
  (s.inspect o).found.map s.findings

end Source

end LayoutLint
