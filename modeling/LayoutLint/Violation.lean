import LayoutLint.Position
import LayoutLint.Rule
import LayoutLint.Tree.Node

/-! A violation says which check fired, at which node, and how to mend it. -/
namespace LayoutLint

inductive Cause where
  | multilineConstructor
  | ownLine
deriving DecidableEq

namespace Cause

def all : List Cause := [.multilineConstructor, .ownLine]

def name : Cause → String
  | .multilineConstructor => "multiline-constructor"
  | .ownLine => "control-statement-own-line"

def text (c : Cause) : Text := c.name.toList

def ofName (name : Text) : Except Fault Cause :=
  match all.find? (·.text = name) with
  | some c => .ok c
  | none => .error (.unknownViolationKind name)

@[simp] theorem ofName_text (c : Cause) : ofName c.text = .ok c := by
  cases c <;> rfl

end Cause

structure Violation where
  cause : Cause
  message : Text
  node : Node
  start : Position
  fix : Option Fix
  message_ne_nil : message ≠ []

namespace Violation

def build (cause : Cause) (message : Text) (node : Node) (start : Position)
    (fix : Option Fix) : Except Fault Violation :=
  if h : message = [] then .error .emptyMessage
  else .ok { cause, message, node, start, fix, message_ne_nil := h }

def fixable (v : Violation) : Bool :=
  v.fix.isSome

def headline (v : Violation) : Text :=
  v.message.headline

def label (v : Violation) : Text :=
  '[' :: Rule.name.toList ++ ']' :: ' ' :: v.headline

def phrase (v : Violation) : Phrase :=
  v.start.phrase ++ [.words (' ' :: v.label)]

def text (v : Violation) : Text :=
  v.phrase.text

def locationPhrase (file : Text) (v : Violation) : Phrase :=
  .words (file ++ [':']) :: v.start.phrase

def location (file : Text) (v : Violation) : Text :=
  (v.locationPhrase file).text

theorem location_eq (file : Text) (v : Violation) : v.location file = file ++ ':' :: v.start.text :=
  List.append_assoc ..

end Violation

end LayoutLint
