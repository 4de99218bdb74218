import LayoutLint.Tree.Node

/-! A parsed file: its name, its text and the root of its tree. -/
namespace LayoutLint

structure Source where
  name : Text
  text : Text
  root : Node
  name_ne_nil : name ≠ []
  root_le_length : root.span.stop ≤ text.length

/-- Refuses an empty name before a root that ends past the text. -/
def Source.build (name text : Text) (root : Node) : Except Fault Source :=
  if hn : name = [] then .error .emptyFileName
  else if hr : root.span.stop ≤ text.length then
    .ok { name, text, root, name_ne_nil := hn, root_le_length := hr }
  else .error (.rootPastEnd root.span.stop text.length)

end LayoutLint
