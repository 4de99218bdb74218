import LayoutLint.Text.Basic

/-! The kinds of node that the checks tell apart. Everything else a parser produces is
`other`. -/
namespace LayoutLint

inductive Kind where
  | sourceFile
  | constructor
  | tryStatement
  | ifStatement
  | syntaxList
  | parameter
  | publicKeyword
  | protectedKeyword
  | privateKeyword
  | block
  | catchClause
  | finallyKeyword
  | elseKeyword
  | other
deriving DecidableEq

namespace Kind

def all : List Kind :=
  [.sourceFile, .constructor, .tryStatement, .ifStatement, .syntaxList, .parameter,
   .publicKeyword, .protectedKeyword, .privateKeyword, .block, .catchClause, .finallyKeyword,
   .elseKeyword, .other]

def name : Kind → String
  | .sourceFile => "SOURCE_FILE"
  | .constructor => "CONSTRUCTOR"
  | .tryStatement => "TRY_STATEMENT"
  | .ifStatement => "IF_STATEMENT"
  | .syntaxList => "SYNTAX_LIST"
  | .parameter => "PARAMETER"
  | .publicKeyword => "PUBLIC_KEYWORD"
  | .protectedKeyword => "PROTECTED_KEYWORD"
  | .privateKeyword => "PRIVATE_KEYWORD"
  | .block => "BLOCK"
  | .catchClause => "CATCH_CLAUSE"
  | .finallyKeyword => "FINALLY_KEYWORD"
  | .elseKeyword => "ELSE_KEYWORD"
  | .other => "OTHER"

def text (k : Kind) : Text :=
  k.name.toList

def ofName? (name : Text) : Option Kind :=
  all.find? (·.text = name)

/-- The modifiers that make a parameter declare a property. -/
def isVisibility : Kind → Bool
  | .publicKeyword | .protectedKeyword | .privateKeyword => true
  | _ => false

/-- The kinds that can stand before a catch clause or a finally keyword. -/
def isTryBody : Kind → Bool
  | .block | .catchClause => true
  | _ => false

theorem mem_all (k : Kind) : k ∈ all := by
  cases k <;> decide

@[simp] theorem ofName?_text (k : Kind) : ofName? k.text = some k := by
  cases k <;> decide

end Kind

end LayoutLint
