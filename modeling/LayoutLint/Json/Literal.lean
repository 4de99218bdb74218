import LayoutLint.Json.Basic
import LayoutLint.Text.Quoted

/-! The form in which a value is quoted inside a sentence: strings in quotes on one line,
`True`, `False` and `None` as words, items divided by a comma and a space. -/
namespace LayoutLint.Json

mutual

def literal : Json → Text
  | .null => "None".toList
  | .bool b => if b then "True".toList else "False".toList
  | .int i => Text.ofInt i
  | .decimal d => d.text
  | .nan => "nan".toList
  | .str s => s.quoted
  | .arr items => '[' :: [',', ' '].intercalate (literals items) ++ [']']
  | .obj fields => '\x7b' :: [',', ' '].intercalate (fieldLiterals fields) ++ ['\x7d']

def literals : List Json → List Text
  | [] => []
  | v :: rest => literal v :: literals rest

def fieldLiterals : List (Text × Json) → List Text
  | [] => []
  | (name, v) :: rest => (name.quoted ++ ':' :: ' ' :: literal v) :: fieldLiterals rest

end

example : literal (.arr [.int 1, .str "a".toList, .obj [("k".toList, .null)]]) =
    "[1, 'a', \x7b'k': None\x7d]".toList := by decide

end LayoutLint.Json
