import LayoutLint.Json.Basic

/-! JSON text in ASCII, on one line or with one item per line. -/
namespace LayoutLint.Json

inductive Layout where
  | oneLine
  | indented (width : Nat)
deriving DecidableEq

def Layout.newLine (l : Layout) (depth : Nat) : Text :=
  match l with
  | .oneLine => []
  | .indented width => '\n' :: List.replicate (width * depth) ' '

def Layout.comma : Layout → Text
  | .oneLine => [',', ' ']
  | .indented _ => [',']

def unitEscape (unit : Nat) : Text :=
  '\\' :: 'u' :: Text.hex 4 unit

def codePointEscape (n : Nat) : Text :=
  if n < 0x10000 then unitEscape n
  else unitEscape (0xD800 + (n - 0x10000) / 0x400) ++ unitEscape (0xDC00 + (n - 0x10000) % 0x400)

def escapedChar (c : Char) : Text :=
  if c = '"' || c = '\\' then ['\\', c]
  else if c = '\n' then ['\\', 'n']
  else if c = '\r' then ['\\', 'r']
  else if c = '\t' then ['\\', 't']
  else if c = '\x08' then ['\\', 'b']
  else if c = '\x0c' then ['\\', 'f']
  else if ' ' ≤ c && c ≤ '~' then [c]
  else codePointEscape c.toNat

def stringText (s : Text) : Text :=
  '"' :: s.flatMap escapedChar ++ ['"']

/-- A decimal that is too large for its kind is infinite. -/
def decimalText (d : Decimal) : Text :=
  if d.isInfinite then (if d.negative then ['-'] else []) ++ "Infinity".toList else d.text

mutual

/-- The text of a value whose first character stands at nesting `depth`. -/
def renderAt (l : Layout) (depth : Nat) : Json → Text
  | .null => "null".toList
  | .bool b => if b then "true".toList else "false".toList
  | .int i => Text.ofInt i
  | .decimal d => decimalText d
  | .nan => "NaN".toList
  | .str s => stringText s
  | .arr [] => ['[', ']']
  | .arr (v :: rest) =>
    '[' :: l.newLine (depth + 1) ++ renderAt l (depth + 1) v ++ renderItems l (depth + 1) rest ++
      l.newLine depth ++ [']']
  | .obj [] => ['\x7b', '\x7d']
  | .obj ((name, v) :: rest) =>
    '\x7b' :: l.newLine (depth + 1) ++ stringText name ++ ':' :: ' ' ::
      renderAt l (depth + 1) v ++ renderFields l (depth + 1) rest ++ l.newLine depth ++ ['\x7d']

def renderItems (l : Layout) (depth : Nat) : List Json → Text
  | [] => []
  | v :: rest => l.comma ++ l.newLine depth ++ renderAt l depth v ++ renderItems l depth rest

def renderFields (l : Layout) (depth : Nat) : List (Text × Json) → Text
  | [] => []
  | (name, v) :: rest =>
    l.comma ++ l.newLine depth ++ stringText name ++ ':' :: ' ' :: renderAt l depth v ++
      renderFields l depth rest

end

def render (l : Layout) (v : Json) : Text :=
  renderAt l 0 v

example : render .oneLine (.arr [.int 1, .str "é".toList]) = "[1, \"\\u00e9\"]".toList := by decide
example : stringText "😀".toList = "\"\\ud83d\\ude00\"".toList := by decide

end LayoutLint.Json
