import LayoutLint.Text.Basic

/-! Tags in text. A tag is a name in brackets, and a backslash in front takes it literally. -/
namespace LayoutLint.Report.Console.Markup

def beginsTag (c : Char) : Bool :=
  ('a' ≤ c && c ≤ 'z') || c = '#' || c = '/' || c = '@'

def isBracket (c : Char) : Bool :=
  c = '[' || c = ']'

def tagBody? (t : Text) : Option Text :=
  let body := t.takeWhile (!isBracket ·)
  if body.head?.any beginsTag && (t.drop body.length).head? = some ']' then some body else none

def tagAt? (t : Text) : Option (Nat × Text) :=
  let slashes := (t.takeWhile (· = '\\')).length
  match t.drop slashes with
  | '[' :: rest => (tagBody? rest).map (slashes, ·)
  | _ => none

inductive Piece where
  | plain (t : Text)
  | tag (offset : Nat) (body : Text)
deriving DecidableEq

def plainPiece (t : Text) : List Piece :=
  if t = [] then [] else [.plain t]

/-- Each pair of backslashes shows one. One left over takes the tag literally. -/
def tagPieces (offset slashes : Nat) (body : Text) : List Piece :=
  plainPiece (List.replicate (slashes / 2) '\\') ++
    [if slashes % 2 = 0 then .tag (offset + slashes) body else .plain ('[' :: body ++ [']'])]

/-- Divides the text at `offset` into tags and what stands between them. `plain` holds what has
been read since the last tag, last character first, and the next `covered` characters belong to
that tag. -/
def pieces (offset covered : Nat) (plain : Text) : Text → List Piece
  | [] => plainPiece plain.reverse
  | c :: rest =>
    match covered with
    | covered + 1 => pieces (offset + 1) covered plain rest
    | 0 =>
      match tagAt? (c :: rest) with
      | some (slashes, body) =>
        plainPiece plain.reverse ++ tagPieces offset slashes body ++
          pieces (offset + 1) (slashes + body.length + 1) [] rest
      | none => pieces (offset + 1) 0 (c :: plain) rest

/-- The text with backslashes that make every tag literal, when the next `covered` characters are
those of a tag already written. -/
def escapeTags (covered : Nat) : Text → Text
  | [] => []
  | c :: rest =>
    match covered with
    | covered + 1 => escapeTags covered rest
    | 0 =>
      match tagAt? (c :: rest) with
      | some (slashes, body) =>
        List.replicate (2 * slashes + 1) '\\' ++ '[' :: body ++
          ']' :: escapeTags (slashes + body.length + 1) rest
      | none => c :: escapeTags 0 rest

/-- A backslash that ends the text alone is doubled, so that it takes no later tag literally. -/
def escape (t : Text) : Text :=
  let escaped := escapeTags 0 t
  match escaped.reverse with
  | '\\' :: '\\' :: _ => escaped
  | '\\' :: _ => escaped ++ ['\\']
  | _ => escaped

end LayoutLint.Report.Console.Markup
