import LayoutLint.Fault
import LayoutLint.Report.Console.Line
import LayoutLint.Report.Console.Markup.Parameter
import LayoutLint.Report.Console.Markup.Piece
import LayoutLint.Report.Console.StyleName
import LayoutLint.Report.Console.Symbol

/-! Text with tags. A tag opens a style until a slash before its name closes it. Between tags, a
code between colons stands for a symbol. -/
namespace LayoutLint.Report.Console.Markup

def codeAt? : Text → Option Text
  | ':' :: rest =>
    let code := rest.takeWhile fun c => c ≠ ':' && !isBlank c
    if (rest.drop code.length).head? = some ':' then some code else none
  | _ => none

/-- Replaces codes by symbols, when the next `covered` characters are those of a code already
written. -/
def withSymbols (covered : Nat) : Text → Text
  | [] => []
  | c :: rest =>
    match covered with
    | covered + 1 => withSymbols covered rest
    | 0 =>
      match codeAt? (c :: rest) with
      | some code =>
        (Symbol.ofCode? code).getD (':' :: code ++ [':']) ++ withSymbols (code.length + 1) rest
      | none => c :: withSymbols 0 rest

def withoutBracketEscapes : Text → Text
  | [] => []
  | '\\' :: '[' :: rest => '[' :: withoutBracketEscapes rest
  | c :: rest => c :: withoutBracketEscapes rest

def isUnseen (c : Char) : Bool :=
  c = '\x07' || c = '\x08' || c = '\x0b' || c = '\x0c' || c = '\r'

def shown (t : Text) : Text :=
  (withSymbols 0 (withoutBracketEscapes t)).filter (!isUnseen ·)

/-- The name that a tag is closed by: the style it describes, in its own words, or else the name in
small letters. -/
def normalName (name : Text) : Except Fault Text :=
  match Style.ofText name with
  | .ok s => .ok s.text
  | .error .unknown => .ok name.trim.lowerCase
  | .error (.unreadable f) => .error f

def nameOf (body : Text) : Text :=
  body.takeWhile (· ≠ '=')

def parameterOf? (body : Text) : Option Text :=
  (body.dropWhile (· ≠ '=')).tail?

structure Tag where
  name : Text
  parameter : Option Text
  start : Nat

namespace Tag

def look (tag : Tag) : Text :=
  tag.name ++ (tag.parameter.map (' ' :: ·)).getD []

def mark (tag : Tag) (stop : Nat) : Mark :=
  ⟨tag.start, stop, Style.ofName tag.look⟩

/-- The parameter of a tag whose name begins with an at sign has to be understood when the tag is
closed. -/
def check (tag : Tag) : Except Fault Unit :=
  match tag.name, tag.parameter with
  | '@' :: _, some (c :: rest) => Parameter.check (c :: rest)
  | _, _ => .ok ()

end Tag

/-- A text shown so far. The tags that are open and those closed, with their ends, stand last one
first. -/
structure Draft where
  text : Text := []
  tags : List Tag := []
  closed : List (Tag × Nat) := []

namespace Draft

def opened (d : Draft) (body : Text) : Except Fault Draft := do
  let name ← normalName (nameOf body)
  return { d with tags := ⟨name, parameterOf? body, d.text.length⟩ :: d.tags }

def withClosed (d : Draft) (tag : Tag) (tags : List Tag) : Except Fault Draft := do
  tag.check
  return { d with tags, closed := (tag, d.text.length) :: d.closed }

def close (d : Draft) (offset : Nat) (body : Text) : Except Fault Draft :=
  match (nameOf (body.drop 1)).trim with
  | [] =>
    match d.tags with
    | [] => .error (.nothingToClose offset)
    | tag :: rest => d.withClosed tag rest
  | given => do
    let name ← normalName given
    match d.tags.find? (·.name = name) with
    | none => .error (.unmatchedClosingTag body offset)
    | some tag => d.withClosed tag (d.tags.eraseP (·.name = name))

def add (d : Draft) : Piece → Except Fault Draft
  | .plain t => .ok { d with text := d.text ++ shown t }
  | .tag offset body => if body.head? = some '/' then d.close offset body else d.opened body

/-- Tags still open reach the end. Marks are put in the order of their starts, and of those with
one start the last closed comes first. -/
def line (d : Draft) : Line :=
  let ended := (d.tags.map (·, d.text.length)).reverse ++ d.closed
  ⟨d.text, (ended.map fun (tag, stop) => tag.mark stop).mergeSort (·.start ≤ ·.start)⟩

end Draft

def line (t : Text) : Except Fault Line :=
  ((pieces 0 0 [] t).foldlM Draft.add {}).map Draft.line

end LayoutLint.Report.Console.Markup
