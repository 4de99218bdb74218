import LayoutLint.Expression.Numeral
import LayoutLint.Text.Name
import LayoutLint.Text.Printable

/-! The words, numbers, strings and signs of an expression. -/
namespace LayoutLint.Expression

/-- What a token is. A string has the letters before its quotes, in small letters, the number of
quotes before its text, and the text. -/
inductive Lexeme where
  | name (word : Text)
  | keyword (word : String)
  | number (value : Number)
  | string (marks : Text) (quotes : Nat) (body : Text)
  | sign (text : String)
  | lineEnd
  | indent
  | dedent
  | finish
deriving DecidableEq

/-- A line and a column, counted in bytes. -/
structure Place where
  line : Nat
  column : Nat

def Place.next (p : Place) (c : Char) : Place :=
  if c = '\n' then ⟨p.line + 1, 0⟩ else ⟨p.line, p.column + c.utf8Size⟩

structure Token where
  lexeme : Lexeme
  start : Place
  stop : Place
  depth : Nat

namespace Lexeme

def keywords : List String :=
  ["False", "None", "True", "and", "as", "assert", "async", "await", "break", "class", "continue",
   "def", "del", "elif", "else", "except", "finally", "for", "from", "global", "if", "import",
   "in", "is", "lambda", "nonlocal", "not", "or", "pass", "raise", "return", "try", "while",
   "with", "yield"]

/-- Signs of more than one character. One that begins with another stands before it. -/
def longSigns : List String :=
  ["**=", "//=", ">>=", "<<=", "...", "!=", "%=", "&=", "**", "*=", "+=", "-=", "->", "//", "/=",
   ":=", "<<", "<=", "<>", "==", ">=", ">>", "@=", "^=", "|="]

def stringMarks : List Text :=
  ["r", "b", "u", "f", "br", "rb", "fr", "rf"].map String.toList

/-- The number of characters up to the closing quotes and with them. A backslash hides the
character behind it. -/
def lengthOfString (quotes : Text) (long : Bool) : Text → Option Nat
  | [] => none
  | '\\' :: _ :: rest => (lengthOfString quotes long rest).map (· + 2)
  | c :: rest =>
    if quotes.isPrefixOf (c :: rest) then some quotes.length
    else if c = '\n' && !long then none
    else (lengthOfString quotes long rest).map (· + 1)

def linesOfString (long : Bool) : Text → Nat
  | [] => 0
  | '\\' :: '\n' :: rest => linesOfString long rest + 1
  | '\\' :: _ :: rest => linesOfString long rest
  | '\n' :: rest => if long then linesOfString long rest + 1 else 0
  | _ :: rest => linesOfString long rest

def stringAt (line : Nat) (marks : Text) (quote : Char) (t : Text) : Except Slip (Lexeme × Nat) :=
  let long := [quote, quote, quote].isPrefixOf t
  let quotes := if long then [quote, quote, quote] else [quote]
  let inner := t.drop quotes.length
  match lengthOfString quotes long inner with
  | some n =>
    .ok (.string marks quotes.length (inner.take (n - quotes.length)), n + quotes.length)
  | none =>
    let last := line + linesOfString long inner
    .error (if long then .openLongString last else .openString last)

def isQuote (c : Char) : Bool := c = '\'' || c = '"'

/-- What is wrong with a word that is no name: the first character that may not stand there. -/
def badNameChar? : Text → Option Char
  | [] => none
  | c :: rest => if isNameStart c then rest.find? (!isNameChar ·) else some c

def wordAt (line : Nat) (t : Text) : Except Slip (Lexeme × Nat) := do
  let word := t.takeWhile joinsName
  let marks := word.map Char.toLower
  match t.drop word.length with
  | c :: rest =>
    if isQuote c && stringMarks.contains marks then
      let (lexeme, n) ← stringAt line marks c (c :: rest)
      return (lexeme, word.length + n)
  | [] => pure ()
  match badNameChar? word with
  | some c => throw (if isPrintable c then .badCharacter c else .hiddenCharacter c)
  | none =>
    let w := String.ofList word
    return (if keywords.contains w then .keyword w else .name word, word.length)

/-- The characters that a number and a name behind it can be made of. A sign is among them behind
the letter of an exponent. -/
def numberRun (t : Text) : Text :=
  let run (t : Text) : Text := t.takeWhile fun c => joinsName c || c = '.'
  let first := run t
  match first.getLast?, t.drop first.length with
  | some e, c :: rest =>
    if (e = 'e' || e = 'E') && (c = '+' || c = '-') then first ++ c :: run rest else first
  | _, _ => first

def numberAt (t : Text) : Except Slip (Lexeme × Nat) := do
  let t := numberRun t
  let n := t.length - (← afterNumber t).length
  return (.number (.ofText (t.take n)), n)

/-- Whether the end of the token shows only in what follows. -/
def looksAhead : Lexeme → Bool
  | .string .. => false
  | .sign text => text.length < 3
  | _ => true

def ofChar (line : Nat) (c : Char) (rest : Text) : Except Slip (Lexeme × Nat) :=
  let t := c :: rest
  if c.isDigit || c = '.' && rest.head?.any Char.isDigit then numberAt t
  else if joinsName c then wordAt line t
  else if isQuote c then stringAt line [] c t
  else
    match longSigns.find? (·.toList.isPrefixOf t) with
    | some text => .ok (.sign text, text.length)
    | none => if isPrintable c then .ok (.sign c.toString, 1) else .error (.hiddenCharacter c)

end Lexeme

end LayoutLint.Expression
