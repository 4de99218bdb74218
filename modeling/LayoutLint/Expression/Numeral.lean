import LayoutLint.Expression.Slip

/-! Numbers in expressions. Every function takes the text from the point that it has reached and
returns the rest behind what it reads. -/
namespace LayoutLint.Expression

/-- Whether a character is read as part of a name. Beyond the first 128 characters all are, and
the name is refused later if it holds one that no name may hold. -/
def joinsName (c : Char) : Bool :=
  c.isAlphanum || c = '_' || 128 ≤ c.toNat

namespace Numeral

def mayFollow (t : Text) : Bool :=
  ["if", "in", "is"].any (·.toList.isPrefixOf t) ||
    ["and", "else", "for", "not", "or"].any fun w =>
      w.toList.isPrefixOf t && !(t.drop w.length).head?.any joinsName

def ended (numeral : Numeral) (t : Text) : Except Slip Text :=
  if t.head?.any joinsName && !mayFollow t then
    .error (.badNumeral numeral)
  else .ok t

def digitMissing (numeral : Numeral) (t : Text) : Slip :=
  match t with
  | c :: _ => if c.isDigit then .badDigit c numeral else .badNumeral numeral
  | [] => .badNumeral numeral

def digits (numeral : Numeral) (isDigit : Char → Bool) : Text → Except Slip Text
  | [] => .ok []
  | c :: rest =>
    if isDigit c then digits numeral isDigit rest
    else if c ≠ '_' then .ok (c :: rest)
    else if rest.head?.any isDigit then digits numeral isDigit rest
    else .error (digitMissing numeral rest)

def decimals : Text → Except Slip Text :=
  digits .decimal Char.isDigit

def unit (t : Text) : Except Slip Text :=
  match t with
  | 'j' :: rest => ended .imaginary rest
  | 'J' :: rest => ended .imaginary rest
  | _ => ended .decimal t

def exponentDigits (t : Text) : Option (Except Slip Text) :=
  match t with
  | [] => none
  | c :: rest =>
    if c = '+' || c = '-' then
      if rest.head?.any Char.isDigit then some (decimals rest)
      else some (.error (.badNumeral .decimal))
    else if c.isDigit then some (decimals t)
    else none

def exponent (t : Text) : Except Slip Text :=
  match t with
  | [] => .ok []
  | c :: rest =>
    if c = 'e' || c = 'E' then
      match exponentDigits rest with
      | some read => read >>= unit
      | none => ended .decimal t
    else unit t

def fraction (t : Text) : Except Slip Text :=
  if t.head?.any Char.isDigit then decimals t >>= exponent else exponent t

def based (numeral : Numeral) (isDigit : Char → Bool) (t : Text) : Except Slip Text := do
  if !t.head?.any (fun c => isDigit c || c = '_') then throw (digitMissing numeral t)
  let rest ← digits numeral isDigit t
  if rest.head?.any Char.isDigit then throw (digitMissing numeral rest)
  ended numeral rest

def hasValue (read : Text) : Bool :=
  read.any fun c => '1' ≤ c && c ≤ '9'

/-- A whole number other than zero does not begin with a zero. -/
def plain (t : Text) : Except Slip Text := do
  let rest ← decimals t
  match rest with
  | '.' :: rest => fraction rest
  | _ =>
    if rest.head?.any ("eEjJ".toList.contains ·) then exponent rest
    else if t.head? = some '0' && hasValue (t.take (t.length - rest.length)) then
      throw .leadingZeros
    else ended .decimal rest

end Numeral

def Number.valueOf (base : Nat) (digits : Text) : Nat :=
  digits.foldl (fun n c => match Text.hexDigit? c with | some d => base * n + d | none => n) 0

def Number.ofText (t : Text) : Number :=
  match t with
  | '0' :: 'x' :: rest | '0' :: 'X' :: rest => .whole (valueOf 16 rest)
  | '0' :: 'o' :: rest | '0' :: 'O' :: rest => .whole (valueOf 8 rest)
  | '0' :: 'b' :: rest | '0' :: 'B' :: rest => .whole (valueOf 2 rest)
  | _ =>
    if t.getLast?.any fun c => c = 'j' || c = 'J' then .imaginary
    else if t.all fun c => c.isDigit || c = '_' then .whole (valueOf 10 t)
    else .real

def afterNumber (t : Text) : Except Slip Text :=
  match t with
  | '.' :: rest => Numeral.fraction rest
  | '0' :: c :: rest =>
    match c.toLower with
    | 'x' => Numeral.based .hexadecimal (Text.hexDigit? · |>.isSome) rest
    | 'o' => Numeral.based .octal (fun c => '0' ≤ c && c ≤ '7') rest
    | 'b' => Numeral.based .binary (fun c => c = '0' || c = '1') rest
    | _ => Numeral.plain t
  | _ => Numeral.plain t

end LayoutLint.Expression
