import LayoutLint.Json.Basic

/-! Reading JSON text. Every function returns what it read together with the rest of the text,
and nothing when the text is not of the form it reads. -/
namespace LayoutLint.Json.Reader

def isGap (c : Char) : Bool :=
  c = ' ' || c = '\n' || c = '\r' || c = '\t'

def skipGap (t : Text) : Text :=
  t.dropWhile isGap

def shortEscape? : Char → Option Nat
  | '"' => some 0x22
  | '\\' => some 0x5C
  | '/' => some 0x2F
  | 'b' => some 0x08
  | 'f' => some 0x0C
  | 'n' => some 0x0A
  | 'r' => some 0x0D
  | 't' => some 0x09
  | _ => none

/-- The units of a string after its opening quote: a code point for each character that stands
for itself, a UTF-16 unit for each escape. -/
def units : Text → Option (List Nat × Text)
  | [] => none
  | '"' :: rest => some ([], rest)
  | '\\' :: 'u' :: a :: b :: c :: d :: rest => do
    let unit ← Text.hexValue? [a, b, c, d]
    let (more, rest) ← units rest
    return (unit :: more, rest)
  | '\\' :: e :: rest => do
    let unit ← shortEscape? e
    let (more, rest) ← units rest
    return (unit :: more, rest)
  | c :: rest =>
    if c < ' ' then none else do
      let (more, rest) ← units rest
      return (c.toNat :: more, rest)

def isHigh (unit : Nat) : Bool := 0xD800 ≤ unit && unit < 0xDC00

def isLow (unit : Nat) : Bool := 0xDC00 ≤ unit && unit < 0xE000

/-- Joins pairs of surrogates. A surrogate on its own stands for no character. -/
def charsOfUnits? : List Nat → Option Text
  | [] => some []
  | high :: low :: rest =>
    if isHigh high && isLow low then
      (charsOfUnits? rest).map
        (Char.ofNat (0x10000 + (high - 0xD800) * 0x400 + (low - 0xDC00)) :: ·)
    else if isHigh high || isLow high then none
    else (charsOfUnits? (low :: rest)).map (Char.ofNat high :: ·)
  | [unit] => if isHigh unit || isLow unit then none else some [Char.ofNat unit]

def string (t : Text) : Option (Text × Text) := do
  let (read, rest) ← units t
  let s ← charsOfUnits? read
  return (s, rest)

def digits (t : Text) : Option (Text × Text) :=
  match t.takeWhile Char.isDigit with
  | [] => none
  | read => some (read, t.dropWhile Char.isDigit)

def value (read : Text) : Nat := Nat.ofDigitChars 10 read 0

def fraction : Text → Option (Option Text × Text)
  | '.' :: rest => do
    let (read, rest) ← digits rest
    return (some read, rest)
  | t => some (none, t)

def exponentDigits : Text → Option (Int × Text)
  | '-' :: rest => (digits rest).map fun (read, rest) => (-(value read : Int), rest)
  | '+' :: rest => (digits rest).map fun (read, rest) => ((value read : Int), rest)
  | t => (digits t).map fun (read, rest) => ((value read : Int), rest)

def exponent : Text → Option (Option Int × Text)
  | 'e' :: rest => (exponentDigits rest).map fun (e, rest) => (some e, rest)
  | 'E' :: rest => (exponentDigits rest).map fun (e, rest) => (some e, rest)
  | t => some (none, t)

/-- A number without its sign. It is whole when it has neither a point nor an exponent, and no
zero stands in front of another digit. -/
def magnitude (negative : Bool) (t : Text) : Option (Json × Text) := do
  let (whole, t) ← digits t
  guard (whole.head? ≠ some '0' ∨ whole = ['0'])
  let (places, t) ← fraction t
  let (e, t) ← exponent t
  if places.isNone && e.isNone then
    return (.int (if negative then -(value whole : Int) else value whole), t)
  else
    let places := places.getD []
    return (.decimal ⟨negative, value (whole ++ places), e.getD 0 - places.length⟩, t)

def word (w : String) (v : Json) (t : Text) : Option (Json × Text) :=
  if w.toList.isPrefixOf t then some (v, t.drop w.length) else none

def infinity (negative : Bool) (t : Text) : Option (Json × Text) :=
  word "Infinity" (.decimal (.infinite negative)) t

def number : Text → Option (Json × Text)
  | '-' :: rest => infinity true rest <|> magnitude true rest
  | t => infinity false t <|> magnitude false t

def scalar (t : Text) : Option (Json × Text) :=
  match t with
  | '"' :: rest => (string rest).map fun (s, rest) => (.str s, rest)
  | 'n' :: _ => word "null" .null t
  | 't' :: _ => word "true" (.bool true) t
  | 'f' :: _ => word "false" (.bool false) t
  | 'N' :: _ => word "NaN" .nan t
  | _ => number t

mutual

/-- A value at the start of a text without a gap in front. The first argument bounds the steps. -/
def element : Nat → Text → Option (Json × Text)
  | 0, _ => none
  | n + 1, '[' :: rest =>
    match skipGap rest with
    | ']' :: rest => some (.arr [], rest)
    | t => (items n t).map fun (vs, rest) => (.arr vs, rest)
  | n + 1, '\x7b' :: rest =>
    match skipGap rest with
    | '\x7d' :: rest => some (.obj [], rest)
    | t => (fields n t).map fun (fs, rest) => (.obj fs, rest)
  | _ + 1, t => scalar t

def items : Nat → Text → Option (List Json × Text)
  | 0, _ => none
  | n + 1, t => do
    let (v, t) ← element n t
    match skipGap t with
    | ']' :: rest => return ([v], rest)
    | ',' :: rest =>
      let (vs, rest) ← items n (skipGap rest)
      return (v :: vs, rest)
    | _ => none

def fields : Nat → Text → Option (List (Text × Json) × Text)
  | 0, _ => none
  | n + 1, '"' :: t => do
    let (name, t) ← string t
    match skipGap t with
    | ':' :: t =>
      let (v, t) ← element n (skipGap t)
      match skipGap t with
      | '\x7d' :: rest => return ([(name, v)], rest)
      | ',' :: rest =>
        let (fs, rest) ← fields n (skipGap rest)
        return ((name, v) :: fs, rest)
      | _ => none
    | _ => none
  | _ + 1, _ => none

end

end Reader

/-- The value that the whole text writes. Two steps for each character are enough. -/
def read? (t : Text) : Option Json :=
  match Reader.element (2 * t.length + 1) (Reader.skipGap t) with
  | some (v, rest) => if Reader.skipGap rest = [] then some v else none
  | none => none

end LayoutLint.Json
