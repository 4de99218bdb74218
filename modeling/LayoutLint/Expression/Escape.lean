import LayoutLint.Expression.Slip
import LayoutLint.Text.CharacterName

/-! Escapes in strings. A backslash and what follows it stand for one character. -/
namespace LayoutLint.Expression.Escape

def isPlain (c : Char) : Bool := c.toNat < 0x80

def codeEscape (c : Char) : Text :=
  '\\' :: 'U' :: Text.hex 8 c.toNat

/-- The form in which positions are counted. Characters beyond the first 128 are written by their
codes, and so is a backslash in front of one or at the end. -/
def expanded : Text → Text
  | [] => []
  | ['\\'] => "\\u005c".toList
  | '\\' :: c :: rest =>
    (if isPlain c then ['\\', c] else "\\u005c".toList ++ codeEscape c) ++ expanded rest
  | c :: rest => (if isPlain c then [c] else codeEscape c) ++ expanded rest

def isHexDigit (c : Char) : Bool :=
  (Text.hexDigit? c).isSome

def codeLength (letter : Char) (digits : Nat) (t : Text) : Except (EscapeSlip × Nat) Nat :=
  let read := (t.take digits).takeWhile isHexDigit
  if read.length < digits then .error (.truncated letter digits, read.length + 1)
  else if (Text.hexValue? read).any (0x10FFFF < ·) then .error (.outOfRange, digits + 1)
  else .ok (digits + 1)

def nameLength (t : Text) : Except (EscapeSlip × Nat) Nat :=
  match t with
  | '\x7b' :: rest =>
    let name := rest.takeWhile (· ≠ '\x7d')
    if name.length = rest.length then .error (.malformedName, rest.length + 2)
    else if name = [] then .error (.malformedName, 2)
    else if isCharacterName name then .ok (name.length + 3)
    else .error (.unknownName, name.length + 3)
  | _ => .error (.malformedName, 1)

def escapeLength (t : Text) : Except (EscapeSlip × Nat) Nat :=
  match t with
  | 'x' :: rest => codeLength 'x' 2 rest
  | 'u' :: rest => codeLength 'u' 4 rest
  | 'U' :: rest => codeLength 'U' 8 rest
  | 'N' :: rest => nameLength rest
  | _ => .ok 1

/-- Checks a text from a position on, when the next `covered` characters belong to an escape. -/
def checkFrom (position covered : Nat) : Text → Except Slip Unit
  | [] => .ok ()
  | c :: rest =>
    match covered with
    | covered + 1 => checkFrom (position + 1) covered rest
    | 0 =>
      if c = '\\' then
        match escapeLength rest with
        | .ok length => checkFrom (position + 1) length rest
        | .error (slip, length) => .error (.badEscape position (position + length) slip)
      else checkFrom (position + 1) 0 rest

def check (t : Text) : Except Slip Unit :=
  if t.contains '\\' then checkFrom 0 0 (expanded t) else .ok ()

/-- Checks a string of bytes, where an escape may only give a code of two digits. -/
def checkBytesFrom (position : Nat) : Text → Except Slip Unit
  | [] => .ok ()
  | '\\' :: 'x' :: rest =>
    if (rest.take 2).length = 2 && (rest.take 2).all isHexDigit then
      checkBytesFrom (position + 2) rest
    else .error (.badByteEscape position)
  | '\\' :: _ :: rest => checkBytesFrom (position + 2) rest
  | _ :: rest => checkBytesFrom (position + 1) rest

end LayoutLint.Expression.Escape
