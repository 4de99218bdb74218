import LayoutLint.Text.Basic
import LayoutLint.Text.Printable

/-! Text between quotes, on one line and in printable characters. A single quote is the
delimiter unless the text holds one and holds no double quote. -/
namespace LayoutLint.Text

def delimiter (t : Text) : Char :=
  if t.contains '\'' && !t.contains '"' then '"' else '\''

/-- Two, four or eight hexadecimal digits, the fewest that hold the code point. -/
def codePointEscape (c : Char) : Text :=
  if c.toNat < 0x100 then '\\' :: 'x' :: hex 2 c.toNat
  else if c.toNat < 0x10000 then '\\' :: 'u' :: hex 4 c.toNat
  else '\\' :: 'U' :: hex 8 c.toNat

def quotedChar (delimiter c : Char) : Text :=
  if c = delimiter || c = '\\' then ['\\', c]
  else if c = '\n' then ['\\', 'n']
  else if c = '\r' then ['\\', 'r']
  else if c = '\t' then ['\\', 't']
  else if isPrintable c then [c]
  else codePointEscape c

def quoted (t : Text) : Text :=
  let q := t.delimiter
  q :: t.flatMap (quotedChar q) ++ [q]

example : quoted "it's\n".toList = "\"it's\\n\"".toList := by decide
example : quoted ['\'', '"', '\u2028'] = "'\\'\"\\u2028'".toList := by decide +kernel

end LayoutLint.Text
