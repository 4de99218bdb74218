import LayoutLint.Report.Console.Line
import LayoutLint.Report.Console.StyleName
import LayoutLint.Text.Pattern
import LayoutLint.Text.Word

/-! Parts of a text that are shown in a style of their own: numbers, paths, brackets, quotations,
addresses and the like. Each part is labelled with the name of its style. -/
namespace LayoutLint.Report.Console.Highlight

open Pattern

def many (holds : Char → Bool) : Pattern String :=
  .chars false 0 none holds

def some1 (holds : Char → Bool) : Pattern String :=
  .chars false 1 none holds

def count (least most : Nat) (holds : Char → Bool) : Pattern String :=
  .chars false least (some most) holds

def isIn (chars : String) (c : Char) : Bool :=
  chars.toList.contains c

def oneOf (chars : String) : Pattern String :=
  char (isIn chars)

def isDigit (c : Char) : Bool :=
  '0' ≤ c && c ≤ '9'

def isHex (c : Char) : Bool :=
  (Text.hexDigit? c).isSome

def isWordEdge (before after : Option Char) : Bool :=
  before.any isWordChar != after.any isWordChar

def wordEdge : Pattern String :=
  .between isWordEdge

def notAfter (holds : Char → Bool) : Pattern String :=
  .between fun before _ => !before.any holds

/-- A body and a mark after it, `n` times, and the body once more. -/
def joined (n : Nat) (body mark : Pattern String) : Pattern String :=
  .seq (.times n (some n) (.seq body mark)) body

def tag : Pattern String :=
  all [.part "repr.tag_start" (oneOf "<"),
    .part "repr.tag_name" (many fun c => isWordChar c || isIn "-.:|" c),
    .part "repr.tag_contents" (many fun _ => true), .part "repr.tag_end" (oneOf ">")]

def assignment : Pattern String :=
  all [.part "repr.attrib_name" (count 1 50 isWordChar), oneOf "=",
    optional (.part "repr.attrib_value"
      (all [optional (oneOf "\""), some1 isWordChar, optional (oneOf "\"")]))]

def bracket : Pattern String :=
  .part "repr.brace" (oneOf "][\x7b\x7d()")

def address4 : Pattern String :=
  .part "repr.ipv4" (joined 3 (count 1 3 isDigit) (oneOf "."))

def address6 : Pattern String :=
  .part "repr.ipv6"
    (.seq (.times 1 (some 7) (all [count 1 4 isHex, oneOf ":", optional (oneOf ":")]))
      (count 1 4 isHex))

/-- A device number of `n + 1` bytes, or of four digits at a time in `m + 1` groups. -/
def device (n m : Nat) : Pattern String :=
  any (joined n (count 1 2 isHex) (oneOf "-"))
    [joined n (count 1 2 isHex) (oneOf ":"), joined m (count 4 4 isHex) (oneOf ".")]

def identifier : Pattern String :=
  .part "repr.uuid"
    (all [count 8 8 isHex, oneOf "-", count 4 4 isHex, oneOf "-", count 4 4 isHex, oneOf "-",
      count 4 4 isHex, oneOf "-", count 12 12 isHex])

def call : Pattern String :=
  .seq (.part "repr.call" (.chars true 0 none fun c => isWordChar c || c = '.')) (oneOf "(")

def wholeWord (label word : String) : Pattern String :=
  all [wordEdge, .part label (exactly word), wordEdge]

def exponent (lazy : Bool) : Pattern String :=
  optional (all [oneOf "e", optional (oneOf "-+"), .chars lazy 1 none isDecimalDigit])

def digits : Pattern String :=
  all [some1 isDigit, optional (oneOf "."), many isDigit]

def complex : Pattern String :=
  .part "repr.number_complex"
    (all [notAfter isWordChar, optional (oneOf "-"), digits, exponent true,
      optional (all [oneOf "-+", digits, exponent false]), oneOf "j"])

def number : Pattern String :=
  .part "repr.number"
    (any (all [notAfter isWordChar, optional (oneOf "-"), digits, exponent true, wordEdge])
      [.seq (exactly "0x") (many isHex)])

def isPathChar (c : Char) : Bool :=
  isWordChar c || isIn "-._+" c

def path : Pattern String :=
  .seq
    (.part "repr.path"
      (all [.between fun before after => !isWordEdge before after,
        .times 0 none (.seq (oneOf "/") (some1 isPathChar)), oneOf "/"]))
    (.part "repr.filename" (many isPathChar))

/-- A text between two equal marks, the second of which has no backslash before it. -/
def between (mark : String) : Pattern String :=
  all [optional (oneOf "b"), exactly mark, .chars true 0 none (· ≠ '\n'), notAfter (· = '\\'),
    exactly mark]

def quotation : Pattern String :=
  .seq (notAfter fun c => c = '\\' || isWordChar c)
    (.part "repr.str" (any (between "'''") [between "'", between "\"\"\"", between "\""]))

def link : Pattern String :=
  .part "repr.url"
    (all [any (exactly "file") [exactly "https", exactly "http", exactly "ws", exactly "wss"],
      exactly "://",
      many fun c => (c.toNat < 0x80 && c.isAlphanum) || isIn "-$_+!`(),.?/;:&=%#~@" c])

def literal : Pattern String :=
  any address4
    [address6, .part "repr.eui64" (device 7 3), .part "repr.eui48" (device 5 2), identifier, call,
     wholeWord "repr.bool_true" "True", wholeWord "repr.bool_false" "False",
     wholeWord "repr.none" "None", .part "repr.ellipsis" (exactly "..."), complex, number, path,
     quotation, link]

/-- The marks of the parts of a text. Empty parts get none. -/
def marks (t : Text) : List Mark :=
  ([tag, assignment, bracket, literal].flatMap (·.parts t)).filterMap fun p =>
    if p.start < p.stop then some ⟨p.start, p.stop, Style.ofName p.label.toList⟩ else none

def apply (l : Line) : Line :=
  { l with marks := marks l.text ++ l.marks }

end LayoutLint.Report.Console.Highlight
