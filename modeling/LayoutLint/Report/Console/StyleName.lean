import LayoutLint.Report.Console.Style
import LayoutLint.Report.Console.Theme
import LayoutLint.Text.Blank
import LayoutLint.Text.LowerCase

/-! Styles in words. A word is an attribute, which `not` takes away, or a colour, which `on`
makes the background. -/
namespace LayoutLint.Report.Console

def Attribute.names : Attribute → List String
  | bold => ["bold", "b"]
  | dim => ["dim", "d"]
  | italic => ["italic", "i"]
  | underline => ["underline", "u"]
  | blink => ["blink"]
  | fastBlink => ["blink2"]
  | reverse => ["reverse", "r"]
  | conceal => ["conceal", "c"]
  | strike => ["strike", "s"]
  | doubleUnderline => ["underline2", "uu"]
  | frame => ["frame"]
  | encircle => ["encircle"]
  | overline => ["overline", "o"]

def Attribute.name (a : Attribute) : String :=
  a.names.headD ""

def Attribute.ofWord? (word : Text) : Option Attribute :=
  all.find? fun a => a.names.any (·.toList = word)

namespace Style

def withAttribute (s : Style) (a : Attribute) (set : Bool) : Style :=
  onto { attributes := [(a, set)] } s

/-- What `words` add to a style, if all of them are understood. A later word counts. -/
def withWords (s : Style) : List Text → Except Misread Style
  | [] => .ok s
  | word :: rest =>
    if word.lowerCase = "on".toList then
      match rest with
      | [] => .error .unknown
      | colour :: rest => do
        let c ← Colour.ofWord colour.lowerCase
        withWords { s with background := some c } rest
    else if word.lowerCase = "not".toList then
      match rest with
      | [] => .error .unknown
      | name :: rest =>
        match Attribute.ofWord? name with
        | some a => withWords (s.withAttribute a false) rest
        | none => .error .unknown
    else if word.lowerCase = "link".toList then
      match rest with
      | [] => .error .unknown
      | address :: rest => withWords { s with link := some address } rest
    else
      match Attribute.ofWord? word.lowerCase with
      | some a => withWords (s.withAttribute a true) rest
      | none => do
        let c ← Colour.ofWord word.lowerCase
        withWords { s with colour := some c } rest

def ofText (t : Text) : Except Misread Style :=
  if t.trim = "none".toList then .ok plain
  else plain.withWords (t.words.map Text.trim)

def attributeWords : Attribute × Bool → List Text
  | (a, true) => [a.name.toList]
  | (a, false) => ["not".toList, a.name.toList]

def words (s : Style) : List Text :=
  s.attributes.flatMap attributeWords ++ s.colour.toList.map (·.name) ++
    s.background.toList.flatMap (["on".toList, ·.name]) ++
    s.link.toList.flatMap (["link".toList, ·])

def text (s : Style) : Text :=
  if s.words = [] then "none".toList else [' '].intercalate s.words

def wordsOf? (name : Text) : Option Text :=
  (theme.find? (·.1.toList = name)).map (·.2.toList)

/-- The style that a text asks for by name or in words. A text that is not understood asks for
nothing. -/
def ofName (t : Text) : Except Fault Style :=
  match ofText ((wordsOf? t).getD t) with
  | .ok s => .ok s
  | .error .unknown => .ok plain
  | .error (.unreadable f) => .error f

end Style

end LayoutLint.Report.Console
