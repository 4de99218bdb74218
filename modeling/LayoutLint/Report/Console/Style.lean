import LayoutLint.Report.Console.Colour

/-! How text looks on a terminal: attributes that are set, a colour and a background, and the
escape codes that switch them on. -/
namespace LayoutLint.Report.Console

inductive Attribute where
  | bold
  | dim
  | italic
  | underline
  | blink
  | fastBlink
  | reverse
  | conceal
  | strike
  | doubleUnderline
  | frame
  | encircle
  | overline
deriving DecidableEq

namespace Attribute

def all : List Attribute :=
  [bold, dim, italic, underline, blink, fastBlink, reverse, conceal, strike, doubleUnderline,
   frame, encircle, overline]

def code : Attribute → Nat
  | bold => 1
  | dim => 2
  | italic => 3
  | underline => 4
  | blink => 5
  | fastBlink => 6
  | reverse => 7
  | conceal => 8
  | strike => 9
  | doubleUnderline => 21
  | frame => 51
  | encircle => 52
  | overline => 53

end Attribute

/-- An attribute that is not listed is left as it is. Those listed stand in the order of their
codes. A link leads to an address and has no look of its own. -/
structure Style where
  attributes : List (Attribute × Bool) := []
  colour : Option Colour := none
  background : Option Colour := none
  link : Option Text := none
deriving DecidableEq

namespace Style

def plain : Style := {}

def bold : Style := { attributes := [(.bold, true)] }

def dim : Style := { attributes := [(.dim, true)] }

def coloured (name : String) (number : Nat) : Style :=
  { colour := some ⟨name.toList, some number⟩ }

def red : Style := coloured "red" 1

def green : Style := coloured "green" 2

def yellow : Style := coloured "yellow" 3

def cyan : Style := coloured "cyan" 6

def brightGreen : Style := coloured "bright_green" 10

/-- Both styles at once. Where they differ, `s` counts. -/
def onto (s base : Style) : Style where
  attributes := Attribute.all.filterMap fun a =>
    (s.attributes.lookup a <|> base.attributes.lookup a).map (a, ·)
  colour := s.colour <|> base.colour
  background := s.background <|> base.background
  link := s.link <|> base.link

def codes (s : Style) : List Nat :=
  (s.attributes.filter (·.2)).map (·.1.code) ++ s.colour.toList.flatMap (Colour.codes false) ++
    s.background.toList.flatMap (Colour.codes true)

/-- A text between the code that starts the style and the code that ends it. Neither is written
for an empty text or a style without codes. -/
def paint (s : Style) (t : Text) : Text :=
  if t = [] || s.codes = [] then t
  else
    '\x1b' :: '[' :: [';'].intercalate (s.codes.map Text.ofNat) ++ 'm' :: t ++ "\x1b[0m".toList

@[simp] theorem codes_plain : plain.codes = [] := rfl

@[simp] theorem paint_plain (t : Text) : plain.paint t = t := by
  simp [paint]

end Style

end LayoutLint.Report.Console
