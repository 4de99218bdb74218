import LayoutLint.Report.Console.Symbol.Names
import LayoutLint.Text.Blank
import LayoutLint.Text.LowerCase

/-! Codes that stand for a symbol. A code is written between colons and says what the symbol
shows. -/
namespace LayoutLint.Report.Console.Symbol

def numbered : List (String × String) :=
  [("100", "💯"), ("1234", "🔢"), ("1st_place_medal", "🥇"),
   ("2nd_place_medal", "🥈"), ("3rd_place_medal", "🥉"), ("8ball", "🎱")]

def entry (word : Text) : Text × Text :=
  (word.takeWhile (· ≠ '='), (word.dropWhile (· ≠ '=')).drop 1)

def entries : List (Text × Text) :=
  (Text.words listed.toList).map fun word => entry word.trim

/-- Endings that ask for one of the two forms of a symbol, and the selector of that form. -/
def forms : List (String × Char) :=
  [("-emoji", '\ufe0f'), ("-text", '\ufe0e')]

def named? (code : Text) : Option Text :=
  if code.head?.any Char.isDigit then
    (numbered.find? (·.1.toList = code)).map (·.2.toList)
  else (entries.find? (·.1 = code)).map (·.2)

def ofCode? (code : Text) : Option Text :=
  match forms.find? (·.1.toList.isSuffixOf code) with
  | some (ending, selector) =>
    (named? (Text.lowerCase (code.take (code.length - ending.length)))).map (· ++ [selector])
  | none => named? code.lowerCase

end LayoutLint.Report.Console.Symbol
