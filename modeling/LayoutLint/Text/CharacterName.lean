import LayoutLint.Text.Basic
import LayoutLint.Text.CharacterName.Table
import LayoutLint.Text.Ranges

/-! Which names are names of characters. Most are listed; ideographs are named by their codes and
syllables by their sounds. -/
namespace LayoutLint

namespace CharacterName

/-- Where a list of names is read: the length of the name so far, how much of it agrees with the
name looked for, whether the letters it shares are being counted, and whether the name was met. -/
structure Search where
  length : Nat := 0
  agreed : Nat := 0
  counting : Bool := true
  found : Bool := false

namespace Search

def isMatch (wanted : Array Char) (s : Search) : Bool :=
  s.agreed = s.length && s.length = wanted.size

def count (wanted : Array Char) (s : Search) (n : Nat) : Search :=
  if s.counting then { s with length := s.length + n }
  else { s with length := n, counting := true, found := s.found || s.isMatch wanted }

/-- Reads a letter of a name. Of what agreed with the name before, only the shared part counts. -/
def letter (wanted : Array Char) (s : Search) (c : Char) : Search :=
  let agreed := if s.counting then min s.agreed s.length else s.agreed
  { s with
    length := s.length + 1
    agreed := if agreed = s.length && wanted[s.length]? = some c then s.length + 1 else agreed
    counting := false }

def step (wanted : Array Char) (s : Search) (c : Char) : Search :=
  if c.isLower then s.count wanted (c.toNat - 'a'.toNat) else s.letter wanted c

end Search

def isListed (wanted : Array Char) : Bool :=
  let last := characterNames.foldl (fun s line => line.foldl (Search.step wanted) s) {}
  last.found || last.isMatch wanted

def ideographs : Ranges :=
  [(0x3400, 0x4DBF), (0x4E00, 0x9FFF), (0x20000, 0x2A6DF), (0x2A700, 0x2B738), (0x2B740, 0x2B81D),
   (0x2B820, 0x2CEA1), (0x2CEB0, 0x2EBE0), (0x30000, 0x3134A)]

def isCapitalHex (c : Char) : Bool :=
  c.isDigit || 'A' ≤ c && c ≤ 'F'

def after? (beginning : String) (t : Text) : Option Text :=
  if beginning.toList.isPrefixOf t then some (t.drop beginning.length) else none

def isIdeograph (t : Text) : Bool :=
  (after? "CJK UNIFIED IDEOGRAPH-" t).any fun code =>
    (code.length = 4 || code.length = 5) && code.all isCapitalHex &&
      (Text.hexValue? code).any ideographs.holds

def firstSounds : List String :=
  ["", "G", "GG", "N", "D", "DD", "R", "M", "B", "BB", "S", "SS", "J", "JJ", "C", "K", "T", "P",
   "H"]

def middleSounds : List String :=
  ["A", "AE", "YA", "YAE", "EO", "E", "YEO", "YE", "O", "WA", "WAE", "OE", "YO", "U", "WEO", "WE",
   "WI", "YU", "EU", "YI", "I"]

def lastSounds : List String :=
  ["", "G", "GG", "GS", "N", "NJ", "NH", "D", "L", "LG", "LM", "LB", "LS", "LT", "LP", "LH", "M",
   "B", "BS", "S", "SS", "NG", "J", "C", "K", "T", "P", "H"]

def afterSound? (sounds : List String) (t : Text) : Option Text :=
  (sounds.filterMap (after? · t)).foldl (fun best rest =>
    match best with
    | some b => if rest.length < b.length then some rest else some b
    | none => some rest) none

def isSyllable (t : Text) : Bool :=
  ((after? "HANGUL SYLLABLE " t).bind fun t => do
    afterSound? lastSounds (← afterSound? middleSounds (← afterSound? firstSounds t))) = some []

end CharacterName

/-- Whether a text names a character. In names that are listed, small letters will do. -/
def isCharacterName (t : Text) : Bool :=
  CharacterName.isIdeograph t || CharacterName.isSyllable t ||
    CharacterName.isListed (t.map Char.toUpper).toArray

end LayoutLint
