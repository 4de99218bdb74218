import LayoutLint.Expression.Tree

/-! What can be wrong with a written expression, as causes. -/
namespace LayoutLint.Expression

inductive Numeral where
  | decimal
  | imaginary
  | hexadecimal
  | octal
  | binary

def Numeral.name : Numeral → Text
  | .decimal => "decimal".toList
  | .imaginary => "imaginary".toList
  | .hexadecimal => "hexadecimal".toList
  | .octal => "octal".toList
  | .binary => "binary".toList

/-- What is wrong with an escape in a string. The length of a code is two, four or eight. -/
inductive EscapeSlip where
  | truncated (letter : Char) (length : Nat)
  | outOfRange
  | malformedName
  | unknownName

def EscapeSlip.message : EscapeSlip → Text
  | .truncated letter length =>
    "truncated \\".toList ++ letter :: List.replicate length 'X' ++ " escape".toList
  | .outOfRange => "illegal Unicode character".toList
  | .malformedName => "malformed \\N character escape".toList
  | .unknownName => "unknown Unicode character name".toList

/-- Why a text is no expression. The last group is about strings with expressions in them, of which
a part may have a slip of its own. -/
inductive Slip where
  | badCharacter (c : Char)
  | hiddenCharacter (c : Char)
  | badNumeral (numeral : Numeral)
  | badDigit (digit : Char) (numeral : Numeral)
  | leadingZeros
  | openString (line : Nat)
  | openLongString (line : Nat)
  | unmatched (closer : Char)
  | mismatched (closer opener : Char)
  | mismatchedSince (closer opener : Char) (line : Nat)
  | tooManyBrackets
  | unclosed (opener : Char)
  | brokenLine
  | badMargin
  | indented
  | malformed
  | commaMissing
  | elseMissing
  | callMissing (name : Text)
  | nameAssigned
  | shapeAssigned (shape : Shape)
  | shapeNamed (shape : Shape)
  | starred
  | doubleStarred
  | colonMissing
  | valueMissing
  | starredValue
  | starBehindSpread
  | bareGenerator
  | positionalBehindNamed
  | positionalBehindSpread
  | constantArgument (word : String)
  | assignmentArgument
  | starredComprehension
  | spreadComprehension
  | bareTarget
  | badTarget (shape : Shape)
  | defaultMissing
  | defaultExpected
  | bracketedParameters
  | nothingBeforeSlash
  | secondSlash
  | slashBehindStar
  | noCommaBeforeStar
  | nothingBehindStar
  | starDefault
  | secondStar
  | doubleStarDefault
  | parameterBehindDoubleStar
  | badEscape (first last : Nat) (slip : EscapeSlip)
  | badByteEscape (position : Nat)
  | wideByte
  | mixedStrings
  | loneBrace
  | backslashInPart
  | hashInPart
  | unmatchedInPart (bracket : Char)
  | mismatchedInPart (closer opener : Char)
  | tooManyBracketsInPart
  | openStringInPart
  | nestedParts
  | braceMissing
  | emptyPart
  | emptyPartBefore (c : Char)
  | badConversion
  | inPart (slip : Slip)

def codeOf (c : Char) : Text :=
  (Text.hex 4 c.toNat).map Char.toUpper

def misfit (closer opener : Char) : Text :=
  "closing parenthesis '".toList ++ closer :: "' does not match opening parenthesis '".toList ++
    [opener, '\'']

namespace Slip

def partWords : Text := "f-string: ".toList

def message : Slip → Text
  | .badCharacter c => "invalid character '".toList ++ c :: "' (U+".toList ++ codeOf c ++ [')']
  | .hiddenCharacter c => "invalid non-printable character U+".toList ++ codeOf c
  | .badNumeral numeral => "invalid ".toList ++ numeral.name ++ " literal".toList
  | .badDigit digit numeral =>
    "invalid digit '".toList ++ digit :: "' in ".toList ++ numeral.name ++ " literal".toList
  | .leadingZeros =>
    "leading zeros in decimal integer literals are not permitted; ".toList ++
      "use an 0o prefix for octal integers".toList
  | .openString line =>
    "unterminated string literal (detected at line ".toList ++ Text.ofNat line ++ [')']
  | .openLongString line =>
    "unterminated triple-quoted string literal (detected at line ".toList ++ Text.ofNat line ++
      [')']
  | .unmatched closer => "unmatched '".toList ++ [closer, '\'']
  | .mismatched closer opener => misfit closer opener
  | .mismatchedSince closer opener line =>
    misfit closer opener ++ " on line ".toList ++ Text.ofNat line
  | .tooManyBrackets => "too many nested parentheses".toList
  | .unclosed opener => '\'' :: opener :: "' was never closed".toList
  | .brokenLine => "unexpected character after line continuation character".toList
  | .badMargin => "unindent does not match any outer indentation level".toList
  | .indented => "unexpected indent".toList
  | .malformed => "invalid syntax".toList
  | .commaMissing => "invalid syntax. Perhaps you forgot a comma?".toList
  | .elseMissing => "expected 'else' after 'if' expression".toList
  | .callMissing name =>
    "Missing parentheses in call to '".toList ++ name ++ "'. Did you mean ".toList ++ name ++
      "(...)?".toList
  | .nameAssigned => "invalid syntax. Maybe you meant '==' or ':=' instead of '='?".toList
  | .shapeAssigned shape =>
    "cannot assign to ".toList ++ shape.text.toList ++
      " here. Maybe you meant '==' instead of '='?".toList
  | .shapeNamed shape => "cannot use assignment expressions with ".toList ++ shape.text.toList
  | .starred => "cannot use starred expression here".toList
  | .doubleStarred => "cannot use double starred expression here".toList
  | .colonMissing => "':' expected after dictionary key".toList
  | .valueMissing => "expression expected after dictionary key and ':'".toList
  | .starredValue => "cannot use a starred expression in a dictionary value".toList
  | .starBehindSpread =>
    "iterable argument unpacking follows keyword argument unpacking".toList
  | .bareGenerator => "Generator expression must be parenthesized".toList
  | .positionalBehindNamed => "positional argument follows keyword argument".toList
  | .positionalBehindSpread => "positional argument follows keyword argument unpacking".toList
  | .constantArgument word => "cannot assign to ".toList ++ word.toList
  | .assignmentArgument =>
    "expression cannot contain assignment, perhaps you meant \"==\"?".toList
  | .starredComprehension => "iterable unpacking cannot be used in comprehension".toList
  | .spreadComprehension => "dict unpacking cannot be used in dict comprehension".toList
  | .bareTarget => "did you forget parentheses around the comprehension target?".toList
  | .badTarget shape => "cannot assign to ".toList ++ shape.text.toList
  | .defaultMissing => "non-default argument follows default argument".toList
  | .defaultExpected => "expected default value expression".toList
  | .bracketedParameters => "Lambda expression parameters cannot be parenthesized".toList
  | .nothingBeforeSlash => "at least one argument must precede /".toList
  | .secondSlash => "/ may appear only once".toList
  | .slashBehindStar => "/ must be ahead of *".toList
  | .noCommaBeforeStar => "expected comma between / and *".toList
  | .nothingBehindStar => "named arguments must follow bare *".toList
  | .starDefault => "var-positional argument cannot have default value".toList
  | .secondStar => "* argument may appear only once".toList
  | .doubleStarDefault => "var-keyword argument cannot have default value".toList
  | .parameterBehindDoubleStar => "arguments cannot follow var-keyword argument".toList
  | .badEscape first last slip =>
    "(unicode error) 'unicodeescape' codec can't decode bytes in position ".toList ++
      Text.ofNat first ++ '-' :: Text.ofNat last ++ ": ".toList ++ slip.message
  | .badByteEscape position =>
    "(value error) invalid \\x escape at position ".toList ++ Text.ofNat position
  | .wideByte => "bytes can only contain ASCII literal characters".toList
  | .mixedStrings => "cannot mix bytes and nonbytes literals".toList
  | .loneBrace => partWords ++ "single '\x7d' is not allowed".toList
  | .backslashInPart => "f-string expression part cannot include a backslash".toList
  | .hashInPart => "f-string expression part cannot include '#'".toList
  | .unmatchedInPart bracket => partWords ++ "unmatched '".toList ++ [bracket, '\'']
  | .mismatchedInPart closer opener => partWords ++ misfit closer opener
  | .tooManyBracketsInPart => partWords ++ "too many nested parenthesis".toList
  | .openStringInPart => partWords ++ "unterminated string".toList
  | .nestedParts => partWords ++ "expressions nested too deeply".toList
  | .braceMissing => partWords ++ "expecting '\x7d'".toList
  | .emptyPart => partWords ++ "empty expression not allowed".toList
  | .emptyPartBefore c => partWords ++ "expression required before '".toList ++ [c, '\'']
  | .badConversion =>
    partWords ++ "invalid conversion character: expected 's', 'r', or 'a'".toList
  | .inPart slip => partWords ++ slip.message

end Slip

/-- Why there is no value, though this is not for the grammar to say. -/
inductive Trouble where
  | nullCharacter
  | tooComplex
  | tooDeep
  | tooLarge
  | unhashable (type : String)
  | keyless
  | notLiteral
  | columnMissing

def Trouble.message : Trouble → Text
  | .nullCharacter => "source code string cannot contain null bytes".toList
  | .tooComplex => []
  | .tooDeep => "maximum recursion depth exceeded during ast construction".toList
  | .tooLarge => "int too large to convert to float".toList
  | .unhashable type => "unhashable type: '".toList ++ type.toList ++ ['\'']
  | .keyless => "malformed node or string: None".toList
  | .notLiteral => "malformed node or string".toList
  | .columnMissing => "Negative size passed to PyUnicode_New".toList

inductive Refusal where
  | slip (slip : Slip)
  | trouble (trouble : Trouble)

end LayoutLint.Expression
