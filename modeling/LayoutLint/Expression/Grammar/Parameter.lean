import LayoutLint.Expression.Search

/-! The parameters of a function without a name, up to the colon. -/
namespace LayoutLint.Expression.Grammar.Parameter

open Search

variable (call : Rule → Search Expression)

def colonAhead : Search Unit := ahead (sign ":")

def bare : Search Unit :=
  deeper (do let _ ← name)

def ended (p : Search Unit) : Search Unit :=
  deeper ((do p; sign ",") <|> (do p; colonAhead))

def default : Search Unit :=
  deeper
    ((do sign "="; let _ ← call .expression) <|>
     ifStrict (deeper do
       sign "="
       ahead (deeper (sign ")" <|> sign ","))
       raiseHere .defaultExpected))

def required : Search Unit := ended bare

def defaulted : Search Unit := ended (do bare; default call)

def either : Search Unit := ended (do bare; let _ ← optional (default call))

def misplacedAfterDoubleStar : Search Unit :=
  deeper
    ((do sign "**"; bare; sign "="; raiseHere .doubleStarDefault) <|>
     (do sign "**"; bare; sign ","; bare; raiseHere .parameterBehindDoubleStar) <|>
     (do
       sign "**"; bare; sign ","
       deeper (sign "*" <|> sign "**" <|> sign "/")
       raiseHere .parameterBehindDoubleStar))

def doubleStar : Search Unit :=
  deeper (ifStrict misplacedAfterDoubleStar <|> (do sign "**"; required))

def misplacedAfterStar : Search Unit :=
  deeper
    ((do
       sign "*"
       deeper (sign ":" <|> (do sign ","; deeper (sign ":" <|> sign "**")))
       raise .nothingBehindStar) <|>
     (do sign "*"; bare; sign "="; raiseHere .starDefault) <|>
     (do
       sign "*"
       deeper (required <|> sign ",")
       let _ ← many (either call)
       let start ← mark
       sign "*"
       deeper (required <|> sign ",")
       raiseAt start .secondStar))

def star : Search Unit :=
  deeper
    (ifStrict (misplacedAfterStar call) <|>
     (do sign "*"; required; let _ ← many (either call); let _ ← optional doubleStar) <|>
     (do sign "*"; sign ","; let _ ← many1 (either call); let _ ← optional doubleStar) <|>
     doubleStar)

def slashed (p : Search Unit) : Search Unit :=
  deeper ((do p; sign "/"; sign ",") <|> (do p; sign "/"; colonAhead))

def slashRequired : Search Unit :=
  slashed (do let _ ← many1 required)

def slashDefaulted : Search Unit :=
  slashed (do let _ ← many required; let _ ← many1 (defaulted call))

def list : Search Unit :=
  deeper
    ((do
       slashRequired
       let _ ← many required
       let _ ← many (defaulted call)
       let _ ← optional (star call)) <|>
     (do slashDefaulted call; let _ ← many (defaulted call); let _ ← optional (star call)) <|>
     (do
       let _ ← many1 required
       let _ ← many (defaulted call)
       let _ ← optional (star call)) <|>
     (do let _ ← many1 (defaulted call); let _ ← optional (star call)) <|>
     star call)

def slashEither : Search Unit := slashRequired <|> slashDefaulted call

def misplaced : Search Unit :=
  deeper
    ((do
       let _ ← many required
       deeper (slashDefaulted call <|> (do let _ ← many1 (defaulted call)))
       let start ← mark
       required
       raiseAt start .defaultMissing) <|>
     (do
       let _ ← many required
       let start ← mark
       sign "("
       let _ ← listed bare
       let _ ← optional (sign ",")
       sign ")"
       raiseAt start .bracketedParameters) <|>
     (do let start ← mark; sign "/"; sign ","; raiseAt start .nothingBeforeSlash) <|>
     (do
       deeper (slashEither call)
       let _ ← many (either call)
       sign "/"
       raiseHere .secondSlash) <|>
     (do
       let _ ← optional (deeper (slashEither call))
       let _ ← many (either call)
       sign "*"
       deeper (sign "," <|> required)
       let _ ← many (either call)
       sign "/"
       raiseHere .slashBehindStar) <|>
     (do let _ ← many1 (either call); sign "/"; sign "*"; raiseHere .noCommaBeforeStar))

end Parameter

open Search

def function (call : Rule → Search Expression) : Search Expression :=
  deeper do
    keyword "lambda"
    let _ ← optional (deeper (ifStrict (Parameter.misplaced call) <|> Parameter.list call))
    sign ":"
    return .node .function [← call .expression]

end LayoutLint.Expression.Grammar
