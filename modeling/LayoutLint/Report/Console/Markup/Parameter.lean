import LayoutLint.Expression.Value
import LayoutLint.Fault
import LayoutLint.Text.Blank
import LayoutLint.Text.Word

/-! Parameters of tags whose name begins with an at sign. They name an action, give its arguments
in parentheses, or are a value. -/
namespace LayoutLint.Report.Console.Markup.Parameter

def isArguments (t : Text) : Bool :=
  t.head? = some '(' && t.getLast? = some ')' && !t.contains '\n'

/-- The part of a parameter that has to be a literal. An action without arguments has none. -/
def literal? (parameter : Text) : Option Text :=
  let t := parameter.trim
  match t.dropWhile fun c => isWordChar c || c = '.' with
  | [] => none
  | rest => some (if isArguments rest then rest else t)

def check (parameter : Text) : Except Fault Unit :=
  match literal? parameter with
  | none => .ok ()
  | some read =>
    match Expression.refusal? read with
    | none => .ok ()
    | some (.slip slip) => .error (.badParameter parameter read slip)
    | some (.trouble trouble) => .error (.noLiteral parameter trouble)

end LayoutLint.Report.Console.Markup.Parameter
