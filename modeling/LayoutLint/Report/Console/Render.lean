import LayoutLint.Findings
import LayoutLint.Report.Console.Highlight
import LayoutLint.Report.Console.Markup
import LayoutLint.Report.Console.Table

/-! The report for a terminal: a title, a summary, a table of violations and a preview of their
fixes. -/
namespace LayoutLint.Report.Console

structure Settings where
  preview : Bool := false
  limit : Option Nat := none
  width : Nat := 120
  width_ge : 20 ≤ width := by decide

namespace Settings

/-- Refuses a limit below zero before a width below twenty. -/
def build (preview : Bool) (limit : Option Int) (width : Int) : Except Fault Settings := do
  let limit ← limit.mapM Quantity.maxViolations.check
  if h : width < 20 then .error (.belowLeast .width width)
  else return { preview, limit, width := width.toNat, width_ge := by omega }

def select (s : Settings) (violations : List Violation) : List Violation :=
  match s.limit with
  | some n => violations.take n
  | none => violations

end Settings

def writeLines (width : Nat) (l : Line) : Except Fault Text := do
  let strips ← (l.wrap width true).mapM fun l => (l.crop width).strip .plain
  return strips.flatMap fun s => (s.crop width).write ++ ['\n']

def ruleStyle : Style := .brightGreen

def boldMarkup (t : Text) : Text :=
  "[bold]".toList ++ t ++ "[/bold]".toList

/-- The file name on one line, with its parts highlighted. Nothing to show has no marks. -/
def heading (file : Text) : Except Fault Line := do
  let name := Highlight.apply (← Markup.line (boldMarkup file))
  if name.text = [] then return ⟨[], []⟩
  return Line.expandTabs (name.withText (name.text.map fun c => if c = '\n' then ' ' else c))

def title (width : Nat) (file : Text) : Except Fault Text := do
  let name := (← heading file).truncate (width - 4)
  let side := (width - name.text.cells) / 2
  let _ ← repetitions (side + 1)
  let left := Line.styled ruleStyle (List.replicate (side - 1) '─' ++ [' '])
  let right := Line.styled ruleStyle (' ' :: List.replicate (side + 1) '─')
  writeLines width ((left ++ name ++ right).fit width)

def counts (f : Findings) : Phrase :=
  [.number f.count, .number f.fixableCount]

def summary (f : Findings) : Line :=
  let bold (t : Text) : Line := .styled .bold t
  let number (n : Nat) : Line := .styled (Style.bold.onto .cyan) (Text.ofNat n)
  let blank : Line := ⟨[' '], []⟩
  let verdict : Line :=
    if f.passed then .styled .green "PASS".toList
    else .styled .red "FAIL".toList
  .join [bold "Violations:".toList, blank, number f.count, blank, bold ['('],
    bold "fixable:".toList, blank, number f.fixableCount, bold [')'], blank, verdict]

def columns : List Column :=
  [⟨"Location".toList, .cyan, false⟩, ⟨"Kind".toList, .yellow, false⟩,
   ⟨"Message".toList, .plain, false⟩, ⟨"Fix".toList, .plain, true⟩]

/-- The cells of a violation. The location is read as markup, the message is taken literally. -/
def row (file : Text) (v : Violation) : Except Fault (List Line) := do
  let location ← Markup.line (v.location file)
  let message ← Markup.line (Markup.escape v.headline)
  return [location, ⟨v.cause.text, []⟩, message, ⟨if v.fixable then ['✓'] else [], []⟩]

/-- The places are written before anything is read as markup. -/
def table (limits : Limits) (file : Text) (violations : List Violation) : Except Fault Table := do
  Phrase.check limits (violations.flatMap (·.locationPhrase file))
  return ⟨columns, ← violations.mapM (row file)⟩

def preview (v : Violation) (f : Fix) : Except Fault Line :=
  Markup.line
    ("[dim]".toList ++ v.start.text ++ "[/dim] ".toList ++ Markup.escape f.text)

def previews (limits : Limits) (width : Nat) (violations : List Violation) :
    Except Fault Text := do
  let parts ← (violations.filterMap fun v => v.fix.map (v, ·)).mapM fun (v, f) => do
    Phrase.check limits (v.start.phrase ++ f.phrase)
    preview v f >>= writeLines width
  return parts.flatten

def body (limits : Limits) (s : Settings) (file : Text) (shown : List Violation) :
    Except Fault Text := do
  let rows ← (← table limits file shown).write s.width
  let fixes ← if s.preview then previews limits s.width shown else .ok []
  return rows ++ fixes

def render (limits : Limits) (s : Settings) (f : Findings) : Except Fault Text := do
  let rule ← title s.width f.file
  (counts f).check limits
  let heading := rule ++ (← writeLines s.width (summary f))
  let shown := s.select f.violations
  let rest ← if shown = [] then .ok [] else body limits s f.file shown
  return heading ++ rest

end LayoutLint.Report.Console
