import LayoutLint.Findings
import LayoutLint.Json.Printer

/-! The report as JSON, for programs to read. Positions count from one, and fixes are complete,
so that a reader can apply them. -/
namespace LayoutLint.Report.Structured

def ofFix (f : Fix) : Json :=
  .obj [("start_offset".toList, .int f.start), ("remove_width".toList, .int f.width),
    ("insert_text".toList, .str f.insert)]

def ofViolation (v : Violation) : Json :=
  .obj [("rule".toList, .str Rule.name.toList), ("kind".toList, .str v.cause.text),
    ("message".toList, .str v.message), ("line".toList, .int (v.start.line + 1 : Nat)),
    ("character".toList, .int (v.start.character + 1 : Nat)),
    ("fix".toList, (v.fix.map ofFix).getD .null)]

def ofFindings (f : Findings) : Json :=
  .obj [("file".toList, .str f.file), ("passed".toList, .bool f.passed),
    ("summary".toList, .obj [("violation_count".toList, .int f.count),
      ("fixable_count".toList, .int f.fixableCount)]),
    ("violations".toList, .arr (f.violations.map ofViolation))]

/-- No indent means one line. An indent below zero still breaks lines. -/
def layoutOf : Option Int → Except Fault Json.Layout
  | none => .ok .oneLine
  | some width => (repetitions width).map .indented

def text (layout : Json.Layout) (f : Findings) : Text :=
  (ofFindings f).render layout ++ ['\n']

/-- The report nests to one depth whatever it holds, so that only its numbers can be too large. -/
def render (limits : Limits) (layout : Json.Layout) (f : Findings) : Except Fault Text := do
  Excess.refuse ((ofFindings f).excess? limits none)
  return text layout f

end LayoutLint.Report.Structured
