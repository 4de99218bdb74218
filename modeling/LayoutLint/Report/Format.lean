import LayoutLint.Report.Console.Render
import LayoutLint.Report.Plain
import LayoutLint.Report.Structured

/-! The forms of a report. -/
namespace LayoutLint.Report

inductive Format where
  | plain
  | structured (layout : Json.Layout)
  | console (settings : Console.Settings)

def Format.render (limits : Limits) : Format → Findings → Except Fault Text
  | .plain, f => Plain.render limits f
  | .structured layout, f => Structured.render limits layout f
  | .console settings, f => Console.render limits settings f

end LayoutLint.Report
