import LayoutLint.Check.Run
import LayoutLint.Fix.Batch
import LayoutLint.Report.Format

/-! A session keeps options, a text, the findings of the last check and a stream of reports. A
command that fails leaves it as it was, also one that fails in the middle of a report. -/
namespace LayoutLint

structure Session where
  options : Options
  text : Text
  findings : Findings
  stream : Text

namespace Session

def start : Session :=
  { options := .standard, text := [], findings := ⟨"none".toList, [], by decide⟩, stream := [] }

inductive Command where
  | configure (arguments : List Json)
  | setText (text : Text)
  | check (root : Node) (file : Text) (text : Option Text)
  | clear (file : Text)
  | report (format : Report.Format)
  | fixAll
  | apply (fix : Fix)
  | applyAll (fixes : List Fix)

inductive Reply where
  | options (options : Options)
  | text (text : Text)
  | violations (violations : List Violation)
  | findings (findings : Findings)

def replaceText (s : Session) (t : Text) : Session × Reply :=
  ({ s with text := t }, .text t)

/-- A report for a terminal is answered alone. Others are added to the stream, and the answer is
all that it holds. -/
def report (limits : Limits) (s : Session) (format : Report.Format) :
    Except Fault (Session × Reply) := do
  let written ← format.render limits s.findings
  match format with
  | .console _ => return (s, .text written)
  | _ => return ({ s with stream := s.stream ++ written }, .text (s.stream ++ written))

def step (limits : Limits) (s : Session) : Command → Except Fault (Session × Reply)
  | .configure arguments => do
    let options ← Options.ofArguments limits arguments
    return ({ s with options }, .options options)
  | .setText t => .ok (s.replaceText t)
  | .check root file text => do
    let source ← Source.build file (text.getD s.text) root
    let findings ← source.check s.options
    return ({ s with text := source.text, findings }, .violations findings.violations)
  | .clear file => do
    let findings ← Findings.clean file
    return ({ s with findings }, .findings findings)
  | .report format => s.report limits format
  | .fixAll => return s.replaceText (← Fix.applyAll limits s.text s.findings.fixes)
  | .apply fix => return s.replaceText (← fix.apply limits s.text)
  | .applyAll fixes => return s.replaceText (← Fix.applyAll limits s.text fixes)

def advance (limits : Limits) (s : Session) (c : Except Fault Command) :
    Session × Except Fault Reply :=
  match c.bind (s.step limits) with
  | .ok (next, reply) => (next, .ok reply)
  | .error fault => (s, .error (fault.raised limits))

end Session

end LayoutLint
