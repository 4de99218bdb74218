import LayoutLint.Findings

/-! The plain report has a line for each violation and a summary. -/
namespace LayoutLint.Report.Plain

def line (file : Text) (v : Violation) : Phrase :=
  v.locationPhrase file ++ [.words (": ".toList ++ v.label ++
    (if v.fixable then " (fixable)".toList else []))]

def verdict (f : Findings) : Text :=
  if f.passed then "PASS".toList else "FAIL".toList

def summary (f : Findings) : Phrase :=
  [.words (f.file ++ ": ".toList), .number f.count, .words " violation(s), ".toList,
    .number f.fixableCount, .words (" fixable [".toList ++ verdict f ++ [']'])]

def lines (f : Findings) : List Phrase :=
  f.violations.map (line f.file) ++ [summary f]

def phrase (f : Findings) : Phrase :=
  (lines f).flatMap (· ++ [.words ['\n']])

def render (limits : Limits) (f : Findings) : Except Fault Text :=
  (phrase f).write limits

end LayoutLint.Report.Plain
