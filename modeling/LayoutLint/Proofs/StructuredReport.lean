import LayoutLint.Fix.Batch
import LayoutLint.Proofs.Json.RoundTrip
import LayoutLint.Proofs.Writing
import LayoutLint.Report.Structured

/-! A program that reads the structured report learns all of it again: the summary, where each
violation stands and what it says, and every fix as it is to be applied. The layout makes no
difference to that. -/
namespace LayoutLint

namespace Json

def text? : Json → Option Text
  | .str s => some s
  | _ => none

def bool? : Json → Option Bool
  | .bool b => some b
  | _ => none

def nat? : Json → Option Nat
  | .int (.ofNat n) => some n
  | _ => none

def items? : Json → Option (List Json)
  | .arr items => some items
  | _ => none

end Json

namespace Report.Structured

/-- What the report tells of a violation. Line and character count from one. -/
structure Mention where
  rule : Text
  kind : Text
  message : Text
  line : Nat
  character : Nat
  fix : Option Fix
deriving DecidableEq

structure Reading where
  file : Text
  passed : Bool
  count : Nat
  fixableCount : Nat
  mentions : List Mention
deriving DecidableEq

def Reading.fixes (r : Reading) : List Fix :=
  r.mentions.filterMap (·.fix)

def fix? (v : Json) : Option Fix := do
  let start ← (v.field? "start_offset".toList).bind Json.nat?
  let width ← (v.field? "remove_width".toList).bind Json.nat?
  let insert ← (v.field? "insert_text".toList).bind Json.text?
  return { start, width, insert }

def fixOrNull? : Json → Option (Option Fix)
  | .null => some none
  | v => (fix? v).map some

def mention? (v : Json) : Option Mention := do
  let rule ← (v.field? "rule".toList).bind Json.text?
  let kind ← (v.field? "kind".toList).bind Json.text?
  let message ← (v.field? "message".toList).bind Json.text?
  let line ← (v.field? "line".toList).bind Json.nat?
  let character ← (v.field? "character".toList).bind Json.nat?
  let fix ← (v.field? "fix".toList).bind fixOrNull?
  return { rule, kind, message, line, character, fix }

def reading? (v : Json) : Option Reading := do
  let file ← (v.field? "file".toList).bind Json.text?
  let passed ← (v.field? "passed".toList).bind Json.bool?
  let summary ← v.field? "summary".toList
  let count ← (summary.field? "violation_count".toList).bind Json.nat?
  let fixableCount ← (summary.field? "fixable_count".toList).bind Json.nat?
  let mentions ← (← (v.field? "violations".toList).bind Json.items?).mapM mention?
  return { file, passed, count, fixableCount, mentions }

/-- What a program makes of the text of a report. -/
def decode? (t : Text) : Option Reading :=
  (Json.read? t).bind reading?

def Mention.ofViolation (v : Violation) : Mention where
  rule := Rule.name.toList
  kind := v.cause.text
  message := v.message
  line := v.start.line + 1
  character := v.start.character + 1
  fix := v.fix

def Reading.ofFindings (f : Findings) : Reading where
  file := f.file
  passed := f.passed
  count := f.count
  fixableCount := f.fixableCount
  mentions := f.violations.map Mention.ofViolation

@[simp] theorem fixes_ofFindings (f : Findings) : (Reading.ofFindings f).fixes = f.fixes := by
  simp only [Reading.fixes, Reading.ofFindings, List.filterMap_map, Findings.fixes]
  rfl

theorem fixOrNull?_ofFix (f : Option Fix) : fixOrNull? ((f.map ofFix).getD .null) = some f := by
  cases f <;> rfl

theorem mention?_ofViolation (v : Violation) :
    mention? (ofViolation v) = some (.ofViolation v) := by
  have hfix : ((ofViolation v).field? "fix".toList).bind fixOrNull? = some v.fix :=
    fixOrNull?_ofFix v.fix
  rw [mention?, hfix]
  rfl

theorem mapM_mention? (vs : List Violation) :
    (vs.map ofViolation).mapM mention? = some (vs.map Mention.ofViolation) := by
  induction vs with
  | nil => rfl
  | cons v vs ih =>
    simp only [List.map_cons, List.mapM_cons, mention?_ofViolation, ih]
    rfl

theorem reading?_ofFindings (f : Findings) :
    reading? (ofFindings f) = some (.ofFindings f) := by
  have hitems : ((ofFindings f).field? "violations".toList).bind Json.items? =
      some (f.violations.map ofViolation) := rfl
  simp only [reading?, hitems, Option.bind_eq_bind, Option.bind_some, mapM_mention?]
  rfl

theorem exact_ofFix (f : Option Fix) : ((f.map ofFix).getD .null).Exact := by
  cases f <;> simp [ofFix, Json.Exact, Json.FieldsExact]

theorem allExact_ofViolation (vs : List Violation) : Json.AllExact (vs.map ofViolation) := by
  induction vs with
  | nil => trivial
  | cons v vs ih =>
    exact ⟨by simp [ofViolation, Json.Exact, Json.FieldsExact, exact_ofFix], ih⟩

theorem exact_ofFindings (f : Findings) : (ofFindings f).Exact := by
  simp [ofFindings, Json.Exact, Json.FieldsExact, allExact_ofViolation]

theorem read?_text (layout : Json.Layout) (f : Findings) :
    Json.read? (text layout f) = some (ofFindings f) :=
  Json.read?_render_append (exact_ofFindings f) layout (by
    simp [Json.Reader.Blank, Json.Reader.isGap])

theorem decode?_text (layout : Json.Layout) (f : Findings) :
    decode? (text layout f) = some (.ofFindings f) := by
  rw [decode?, read?_text, Option.bind_some, reading?_ofFindings]

/-! ## Numbers of a report -/

variable {limits : Limits}

structure Writable (limits : Limits) (f : Findings) : Prop where
  count : limits.Allows f.count
  place : ∀ v ∈ f.violations, v.PlaceWritable limits
  fix : ∀ v ∈ f.violations, v.FixWritable limits

theorem excess?_ofViolation {v : Violation} : (ofViolation v).excess? limits none = none ↔
    v.PlaceWritable limits ∧ v.FixWritable limits := by
  cases hfix : v.fix with
  | none => simp [ofViolation, hfix, Json.excess?, Json.fieldsExcess?, Limits.excess?_eq_none_iff,
      Violation.PlaceWritable, Violation.FixWritable]
  | some f => simp [ofViolation, ofFix, hfix, Json.excess?, Json.fieldsExcess?,
      Limits.excess?_eq_none_iff, Violation.PlaceWritable, Violation.FixWritable, and_assoc]

theorem itemsExcess?_ofViolation {vs : List Violation} :
    Json.itemsExcess? limits none (vs.map ofViolation) = none ↔
      ∀ v ∈ vs, v.PlaceWritable limits ∧ v.FixWritable limits := by
  induction vs with
  | nil => simp [Json.itemsExcess?]
  | cons v vs ih => simp [Json.itemsExcess?, excess?_ofViolation, ih]

theorem excess?_ofFindings {f : Findings} :
    (ofFindings f).excess? limits none = none ↔ Writable limits f := by
  have hparts : Writable limits f ↔ limits.Allows f.count ∧
      ∀ v ∈ f.violations, v.PlaceWritable limits ∧ v.FixWritable limits :=
    ⟨fun h => ⟨h.count, fun v hv => ⟨h.place v hv, h.fix v hv⟩⟩,
      fun h => ⟨h.1, fun v hv => (h.2 v hv).1, fun v hv => (h.2 v hv).2⟩⟩
  -- The number of fixable violations is no larger than that of all.
  simpa [ofFindings, Json.excess?, Json.fieldsExcess?, Limits.excess?_eq_none_iff,
    itemsExcess?_ofViolation, hparts] using fun _ => Findings.allows_fixableCount

theorem render_of_writable {f : Findings} (h : Writable limits f) (layout : Json.Layout) :
    render limits layout f = .ok (text layout f) := by
  rw [render, excess?_ofFindings.2 h]
  rfl

theorem exists_render_iff {layout : Json.Layout} {f : Findings} :
    (∃ report, render limits layout f = .ok report) ↔ Writable limits f := by
  constructor
  · rintro ⟨report, h⟩
    refine excess?_ofFindings.1 ?_
    cases hexcess : (ofFindings f).excess? limits none with
    | none => rfl
    | some excess =>
      rw [render, hexcess] at h
      cases h
  · exact fun h => ⟨_, render_of_writable h layout⟩

/-! ## Reading a report -/


theorem exists_layoutOf_iff (indent : Option Int) : (∃ layout, layoutOf indent = .ok layout) ↔
    ∀ width ∈ indent, -(countLimit : Int) ≤ width ∧ width < countLimit := by
  cases indent with
  | none => simp [layoutOf]
  | some width =>
    simp only [layoutOf, repetitions, Option.mem_some_iff, forall_eq']
    split
    · rename_i hrange
      exact iff_of_true ⟨.indented width.toNat, rfl⟩ (by simpa using hrange)
    · rename_i hrange
      exact iff_of_false (by rintro ⟨layout, ⟨⟩⟩) (by simpa using hrange)

/-- With every indent that is not refused, and numbers that may be written, the report is read back
as what was found, and its fixes do to a text what the fixes found do. -/
theorem render_reads_back (limits : Limits) (f : Findings) (indent : Option Int)
    (hindent : ∀ width ∈ indent, -(countLimit : Int) ≤ width ∧ width < countLimit)
    (hwritable : Writable limits f) :
    ∃ layout report, layoutOf indent = .ok layout ∧ render limits layout f = .ok report ∧
      Json.read? report = some (ofFindings f) ∧
      ∃ reading, decode? report = some reading ∧ reading = .ofFindings f ∧
        reading.fixes = f.fixes ∧
        ∀ t, Fix.applyAll limits t reading.fixes = Fix.applyAll limits t f.fixes := by
  obtain ⟨layout, hlayout⟩ := (exists_layoutOf_iff indent).2 hindent
  refine ⟨layout, _, hlayout, render_of_writable hwritable layout, read?_text layout f, _,
    decode?_text layout f, rfl, fixes_ofFindings f, fun t => ?_⟩
  rw [fixes_ofFindings]

def quotedFindings : Findings where
  file := "café \"😀\".ts".toList
  violations := [
    { cause := .ownLine, message := "first\n\tsecond".toList, start := ⟨2, 4⟩
      node := ⟨1, .elseKeyword, { fullStart := 20, start := 21, stop := 25 }, []⟩
      fix := some ⟨20, 1, "\r\n\\".toList⟩
      message_ne_nil := by decide },
    { cause := .multilineConstructor, message := "\x7f".toList, start := ⟨0, 0⟩
      node := ⟨2, .syntaxList, { fullStart := 3, start := 3, stop := 9 }, []⟩
      fix := none
      message_ne_nil := by decide }]
  file_ne_nil := by decide

theorem render_reads_back_quotedFindings : Writable .usual quotedFindings ∧
    ∃ layout report, layoutOf (some (-1)) = .ok layout ∧
      render .usual layout quotedFindings = .ok report ∧
      (decode? report).map (·.fixes) = some [⟨20, 1, "\r\n\\".toList⟩] := by
  have hindent : ∀ width ∈ some (-1 : Int), -(countLimit : Int) ≤ width ∧ width < countLimit := by
    decide
  have hwritable : Writable .usual quotedFindings := ⟨by decide, by decide, by decide⟩
  obtain ⟨layout, report, hlayout, hreport, -, reading, hdecode, -, hfixes, -⟩ :=
    render_reads_back .usual quotedFindings (some (-1)) hindent hwritable
  refine ⟨hwritable, layout, report, hlayout, hreport, ?_⟩
  rw [hdecode, Option.map_some, hfixes]
  rfl

def nothingFound : Findings where
  file := "a".toList
  violations := []
  file_ne_nil := by decide

/-- With an indent that is too far below zero no report is written. -/
theorem no_report_below_limit : ¬ ∃ layout report,
    layoutOf (some (-9223372036854775809)) = .ok layout ∧
      render .lifted layout nothingFound = .ok report ∧
      decode? report = some (.ofFindings nothingFound) := by
  rintro ⟨layout, report, hlayout, -⟩
  have hrange := (exists_layoutOf_iff _).1 ⟨layout, hlayout⟩ _ rfl
  revert hrange
  decide

end Report.Structured

end LayoutLint
