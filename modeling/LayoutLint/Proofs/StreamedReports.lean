import LayoutLint.Proofs.StructuredReport
import LayoutLint.Session

/-! Structured reports on one line each can share a stream. They are written in printable ASCII, so
that the line feed behind each report is the only one, and a reader who cuts the stream behind every
line feed holds the reports again. -/
namespace LayoutLint

namespace Text

def frames : Text → List Text
  | [] => []
  | c :: rest =>
    if c = '\n' then [c] :: frames rest
    else
      match frames rest with
      | [] => [[c]]
      | frame :: more => (c :: frame) :: more

theorem Ascii.lineFeed_notMem {t : Text} (h : t.Ascii) : '\n' ∉ t :=
  fun hmem => absurd (h _ hmem).1 (by decide)

theorem ascii_ofInt (i : Int) : (ofInt i).Ascii := by
  cases i with
  | ofNat n => exact ascii_ofNat n
  | negSucc n => exact ascii_cons.2 ⟨by decide, ascii_ofNat _⟩

theorem frames_append_lineFeed {line : Text} (h : '\n' ∉ line) (rest : Text) :
    frames (line ++ '\n' :: rest) = (line ++ ['\n']) :: rest.frames := by
  induction line with
  | nil => rfl
  | cons c line ih =>
    simp only [List.mem_cons, not_or] at h
    simp [frames, Ne.symm h.1, ih h.2]

theorem frames_flatMap {lines : List Text} (h : ∀ line ∈ lines, '\n' ∉ line) :
    frames (lines.flatMap (· ++ ['\n'])) = lines.map (· ++ ['\n']) := by
  induction lines with
  | nil => rfl
  | cons line lines ih =>
    rw [List.forall_mem_cons] at h
    rw [List.flatMap_cons, List.append_assoc, List.singleton_append,
      frames_append_lineFeed h.1, ih h.2, List.map_cons]

end Text

namespace Json

theorem ascii_codePointEscape (n : Nat) : (codePointEscape n).Ascii := by
  unfold codePointEscape unitEscape
  have hmark : ∀ t : Text, t.Ascii → Text.Ascii ('\\' :: 'u' :: t) := fun t ht =>
    Text.ascii_cons.2 ⟨by decide, Text.ascii_cons.2 ⟨by decide, ht⟩⟩
  split
  · exact hmark _ (Text.ascii_hex _ _)
  · exact Text.ascii_append.2 ⟨hmark _ (Text.ascii_hex _ _), hmark _ (Text.ascii_hex _ _)⟩

theorem ascii_escapedChar (c : Char) : (escapedChar c).Ascii := by
  rcases Reader.escapedChar_cases c with ⟨e, he, hshort⟩ | ⟨hself, -, -, hascii⟩ | hpoint
  · rw [he]
    unfold Reader.shortEscape? at hshort
    split at hshort
    all_goals first | decide | cases hshort
  · rw [hself]
    simpa using hascii
  · rw [hpoint]
    exact ascii_codePointEscape _

theorem ascii_stringText (s : Text) : (stringText s).Ascii :=
  Text.ascii_cons.2 ⟨by decide,
    Text.ascii_append.2 ⟨Text.ascii_flatMap fun c _ => ascii_escapedChar c, by decide⟩⟩

mutual

theorem ascii_renderAt : ∀ (v : Json) (depth : Nat), v.Exact → (renderAt .oneLine depth v).Ascii
  | .null, _, _ => show Text.Ascii "null".toList by decide
  | .bool b, _, _ =>
    show Text.Ascii (if b then "true".toList else "false".toList) by cases b <;> decide
  | .int i, _, _ => Text.ascii_ofInt i
  | .nan, _, _ => show Text.Ascii "NaN".toList by decide
  | .str s, _, _ => ascii_stringText s
  | .arr [], _, _ => show Text.Ascii ['[', ']'] by decide
  | .arr (v :: rest), depth, h => by
    simp [renderAt, Layout.newLine, ascii_renderAt v (depth + 1) h.1,
      ascii_renderItems rest (depth + 1) h.2]
  | .obj [], _, _ => show Text.Ascii ['\x7b', '\x7d'] by decide
  | .obj ((name, v) :: rest), depth, h => by
    simp [renderAt, Layout.newLine, ascii_stringText, ascii_renderAt v (depth + 1) h.1,
      ascii_renderFields rest (depth + 1) h.2]

theorem ascii_renderItems : ∀ (vs : List Json) (depth : Nat), AllExact vs →
    (renderItems .oneLine depth vs).Ascii
  | [], _, _ => Text.ascii_nil
  | v :: rest, depth, h => by
    simp [renderItems, Layout.newLine, Layout.comma, ascii_renderAt v depth h.1,
      ascii_renderItems rest depth h.2]

theorem ascii_renderFields : ∀ (fs : List (Text × Json)) (depth : Nat), FieldsExact fs →
    (renderFields .oneLine depth fs).Ascii
  | [], _, _ => Text.ascii_nil
  | (name, v) :: rest, depth, h => by
    simp [renderFields, Layout.newLine, Layout.comma, ascii_stringText,
      ascii_renderAt v depth h.1, ascii_renderFields rest depth h.2]

end

end Json

namespace Report.Structured

theorem ascii_ofFindings (f : Findings) : ((ofFindings f).render .oneLine).Ascii :=
  Json.ascii_renderAt _ 0 (exact_ofFindings f)

theorem frames_flatMap_text (fs : List Findings) :
    Text.frames (fs.flatMap (text .oneLine)) = fs.map (text .oneLine) := by
  have hlines : ∀ line ∈ fs.map (fun f => (ofFindings f).render .oneLine), '\n' ∉ line := by
    intro line hline
    obtain ⟨f, -, rfl⟩ := List.mem_map.1 hline
    exact (ascii_ofFindings f).lineFeed_notMem
  have hframes := Text.frames_flatMap hlines
  rw [List.flatMap_map, List.map_map] at hframes
  exact hframes

variable {limits : Limits}

theorem of_render {layout : Json.Layout} {f : Findings} {report : Text}
    (h : render limits layout f = .ok report) : Writable limits f ∧ report = text layout f := by
  have hwritable := exists_render_iff.1 ⟨report, h⟩
  exact ⟨hwritable, Except.ok.inj (h.symm.trans (render_of_writable hwritable layout))⟩

theorem mapM_render {fs : List Findings} (h : ∀ f ∈ fs, Writable limits f)
    (layout : Json.Layout) : fs.mapM (render limits layout) = .ok (fs.map (text layout)) := by
  induction fs with
  | nil => rfl
  | cons f fs ih =>
    rw [List.forall_mem_cons] at h
    rw [List.mapM_cons, render_of_writable h.1, ih h.2]
    rfl

end Report.Structured

namespace Session

open Report

def reportAll (limits : Limits) (format : Format) (s : Session) (fs : List Findings) :
    Except Fault Session :=
  fs.foldlM (fun s f => do return (← ({ s with findings := f }).report limits format).1) s

variable {limits : Limits} {layout : Json.Layout} {fs : List Findings}

/-- A structured report puts its text behind what the stream holds. -/
theorem reportAll_cons (s : Session) (f : Findings) (fs : List Findings) :
    s.reportAll limits (.structured layout) (f :: fs) = Structured.render limits layout f >>=
      fun report => reportAll limits (.structured layout)
        { s with findings := f, stream := s.stream ++ report } fs := by
  rw [reportAll, List.foldlM_cons]
  simp only [report, Format.render]
  cases Structured.render limits layout f <;> rfl

theorem exists_reportAll_eq_ok (h : ∀ f ∈ fs, Structured.Writable limits f) (s : Session) :
    ∃ s', s.reportAll limits (.structured layout) fs = .ok s' := by
  induction fs generalizing s with
  | nil => exact ⟨s, rfl⟩
  | cons f fs ih =>
    rw [List.forall_mem_cons] at h
    rw [reportAll_cons, Structured.render_of_writable h.1]
    exact ih h.2 _

theorem stream_of_reportAll {s s' : Session}
    (h : s.reportAll limits (.structured layout) fs = .ok s') :
    (∀ f ∈ fs, Structured.Writable limits f) ∧
      s'.stream = s.stream ++ fs.flatMap (Structured.text layout) := by
  induction fs generalizing s with
  | nil =>
    obtain rfl := Except.ok.inj h
    simp
  | cons f fs ih =>
    rw [reportAll_cons] at h
    cases hrender : Structured.render limits layout f with
    | error fault =>
      rw [hrender] at h
      cases h
    | ok report =>
      obtain ⟨hf, rfl⟩ := Structured.of_render hrender
      rw [hrender] at h
      obtain ⟨hall, hstream⟩ := ih h
      exact ⟨List.forall_mem_cons.2 ⟨hf, hall⟩, by simp [hstream]⟩

/-- Reports without an indent are written if and only if their numbers may be. On an empty stream
they leave printable ASCII and line feeds. Cut behind every line feed, it gives back the reports,
each of which tells what was found. -/
theorem stream_frames (limits : Limits) (s : Session) (fs : List Findings) :
    ∃ layout, Structured.layoutOf none = .ok layout ∧
      ((∃ s', reportAll limits (.structured layout) { s with stream := [] } fs = .ok s') ↔
        ∀ f ∈ fs, Structured.Writable limits f) ∧
      ∀ s', reportAll limits (.structured layout) { s with stream := [] } fs = .ok s' →
        (∀ c ∈ s'.stream, c = '\n' ∨ ' ' ≤ c ∧ c ≤ '~') ∧
        fs.mapM (Structured.render limits layout) = .ok s'.stream.frames ∧
        s'.stream.frames.map Structured.decode? =
          fs.map (some ∘ Structured.Reading.ofFindings) := by
  refine ⟨.oneLine, rfl, ⟨fun ⟨_, h⟩ => (stream_of_reportAll h).1,
    fun h => exists_reportAll_eq_ok h _⟩, fun s' h => ?_⟩
  obtain ⟨hwritable, hstream⟩ := stream_of_reportAll h
  rw [List.nil_append] at hstream
  rw [hstream, Structured.frames_flatMap_text]
  refine ⟨fun c hc => ?_, Structured.mapM_render hwritable _, ?_⟩
  · obtain ⟨f, -, hc⟩ := List.mem_flatMap.1 hc
    rcases List.mem_append.1 hc with hc | hc
    · exact Or.inr (Structured.ascii_ofFindings f c hc)
    · exact Or.inl (List.mem_singleton.1 hc)
  · rw [List.map_map]
    exact List.map_congr_left fun f _ => Structured.decode?_text .oneLine f

end Session

end LayoutLint
