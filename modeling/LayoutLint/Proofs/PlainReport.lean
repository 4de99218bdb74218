import LayoutLint.Proofs.Writing
import LayoutLint.Report.Format

/-! The plain report as its reader sees it, line by line. Whatever the messages say, there is one
line for each violation and one for the summary, since of a message only its first line is taken. -/
namespace LayoutLint

namespace Text

/-- The lines of a shown text, without what ends them. A carriage return and the line feed behind it
end one line, and behind the last end no further line begins. -/
def shownLines : Text → List Text
  | [] => []
  | c :: rest =>
    if isHeadlineEnd c then
      if c = '\r' ∧ rest.head? = some '\n' then shownLines rest else [] :: shownLines rest
    else
      match shownLines rest with
      | [] => [[c]]
      | line :: more => (c :: line) :: more

def Unbroken (t : Text) : Prop :=
  ∀ c ∈ t, isHeadlineEnd c = false

instance (t : Text) : Decidable t.Unbroken :=
  List.decidableBAll (isHeadlineEnd · = false) t

@[simp] theorem unbroken_append {t u : Text} :
    Unbroken (t ++ u) ↔ t.Unbroken ∧ u.Unbroken := by
  simp only [Unbroken, List.mem_append, or_imp, forall_and]

@[simp] theorem unbroken_cons {c : Char} {t : Text} :
    Unbroken (c :: t) ↔ isHeadlineEnd c = false ∧ t.Unbroken := by
  simp [Unbroken]

theorem unbroken_headline (t : Text) : t.headline.Unbroken :=
  fun _ => not_isHeadlineEnd_of_mem_headline

theorem unbroken_ofNat (n : Nat) : (ofNat n).Unbroken := by
  intro c hc
  have hdigit := isDigit_of_mem_ofNat hc
  rw [Bool.eq_false_iff]
  intro hend
  simp only [isHeadlineEnd, isLineBreak, Bool.or_eq_true,
    decide_eq_true_eq] at hend
  rcases hend with ((((((((rfl | rfl) | rfl) | rfl) | rfl) | rfl) | rfl) | rfl) | rfl) | rfl
  all_goals exact absurd hdigit (by decide)

theorem head?_shownLines {t : Text} (ht : t ≠ []) : t.shownLines.head? = some t.headline := by
  fun_induction shownLines t with
  | case1 => exact absurd rfl ht
  | case2 c rest hend hpair ih =>
    obtain ⟨rfl, hfeed⟩ := hpair
    obtain ⟨more, rfl⟩ := List.head?_eq_some_iff.1 hfeed
    exact ih (by simp)
  | case3 c rest hend hpair ih => simp [headline, hend]
  | case4 c rest hend hnone ih =>
    cases rest with
    | nil => simp [headline, hend]
    | cons d rest => simp [hnone] at ih
  | case5 c rest hend line more hlines ih =>
    have hrest : rest ≠ [] := by
      rintro rfl
      simp [shownLines] at hlines
    have hline : line = headline rest := by simpa [hlines] using ih hrest
    simp [headline, hend, hline]

theorem shownLines_append_lineFeed {line : Text} (h : line.Unbroken) (rest : Text) :
    shownLines (line ++ '\n' :: rest) = line :: rest.shownLines := by
  induction line with
  | nil => simp [shownLines, isHeadlineEnd, isLineBreak]
  | cons c line ih =>
    obtain ⟨hc, hline⟩ := unbroken_cons.1 h
    simp [shownLines, hc, ih hline]

theorem shownLines_flatMap {lines : List Text} (h : ∀ line ∈ lines, line.Unbroken) :
    shownLines (lines.flatMap (· ++ ['\n'])) = lines := by
  induction lines with
  | nil => rfl
  | cons line lines ih =>
    rw [List.forall_mem_cons] at h
    rw [List.flatMap_cons, List.append_assoc, List.singleton_append,
      shownLines_append_lineFeed h.1, ih h.2]

end Text

namespace Report.Plain

variable {limits : Limits} {f : Findings}

structure Writable (limits : Limits) (f : Findings) : Prop where
  count : limits.Allows f.count
  place : ∀ v ∈ f.violations, v.PlaceWritable limits

theorem writable_of_digits_eq_none (h : limits.digits = none) (f : Findings) :
    Writable limits f where
  count := Limits.allows_of_digits_eq_none h _
  place _ _ := ⟨Limits.allows_of_digits_eq_none h _, Limits.allows_of_digits_eq_none h _⟩

theorem writable_phrase_iff : (phrase f).Writable limits ↔ Writable limits f := by
  have hline : ∀ v : Violation, (line f.file v).Writable limits ↔ v.PlaceWritable limits := by
    simp only [line, Phrase.writable_append, Violation.writable_location_iff,
      Phrase.writable_words, Phrase.writable_nil, and_true, implies_true]
  have hsummary : (summary f).Writable limits ↔ limits.Allows f.count := by
    simp only [summary, Phrase.writable_words, Phrase.writable_number, Phrase.writable_nil,
      and_true]
    exact and_iff_left_of_imp Findings.allows_fixableCount
  have hlines : (phrase f).Writable limits ↔
      (∀ v ∈ f.violations, v.PlaceWritable limits) ∧ limits.Allows f.count := by
    simp only [phrase, lines, Phrase.writable_flatMap, Phrase.writable_append,
      Phrase.writable_words, Phrase.writable_nil, and_true, List.forall_mem_append,
      List.forall_mem_map, List.forall_mem_singleton, hline, hsummary]
  rw [hlines]
  exact ⟨fun h => ⟨h.2, h.1⟩, fun h => ⟨h.place, h.count⟩⟩

theorem unquoted_phrase (f : Findings) : (phrase f).Unquoted := by
  refine Phrase.unquoted_flatMap fun l hl => ?_
  rcases List.mem_append.1 hl with hl | hl
  · obtain ⟨v, -, rfl⟩ := List.mem_map.1 hl
    simp only [line, Violation.locationPhrase, Phrase.unquoted_append, Phrase.unquoted_words,
      Position.unquoted_phrase, Phrase.unquoted_nil, and_self]
  · obtain rfl := List.mem_singleton.1 hl
    simp only [summary, Phrase.unquoted_append, Phrase.unquoted_words, Phrase.unquoted_number,
      Phrase.unquoted_nil, and_self]

theorem text_line (file : Text) (v : Violation) : (line file v).text =
    v.location file ++ (": ".toList ++ v.label ++
      (if v.fixable then " (fixable)".toList else [])) := by
  rw [line, Phrase.text_append, Phrase.text_cons]
  exact congrArg (_ ++ ·) (List.append_nil _)

theorem text_summary (f : Findings) : (summary f).text = f.file ++ ": ".toList ++
    Text.ofNat f.count ++ " violation(s), ".toList ++ Text.ofNat f.fixableCount ++
    " fixable [".toList ++ verdict f ++ [']'] := by
  simp only [summary, Phrase.text_cons, Phrase.text_nil, Part.text, Text.ofInt_natCast,
    List.append_assoc, List.append_nil]

theorem text_phrase (f : Findings) :
    (phrase f).text = ((lines f).map Phrase.text).flatMap (· ++ ['\n']) := by
  rw [phrase, Phrase.text, List.flatMap_assoc, List.flatMap_map]
  exact congrArg (List.flatMap · (lines f)) (funext fun l => Phrase.text_append)

theorem unbroken_line {file : Text} (hfile : file.Unbroken) (v : Violation) :
    Text.Unbroken (line file v).text := by
  have hlabel : v.label.Unbroken :=
    Text.unbroken_append.2 ⟨by decide, Text.unbroken_cons.2
      ⟨rfl, Text.unbroken_cons.2 ⟨rfl, Text.unbroken_headline v.message⟩⟩⟩
  have hmarker : Text.Unbroken (if v.fixable then " (fixable)".toList else []) := by
    split <;> decide
  have hcolon : isHeadlineEnd ':' = false := rfl
  have hgap : Text.Unbroken ": ".toList := by decide
  rw [text_line, Violation.location_eq, Position.text_eq]
  simp only [Text.unbroken_append, Text.unbroken_cons]
  exact ⟨⟨hfile, hcolon, Text.unbroken_ofNat _, hcolon, Text.unbroken_ofNat _⟩, ⟨hgap, hlabel⟩,
    hmarker⟩

theorem unbroken_summary (hfile : f.file.Unbroken) : Text.Unbroken (summary f).text := by
  have hverdict : (verdict f).Unbroken := by
    unfold verdict
    split <;> decide
  simp only [text_summary, Text.unbroken_append]
  exact ⟨⟨⟨⟨⟨⟨⟨hfile, by decide⟩, Text.unbroken_ofNat _⟩, by decide⟩, Text.unbroken_ofNat _⟩,
    by decide⟩, hverdict⟩, by decide⟩

theorem shownLines_text (hfile : f.file.Unbroken) :
    Text.shownLines (phrase f).text = (lines f).map Phrase.text := by
  rw [text_phrase]
  refine Text.shownLines_flatMap fun t ht => ?_
  obtain ⟨l, hl, rfl⟩ := List.mem_map.1 ht
  rcases List.mem_append.1 hl with hl | hl
  · obtain ⟨v, -, rfl⟩ := List.mem_map.1 hl
    exact unbroken_line hfile v
  · obtain rfl := List.mem_singleton.1 hl
    exact unbroken_summary hfile

def brokenMessages : Findings where
  file := "a b.ts".toList
  violations := [
    { cause := .ownLine, message := ['\r', '\n'], start := ⟨0, 8⟩
      node := ⟨1, .elseKeyword, { fullStart := 8, start := 8, stop := 12 }, []⟩
      fix := none
      message_ne_nil := by decide },
    { cause := .ownLine, message := "one\u2028two".toList, start := ⟨9, 0⟩
      node := ⟨2, .catchClause, { fullStart := 20, start := 20, stop := 25 }, []⟩
      fix := some ⟨20, 0, "\n".toList⟩
      message_ne_nil := by decide }]
  file_ne_nil := by decide

end Report.Plain

end LayoutLint
