import LayoutLint.Proofs.LineStarts
import LayoutLint.Proofs.Measure

/-! Offsets and places. A line begins with the text and behind each line break, and nowhere else. An
offset of the text is named by one place, places are ordered as the offsets that they name, and two
offsets are on one line if no line break stands from the first up to the second. -/
namespace LayoutLint

namespace Position

theorem lt_or_eq_or_lt (p q : Position) : p < q ∨ p = q ∨ q < p := by
  obtain ⟨line, character⟩ := p
  obtain ⟨line', character'⟩ := q
  simp only [lt_iff, mk.injEq]
  omega

theorem order_eq_lt_iff {p q : Position} : p.order q = .lt ↔ p < q := by
  rw [order, Ordering.then_eq_lt, Nat.compare_eq_lt, Nat.compare_eq_eq, Nat.compare_eq_lt, lt_iff]

end Position

namespace Text

/-- A line break stands at the offset: one of the characters that break lines, but no carriage
return that a line feed follows. -/
def BreakAt (t : Text) (i : Nat) : Prop :=
  (t[i]? = some '\n' ∨ t[i]? = some '\r' ∨ t[i]? = some '\u2028' ∨ t[i]? = some '\u2029') ∧
    ¬ (t[i]? = some '\r' ∧ t[i + 1]? = some '\n')

instance (t : Text) (i : Nat) : Decidable (t.BreakAt i) :=
  inferInstanceAs (Decidable (_ ∧ _))

theorem endsLineAt_iff_breakAt {t : Text} {i : Nat} : t.endsLineAt i ↔ t.BreakAt i := by
  rw [endsLineAt_eq, BreakAt]
  cases t[i]? with
  | none => simp
  | some c => simp [endsLine, isLineBreak, or_assoc, imp_iff_not_or]

theorem BreakAt.lt_length {t : Text} {i : Nat} (h : t.BreakAt i) : i < t.length := by
  by_contra hge
  have hnone : t[i]? = none := List.getElem?_eq_none (Nat.le_of_not_lt hge)
  simp [BreakAt, hnone] at h

theorem mem_startsAfter_iff {t : Text} {i s : Nat} :
    s ∈ startsAfter i t ↔ ∃ j, t.BreakAt j ∧ s = i + j + 1 := by
  simp only [← endsLineAt_iff_breakAt]
  induction t generalizing i with
  | nil => simp [startsAfter, endsLineAt]
  | cons c rest ih =>
    have hzero : endsLineAt (c :: rest) 0 = endsLine c rest := rfl
    have hsucc : ∀ j, endsLineAt (c :: rest) (j + 1) = endsLineAt rest j := fun _ => rfl
    have hindex : ∀ j, i + (j + 1) + 1 = i + 1 + j + 1 := fun j => by omega
    rw [startsAfter, ← Nat.or_exists_add_one]
    simp only [hzero, hsucc, hindex, ← ih]
    split
    · rename_i hends
      simp [hends]
    · rename_i hends
      simp [hends]

theorem mem_lineStarts_iff {t : Text} {s : Nat} :
    s ∈ t.lineStarts ↔ s = 0 ∨ ∃ i, t.BreakAt i ∧ s = i + 1 := by
  rw [lineStarts, List.mem_cons, mem_startsAfter_iff]
  simp only [Nat.zero_add]

theorem pairwise_startsAfter (t : Text) (i : Nat) : (startsAfter i t).Pairwise (· < ·) := by
  induction t generalizing i with
  | nil => exact .nil
  | cons c rest ih =>
    rw [startsAfter]
    split
    · exact .cons (fun s hs => lt_of_mem_startsAfter hs) (ih (i + 1))
    · exact ih (i + 1)

theorem pairwise_lineStarts (t : Text) : t.lineStarts.Pairwise (· < ·) :=
  .cons (fun _ hs => lt_of_mem_startsAfter hs) (pairwise_startsAfter t 0)

/-- The line starts are in increasing order the start of the text and the offsets behind its line
breaks. -/
theorem lineStarts_behind_breaks (t : Text) :
    t.lineStarts.head? = some 0 ∧ t.lineStarts.Pairwise (· < ·) ∧
      (∀ s ∈ t.lineStarts, s ≤ t.length) ∧
      ∀ i, i + 1 ∈ t.lineStarts ↔ i + 1 ≤ t.length ∧ t.BreakAt i := by
  refine ⟨rfl, t.pairwise_lineStarts, ?_, ?_⟩
  · intro s hs
    rcases mem_lineStarts_iff.1 hs with rfl | ⟨i, hi, rfl⟩
    · exact Nat.zero_le _
    · exact hi.lt_length
  · intro i
    rw [mem_lineStarts_iff]
    constructor
    · rintro (hzero | ⟨j, hj, hji⟩)
      · exact absurd hzero (Nat.succ_ne_zero i)
      · obtain rfl := Nat.succ.inj hji
        exact ⟨hj.lt_length, hj⟩
    · exact fun ⟨_, hi⟩ => Or.inr ⟨i, hi, rfl⟩

example : lineStarts "a\r\r\n\n\u2028b\r".toList = [0, 2, 4, 5, 6, 8] := by decide

/-- The place is on a line of the text, its column leads from the start of the line to the offset,
and the next line, if there is one, begins behind the offset. -/
structure Locates (t : Text) (p : Position) (offset : Int) : Prop where
  line_lt : p.line < t.lineStarts.length
  start_add_character : (t.lineStarts[p.line] : Int) + p.character = offset
  lt_next : ∀ h : p.line + 1 < t.lineStarts.length, offset < t.lineStarts[p.line + 1]

theorem locates_of_lineStarts_eq {t : Text} {before after : List Nat} {start character : Nat}
    {offset : Int} (hstarts : t.lineStarts = before ++ start :: after)
    (hoffset : (start : Int) + character = offset) (hnext : ∀ next ∈ after.head?, offset < next) :
    t.Locates ⟨before.length, character⟩ offset where
  line_lt := by simp [hstarts]
  start_add_character := by simpa [hstarts] using hoffset
  lt_next h := by
    simp only [hstarts, List.length_append, List.length_cons] at h
    simp only [hstarts]
    refine hnext _ ?_
    rw [List.head?_eq_getElem?, List.getElem_append_right (Nat.le_succ _)]
    simp

theorem locates_positionAt (t : Text) (k : Nat) : t.Locates (t.positionAt k) k := by
  obtain ⟨before, last, hpassed, hlast⟩ := t.exists_passed_eq k
  have hsplit : t.lineStarts = before ++ last :: t.lineStarts.dropWhile (· ≤ k) := by
    rw [← List.singleton_append, ← List.append_assoc, ← hpassed, passed,
      List.takeWhile_append_dropWhile]
  rw [positionAt_of_passed_eq hpassed]
  refine locates_of_lineStarts_eq hsplit (by omega) fun next hnext => ?_
  have hbehind := List.head?_dropWhile_not (· ≤ k) t.lineStarts
  rw [hnext] at hbehind
  simpa using hbehind

namespace Locates

variable {t : Text} {p q : Position} {a b : Int}

theorem getElem_le (h : t.Locates p a) {i : Nat} (hi : i < t.lineStarts.length)
    (hline : i ≤ p.line) : (t.lineStarts[i] : Int) ≤ a := by
  have hstart := h.start_add_character
  have hpairs := List.pairwise_iff_getElem.1 t.pairwise_lineStarts
  rcases Nat.lt_or_eq_of_le hline with hlt | rfl
  · have := hpairs i p.line hi h.line_lt hlt
    omega
  · omega

theorem lt_getElem (h : t.Locates p a) {i : Nat} (hi : i < t.lineStarts.length)
    (hline : p.line < i) : a < t.lineStarts[i] := by
  have hnext := h.lt_next (by omega)
  have hpairs := List.pairwise_iff_getElem.1 t.pairwise_lineStarts
  rcases Nat.lt_or_eq_of_le (Nat.succ_le_of_lt hline) with hlt | rfl
  · have := hpairs (p.line + 1) i (by omega) hi hlt
    omega
  · exact hnext

theorem lt_of_lt (hp : t.Locates p a) (hq : t.Locates q b) (h : p < q) : a < b := by
  rcases Position.lt_iff.1 h with hline | ⟨hline, hcharacter⟩
  · have ha := hp.lt_getElem hq.line_lt hline
    have hb := hq.getElem_le hq.line_lt (Nat.le_refl _)
    exact Int.lt_of_lt_of_le ha hb
  · have ha := hp.start_add_character
    have hb := hq.start_add_character
    simp only [hline] at ha
    omega

theorem offset_eq (hp : t.Locates p a) (hq : t.Locates p b) : a = b :=
  hp.start_add_character.symm.trans hq.start_add_character

theorem unique (hp : t.Locates p a) (hq : t.Locates q a) : p = q := by
  rcases p.lt_or_eq_or_lt q with hlt | heq | hgt
  · exact absurd (hp.lt_of_lt hq hlt) (Int.lt_irrefl a)
  · exact heq
  · exact absurd (hq.lt_of_lt hp hgt) (Int.lt_irrefl a)

theorem lt_iff_lt (hp : t.Locates p a) (hq : t.Locates q b) : a < b ↔ p < q := by
  refine ⟨fun hab => ?_, hp.lt_of_lt hq⟩
  rcases p.lt_or_eq_or_lt q with hlt | rfl | hgt
  · exact hlt
  · exact absurd (hp.offset_eq hq) (Int.ne_of_lt hab)
  · exact absurd (hq.lt_of_lt hp hgt) (Int.lt_asymm hab)

theorem countP_eq (h : t.Locates p a) :
    t.lineStarts.countP (fun s : Nat => s ≤ a) = p.line + 1 := by
  have hbefore : (t.lineStarts.take (p.line + 1)).countP (fun s : Nat => (s : Int) ≤ a) =
      p.line + 1 := by
    have hlength : (t.lineStarts.take (p.line + 1)).length = p.line + 1 := by
      rw [List.length_take]
      exact Nat.min_eq_left h.line_lt
    refine (List.countP_eq_length.2 fun s hs => ?_).trans hlength
    obtain ⟨i, hi, rfl⟩ := List.mem_take_iff_getElem.1 hs
    simpa using h.getElem_le (by omega) (by omega)
  have hbehind : (t.lineStarts.drop (p.line + 1)).countP (fun s : Nat => (s : Int) ≤ a) = 0 := by
    rw [List.countP_eq_zero]
    intro s hs
    obtain ⟨i, hi, rfl⟩ := List.mem_drop_iff_getElem.1 hs
    simpa using h.lt_getElem (by omega) (by omega)
  rw [← List.take_append_drop (p.line + 1) t.lineStarts, List.countP_append, hbefore, hbehind]

theorem ofInts_eq (h : t.Locates p a) : ∃ start, t.lineStarts[p.line]? = some start ∧
    Position.ofInts (t.lineStarts.countP (fun s : Nat => s ≤ a) - 1 : Int) (a - start) = .ok p := by
  have hlt := h.line_lt
  have hstart := h.start_add_character
  have hcount := h.countP_eq
  exact ⟨_, List.getElem?_eq_getElem hlt, Position.ofInts_eq_ok (by omega) (by omega)⟩

end Locates

theorem position_eq_ok_iff {t : Text} {offset : Int} {p : Position} :
    t.position offset = .ok p ↔ (0 ≤ offset ∧ offset ≤ t.length) ∧ t.Locates p offset := by
  by_cases hinside : 0 ≤ offset ∧ offset ≤ t.length
  · obtain ⟨k, rfl⟩ := Int.eq_ofNat_of_zero_le hinside.1
    have hplace := t.locates_positionAt k
    rw [position_natCast (Int.ofNat_le.1 hinside.2), Except.ok.injEq]
    constructor
    · rintro rfl
      exact ⟨hinside, hplace⟩
    · exact fun h => hplace.unique h.2
  · rw [position, if_neg hinside]
    simp [hinside]

/-- An integer has a place if and only if it is an offset from the start of the text to its end. It
is the only place that names the offset, no check refuses its numbers, and places are ordered as the
offsets that they name. -/
theorem position_embeds_offsets (t : Text) :
    (∀ offset : Int, (∃ p, t.position offset = .ok p) ↔ 0 ≤ offset ∧ offset ≤ t.length) ∧
      (∀ (offset : Int) (p : Position), t.position offset = .ok p →
        t.Locates p offset ∧ (∀ q, t.Locates q offset → q = p) ∧
          ∃ start, t.lineStarts[p.line]? = some start ∧
            Position.ofInts (t.lineStarts.countP (fun s : Nat => s ≤ offset) - 1 : Int)
              (offset - start) = .ok p) ∧
      ∀ (a b : Int) (p q : Position), t.position a = .ok p → t.position b = .ok q →
        (a < b ↔ p < q) ∧ (a < b ↔ p.order q = .lt) := by
  refine ⟨fun offset => ?_, fun offset p hp => ?_, fun a b p q hp hq => ?_⟩
  · constructor
    · rintro ⟨p, hp⟩
      exact (position_eq_ok_iff.1 hp).1
    · intro hinside
      exact ⟨_, if_pos hinside⟩
  · have hplace := (position_eq_ok_iff.1 hp).2
    exact ⟨hplace, fun q hq => hq.unique hplace, hplace.ofInts_eq⟩
  · have hiff := (position_eq_ok_iff.1 hp).2.lt_iff_lt (position_eq_ok_iff.1 hq).2
    exact ⟨hiff, hiff.trans Position.order_eq_lt_iff.symm⟩

def twoLines : Text :=
  "a\r\nb".toList

/-- The offset between the two characters of the line end is still on the first line. -/
theorem position_embeds_offsets_twoLines : twoLines.position 2 = .ok ⟨0, 2⟩ ∧
    twoLines.position 3 = .ok ⟨1, 0⟩ ∧ (⟨0, 2⟩ : Position) < ⟨1, 0⟩ := by
  have hinside : twoLines.position 2 = .ok ⟨0, 2⟩ := rfl
  have hbehind : twoLines.position 3 = .ok ⟨1, 0⟩ := rfl
  obtain ⟨-, -, horder⟩ := position_embeds_offsets twoLines
  exact ⟨hinside, hbehind, (horder 2 3 _ _ hinside hbehind).1.1 (by decide)⟩

end Text

namespace Node

/-- A node starts on the line on which one before it ends if and only if no line break stands
between the two. -/
theorem sharesLine_iff_no_break {t : Text} {n next : Node} (hn : n.span.stop ≤ t.length)
    (hnext : next.span.stop ≤ t.length) (hle : n.span.stop ≤ next.span.start) :
    ∃ shares, n.sharesLine next t = .ok shares ∧
      (shares = true ↔ ¬ ∃ i, n.span.stop ≤ i ∧ i < next.span.start ∧ t.BreakAt i) := by
  have hstart : next.span.start ≤ t.length := next.span.start_le_stop.trans hnext
  refine ⟨_, sharesLine_eq hn hstart, ?_⟩
  -- Both nodes lie in the text, so the two offsets are compared by the line ends in between.
  have hline := Text.line_ne_iff (t := t) hle
  simp only [Text.endsLineAt_iff_breakAt] at hline
  rw [decide_eq_true_eq, ← hline, Decidable.not_not, lastLine, line]

def firstLetter : Node :=
  ⟨0, .other, .between 0 0 1, []⟩

def fromLineFeed : Node :=
  ⟨1, .other, .between 1 2 4, []⟩

def secondLetter : Node :=
  ⟨2, .other, .between 1 3 4, []⟩

/-- A line goes on between the two characters of its end. -/
theorem sharesLine_iff_no_break_twoLines : firstLetter.span.stop ≤ Text.twoLines.length ∧
    fromLineFeed.span.stop ≤ Text.twoLines.length ∧
    secondLetter.span.stop ≤ Text.twoLines.length ∧
    firstLetter.span.stop ≤ fromLineFeed.span.start ∧
    firstLetter.span.stop ≤ secondLetter.span.start ∧
    firstLetter.sharesLine fromLineFeed Text.twoLines = .ok true ∧
    firstLetter.sharesLine secondLetter Text.twoLines = .ok false := by
  have hfirst : firstLetter.span.stop ≤ Text.twoLines.length := by decide
  have hfeed : fromLineFeed.span.stop ≤ Text.twoLines.length := by decide
  have hsecond : secondLetter.span.stop ≤ Text.twoLines.length := by decide
  have hle : firstLetter.span.stop ≤ fromLineFeed.span.start := by decide
  have hle' : firstLetter.span.stop ≤ secondLetter.span.start := by decide
  obtain ⟨shares, hshares, hiff⟩ := sharesLine_iff_no_break hfirst hfeed hle
  obtain ⟨shares', hshares', hiff'⟩ := sharesLine_iff_no_break hfirst hsecond hle'
  have hyes : shares = true := by
    rw [hiff]
    rintro ⟨i, hi, hlt, hbreak⟩
    obtain rfl : i = 1 := Nat.le_antisymm (Nat.le_of_lt_succ hlt) hi
    exact absurd hbreak (by decide)
  have hno : shares' = false := by
    rw [← Bool.not_eq_true, hiff', not_not]
    exact ⟨2, by decide, by decide, by decide⟩
  exact ⟨hfirst, hfeed, hsecond, hle, hle', hyes ▸ hshares, hno ▸ hshares'⟩

end Node

end LayoutLint
