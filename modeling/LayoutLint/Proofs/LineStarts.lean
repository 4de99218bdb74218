import LayoutLint.Proofs.Lines

/-! Where the lines of a text begin, from where the lines of its parts begin. The parts do not
influence each other unless a carriage return at the end of one meets a line feed at the beginning
of the next, which end a line together. -/
namespace LayoutLint.Text

/-- The offset between a carriage return and a line feed that end a line together. -/
def InsidePair (t : Text) (k : Nat) : Prop :=
  0 < k ∧ t[k - 1]? = some '\r' ∧ t[k]? = some '\n'

instance (t : Text) (k : Nat) : Decidable (t.InsidePair k) :=
  inferInstanceAs (Decidable (_ ∧ _ ∧ _))

theorem insidePair_length_iff (t u : Text) :
    (t ++ u).InsidePair t.length ↔ t.getLast? = some '\r' ∧ u.head? = some '\n' := by
  unfold InsidePair
  rw [List.getElem?_append_right (Nat.le_refl _), Nat.sub_self, ← List.head?_eq_getElem?]
  constructor
  · rintro ⟨hpos, hlast, hhead⟩
    rw [List.getElem?_append_left (by omega), ← List.getLast?_eq_getElem?] at hlast
    exact ⟨hlast, hhead⟩
  · rintro ⟨hlast, hhead⟩
    have hpos : 0 < t.length := by
      cases t with
      | nil => simp at hlast
      | cons c rest => simp
    rw [List.getElem?_append_left (by omega), ← List.getLast?_eq_getElem?]
    exact ⟨hpos, hlast, hhead⟩

theorem startsAfter_append {t u : Text} (h : ¬ (t ++ u).InsidePair t.length) (i : Nat) :
    startsAfter i (t ++ u) = startsAfter i t ++ startsAfter (i + t.length) u := by
  rw [insidePair_length_iff] at h
  induction t generalizing i with
  | nil => rfl
  | cons c rest ih =>
    have hends : endsLine c (rest ++ u) = endsLine c rest := by
      cases rest with
      | nil =>
        by_cases hc : c = '\r'
        · have hnot : u.head? ≠ some '\n' := fun hu => h ⟨by simp [hc], hu⟩
          simp [endsLine, hnot]
        · simp [endsLine, hc]
      | cons d more => exact endsLine_congr rfl
    -- The last character of `t` stays the last one until nothing is left of `t`.
    have hrest : ¬ (rest.getLast? = some '\r' ∧ u.head? = some '\n') := by
      rintro ⟨hlast, hu⟩
      cases rest with
      | nil => simp at hlast
      | cons d more => exact h ⟨by rw [List.getLast?_cons_cons, hlast], hu⟩
    have hindex : i + (c :: rest).length = i + 1 + rest.length := by
      rw [List.length_cons]
      omega
    rw [List.cons_append, startsAfter, startsAfter, hends, ih hrest, hindex]
    split <;> rfl

theorem startsAfter_append_pair (t u : Text) (i : Nat) :
    startsAfter i (t ++ '\r' :: '\n' :: u) =
      startsAfter i t ++ startsAfter (i + t.length + 1) ('\n' :: u) := by
  rw [startsAfter_append (by simp [insidePair_length_iff])]
  rfl

theorem length_startsAfter (t : Text) (i : Nat) : (startsAfter i t).length = t.breaks := by
  induction t generalizing i with
  | nil => rfl
  | cons c rest ih =>
    rw [startsAfter, breaks]
    split
    · rw [List.length_cons, ih, Nat.add_comm]
    · rw [ih, Nat.zero_add]

theorem breaks_append {t u : Text} (h : ¬ (t ++ u).InsidePair t.length) :
    (t ++ u).breaks = t.breaks + u.breaks := by
  rw [← length_startsAfter (t ++ u) 0, startsAfter_append h, List.length_append,
    length_startsAfter, length_startsAfter]

theorem line_eq_breaks_take {t : Text} {k : Nat} (h : ¬ t.InsidePair k) (hk : k ≤ t.length) :
    (t.positionAt k).line = breaks (t.take k) := by
  have hlength : (t.take k).length = k := by
    rw [List.length_take]
    omega
  have hparts := breaks_append (t := t.take k) (u := t.drop k)
    (by rwa [List.take_append_drop, hlength])
  rw [List.take_append_drop] at hparts
  have hline := line_add_breaks_drop t k
  omega

theorem startsAfter_add (t : Text) (i k : Nat) :
    startsAfter (i + k) t = (startsAfter i t).map (· + k) := by
  induction t generalizing i with
  | nil => rfl
  | cons c rest ih =>
    have hindex : i + k + 1 = i + 1 + k := by omega
    rw [startsAfter, startsAfter, hindex, ih]
    split <;> rfl

theorem lineStarts_concat_return (t : Text) :
    lineStarts (t ++ ['\r']) = t.lineStarts ++ [t.length + 1] := by
  rw [lineStarts, startsAfter_append (by simp [insidePair_length_iff]), Nat.zero_add]
  rfl

/-- Of two texts, the second one keeps its lines, behind those of the first. The first one keeps its
lines as well, but not the one that its last carriage return begins if the line feed that belongs
to it comes first in the second. -/
theorem lineStarts_append (t u : Text) : ∃ behind, u.lineStarts = 0 :: behind ∧
    (t ++ u).lineStarts =
      (if t.getLast? = some '\r' ∧ u.head? = some '\n' then t.lineStarts.dropLast
        else t.lineStarts) ++ behind.map (· + t.length) := by
  have hshift : startsAfter (0 + t.length) u = (startsAfter 0 u).map (· + t.length) :=
    startsAfter_add u 0 t.length
  refine ⟨startsAfter 0 u, rfl, ?_⟩
  split
  · rename_i hpair
    obtain ⟨before, rfl⟩ := List.getLast?_eq_some_iff.1 hpair.1
    obtain ⟨rest, rfl⟩ := List.head?_eq_some_iff.1 hpair.2
    rw [List.length_append, List.length_singleton, ← Nat.add_assoc] at hshift
    rw [lineStarts_concat_return, List.dropLast_concat, lineStarts, List.append_assoc,
      List.singleton_append, startsAfter_append_pair, hshift, List.length_append,
      List.length_singleton]
    rfl
  · rename_i hparted
    rw [lineStarts, startsAfter_append (mt (insidePair_length_iff t u).1 hparted), hshift]
    rfl

example : lineStarts ['\r'] = [0, 1] ∧ lineStarts ['\n'] = [0, 1] ∧
    lineStarts ['\r', '\n'] = [0, 2] := by decide

theorem le_of_mem_startsAfter {t : Text} {i s : Nat} (h : s ∈ startsAfter i t) :
    s ≤ i + t.length := by
  induction t generalizing i with
  | nil => simp [startsAfter] at h
  | cons c rest ih =>
    rw [List.length_cons]
    rw [startsAfter] at h
    split at h
    · rcases List.mem_cons.1 h with rfl | h
      · omega
      · have := ih h
        omega
    · have := ih h
      omega

def passed (t : Text) (offset : Nat) : List Nat :=
  t.lineStarts.takeWhile (· ≤ offset)

theorem exists_passed_eq (t : Text) (offset : Nat) :
    ∃ before last, t.passed offset = before ++ [last] ∧ last ≤ offset := by
  rcases List.eq_nil_or_concat (t.passed offset) with hnone | ⟨before, last, hpassed⟩
  · simp [passed, lineStarts] at hnone
  · rw [List.concat_eq_append] at hpassed
    have hmem : last ∈ t.passed offset := by simp [hpassed]
    have hlast := List.all_eq_true.1 List.all_takeWhile last hmem
    exact ⟨before, last, hpassed, by simpa using hlast⟩

theorem positionAt_of_passed_eq {t : Text} {offset last : Nat} {before : List Nat}
    (h : t.passed offset = before ++ [last]) :
    t.positionAt offset = ⟨before.length, offset - last⟩ := by
  change Position.mk ((t.passed offset).length - 1) (offset - (t.passed offset).getLastD 0) = _
  rw [h, List.getLastD_concat, List.length_append, List.length_singleton, Nat.add_sub_cancel]

theorem getLast?_startsAfter {t : Text} (hne : t ≠ []) (h : ∀ c ∈ t.getLast?, isLineBreak c)
    (i : Nat) : (startsAfter i t).getLast? = some (i + t.length) := by
  induction t generalizing i with
  | nil => exact absurd rfl hne
  | cons c rest ih =>
    cases rest with
    | nil =>
      have hends : endsLine c [] := by simpa [endsLine] using h
      rw [startsAfter, if_pos hends]
      rfl
    | cons d more =>
      have hlast := ih (by simp) (by simpa using h) (i + 1)
      have hindex : i + (c :: d :: more).length = i + 1 + (d :: more).length := by
        rw [List.length_cons]
        omega
      rw [startsAfter, hindex, ← hlast]
      split
      · cases hstarts : startsAfter (i + 1) (d :: more) with
        | nil => simp [hstarts] at hlast
        | cons s ss => rw [List.getLast?_cons_cons]
      · rfl

theorem getLastD_lineStarts {t : Text} (h : ∀ c ∈ t.getLast?, isLineBreak c) :
    t.lineStarts.getLastD 0 = t.length := by
  cases t with
  | nil => rfl
  | cons c rest =>
    have hlast := getLast?_startsAfter (by simp) h 0
    rw [lineStarts, List.getLastD_cons, List.getLastD_eq_getLast?, hlast, Nat.zero_add,
      Option.getD_some]

private theorem takeWhile_append_of_nil {f : Nat → Bool} {l l' : List Nat}
    (h : l'.takeWhile f = []) : (l ++ l').takeWhile f = l.takeWhile f := by
  induction l with
  | nil => exact h
  | cons a rest ih =>
    rw [List.cons_append, List.takeWhile_cons, List.takeWhile_cons, ih]

variable {p t q : Text}

theorem lineStarts_middle (hstart : ¬ (p ++ t ++ q).InsidePair p.length)
    (hstop : ¬ (p ++ t ++ q).InsidePair (p.length + t.length)) :
    (p ++ t ++ q).lineStarts = p.lineStarts ++ (startsAfter 0 t).map (· + p.length) ++
      startsAfter (p.length + t.length) q := by
  rw [← List.length_append] at hstop
  have hjoint : ¬ (p ++ t).InsidePair p.length := by
    rw [List.append_assoc, insidePair_length_iff] at hstart
    rw [insidePair_length_iff]
    rintro ⟨hlast, hhead⟩
    exact hstart ⟨hlast, by simp [hhead]⟩
  rw [lineStarts, startsAfter_append hstop, startsAfter_append hjoint, startsAfter_add,
    Nat.zero_add, List.length_append]
  rfl

/-- A place in the middle of a text, when the middle begins a line: the column stays, and the line
comes after those before the middle. -/
theorem positionAt_middle (hbegin : ∀ c ∈ p.getLast?, isLineBreak c)
    (hstart : ¬ (p ++ t ++ q).InsidePair p.length)
    (hstop : ¬ (p ++ t ++ q).InsidePair (p.length + t.length)) {k : Nat} (hk : k ≤ t.length) :
    (p ++ t ++ q).positionAt (k + p.length) =
      ⟨(t.positionAt k).line + (p.lineStarts.length - 1), (t.positionAt k).character⟩ := by
  have hbefore : ∀ s ∈ p.lineStarts, s ≤ k + p.length := by
    intro s hs
    rcases List.mem_cons.1 hs with rfl | hs
    · omega
    · have := le_of_mem_startsAfter hs
      omega
  have hbehind : (startsAfter (p.length + t.length) q).takeWhile (· ≤ k + p.length) = [] := by
    cases hq : startsAfter (p.length + t.length) q with
    | nil => rfl
    | cons s ss =>
      have := lt_of_mem_startsAfter (s := s) (t := q) (i := p.length + t.length) (by simp [hq])
      rw [List.takeWhile_cons_of_neg]
      simp only [decide_eq_true_eq]
      omega
  -- Up to the place there are all line starts of `p`, those of `t` moved along, and none of `q`.
  have hpassed : (p ++ t ++ q).lineStarts.takeWhile (· ≤ k + p.length) =
      p.lineStarts ++ ((startsAfter 0 t).takeWhile (· ≤ k)).map (· + p.length) := by
    rw [lineStarts_middle hstart hstop, takeWhile_append_of_nil hbehind,
      List.takeWhile_append_of_pos (by simpa using hbefore), List.takeWhile_map]
    simp only [Function.comp_def, Nat.add_le_add_iff_right]
  have hself : t.lineStarts.takeWhile (· ≤ k) = 0 :: (startsAfter 0 t).takeWhile (· ≤ k) :=
    List.takeWhile_cons_of_pos (by simp)
  have hpos : 0 < p.lineStarts.length := Nat.succ_pos _
  have hlast := getLastD_lineStarts hbegin
  simp only [positionAt, hpassed, hself, Position.mk.injEq, List.length_append, List.length_map,
    List.length_cons]
  refine ⟨by omega, ?_⟩
  -- On the first line of `t` the column counts from the last line start of `p`, which is its end.
  rcases List.eq_nil_or_concat ((startsAfter 0 t).takeWhile (· ≤ k)) with hnone | ⟨before, s, hs⟩
  · rw [hnone, List.map_nil, List.append_nil, hlast]
    simp
  · rw [hs, List.concat_eq_append, List.map_append, List.map_singleton, ← List.append_assoc,
      List.getLastD_concat, ← List.cons_append, List.getLastD_concat]
    omega

theorem positionAt_of_no_end {t : Text} {k : Nat} (h : ∀ j < k, t.endsLineAt j = false) :
    t.positionAt k = ⟨0, k⟩ := by
  have hline : (t.positionAt k).line = 0 := by
    have hzero := line_add_breaks_drop t 0
    rw [List.drop_zero] at hzero
    refine Nat.eq_zero_of_not_pos fun hpos => ?_
    obtain ⟨j, -, hj, hends⟩ := (line_lt_iff (t := t) (Nat.zero_le k)).1 (by omega)
    simp [h j hj] at hends
  have hpassed : t.lineStarts.takeWhile (· ≤ k) = 0 :: (startsAfter 0 t).takeWhile (· ≤ k) :=
    List.takeWhile_cons_of_pos (by simp)
  have hnone : (startsAfter 0 t).takeWhile (· ≤ k) = [] := by
    simpa [positionAt, hpassed] using hline
  simp [positionAt, hpassed, hnone]

/-- A place on the line that a line feed begins: the lines before it are those of the text before
the line feed, unless a carriage return at the end of that text takes the line feed as well. -/
theorem positionAt_behind_break {before body : Text} (hlast : before.getLast? ≠ some '\r') {k : Nat}
    (hk : k ≤ body.length) (hbody : ∀ j < k, body.endsLineAt j = false) :
    (before ++ '\n' :: body).positionAt (before.length + 1 + k) = ⟨before.breaks + 1, k⟩ := by
  have htext : before ++ '\n' :: body = before ++ ['\n'] ++ body ++ [] := by simp
  have hoffset : before.length + 1 + k = k + (before ++ ['\n']).length := by
    rw [List.length_append, List.length_singleton]
    omega
  have hbreaks : breaks (before ++ ['\n']) = before.breaks + 1 := by
    rw [breaks_append fun h => hlast ((insidePair_length_iff before ['\n']).1 h).1]
    rfl
  have hstart : ¬ (before ++ ['\n'] ++ body ++ []).InsidePair (before ++ ['\n']).length := by
    rw [List.append_assoc, insidePair_length_iff]
    simp
  have hstop : ¬ (before ++ ['\n'] ++ body ++ []).InsidePair
      ((before ++ ['\n']).length + body.length) := by
    rw [← List.length_append, insidePair_length_iff]
    simp
  rw [htext, hoffset, positionAt_middle (by simp [isLineBreak]) hstart hstop hk,
    positionAt_of_no_end hbody, lineStarts, List.length_cons, length_startsAfter, hbreaks]
  simp

end LayoutLint.Text
