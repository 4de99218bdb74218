import LayoutLint.Check.Constructor
import LayoutLint.Proofs.Lines

/-! What breaking the line at commas does to the places of a text. Each break adds one line end
and takes out one space. All else is carried over, and what stands behind an offset is rewritten
as it would be by itself, so places and lines can be counted from the end. -/
namespace LayoutLint.Constructor

def beginsBreak : Text → Bool
  | ',' :: ' ' :: rest => rest.head? ≠ some '\n'
  | _ => false

def breaksAt (t : Text) (j : Nat) : Bool :=
  beginsBreak (t.drop j)

def brokenCommas : Text → Nat
  | [] => 0
  | c :: rest => (if beginsBreak (c :: rest) then 1 else 0) + brokenCommas rest

/-- The place of a character once the line is broken at commas. A space that a break takes out
has the place of the last blank put in. -/
def carried (indent t : Text) (i : Nat) : Nat :=
  (breakCommas indent t).length - (breakCommas indent (t.drop i)).length

variable {indent : Text}

@[simp] theorem carried_zero (t : Text) : carried indent t 0 = 0 := by
  simp [carried]

theorem breaksAt_iff {t : Text} {j : Nat} :
    breaksAt t j ↔ t[j]? = some ',' ∧ t[j + 1]? = some ' ' ∧ t[j + 2]? ≠ some '\n' := by
  have hnext : ∀ i, t[j + i]? = (t.drop j)[i]? := fun i => by rw [List.getElem?_drop]
  rw [← Nat.add_zero j, hnext 0, Nat.add_zero, hnext 1, hnext 2, breaksAt]
  unfold beginsBreak
  split
  · rename_i rest hdrop
    simp [hdrop, List.head?_eq_getElem?]
  · rename_i hother
    refine iff_of_false Bool.false_ne_true ?_
    rintro ⟨hcomma, hspace, -⟩
    cases hdrop : t.drop j with
    | nil => simp [hdrop] at hcomma
    | cons c rest =>
      cases rest with
      | nil => simp [hdrop] at hspace
      | cons d rest =>
        simp only [hdrop, List.getElem?_cons_zero, List.getElem?_cons_succ,
          Option.some.injEq] at hcomma hspace
        exact hother rest (by rw [hdrop, hcomma, hspace])

theorem brokenCommas_drop_eq (t : Text) (k : Nat) : brokenCommas (t.drop k) =
    (if breaksAt t k then 1 else 0) + brokenCommas (t.drop (k + 1)) := by
  unfold breaksAt
  rw [← List.drop_drop]
  cases t.drop k with
  | nil => simp [brokenCommas, beginsBreak]
  | cons c rest => simp [brokenCommas]

theorem brokenCommas_comma_space (rest : Text) : brokenCommas (',' :: ' ' :: rest) =
    (if rest.head? = some '\n' then 0 else 1) + brokenCommas rest := by
  simp [brokenCommas, beginsBreak]

theorem brokenCommas_cons_of_not {c : Char} {rest : Text}
    (h : ∀ more, c = ',' → rest = ' ' :: more → False) :
    brokenCommas (c :: rest) = brokenCommas rest := by
  rw [brokenCommas, beginsBreak]
  · simp
  · intro more hc
    obtain ⟨rfl, rfl⟩ := List.cons.inj hc
    exact h more rfl rfl

@[simp] theorem head?_breakCommas (t : Text) : (breakCommas indent t).head? = t.head? := by
  fun_cases breakCommas indent t <;> simp

theorem breakCommas_append_of_not_mem {t : Text} (h : ',' ∉ t) (rest : Text) :
    breakCommas indent (t ++ rest) = t ++ breakCommas indent rest := by
  induction t with
  | nil => rfl
  | cons c more ih =>
    rw [List.mem_cons, not_or] at h
    rw [List.cons_append, breakCommas, ih h.2, List.cons_append]
    exact fun _ hc _ => h.1 hc.symm

theorem breakCommas_of_not_mem {t : Text} (h : ',' ∉ t) : breakCommas indent t = t := by
  have hkept : breakCommas indent (t ++ []) = t ++ breakCommas indent [] :=
    breakCommas_append_of_not_mem h []
  rw [List.append_nil, breakCommas, List.append_nil] at hkept
  exact hkept

/-- What stands before a line feed is rewritten as if nothing stood behind it. -/
theorem breakCommas_append_lineFeed (t rest : Text) : breakCommas indent (t ++ '\n' :: rest) =
    breakCommas indent (t ++ ['\n']) ++ breakCommas indent rest := by
  have hhead : ∀ more : Text, (more ++ '\n' :: rest).head? = (more ++ ['\n']).head? := by
    intro more
    cases more <;> rfl
  fun_induction breakCommas indent t with
  | case1 => simp [breakCommas]
  | case2 more hnewline ih =>
    simp only [List.cons_append, breakCommas, hhead, ih]
    split <;> simp
  | case3 more hother ih =>
    simp only [List.cons_append, breakCommas, hhead, ih]
    split <;> simp
  | case4 c more hother ih =>
    -- A comma at the end of the text has a line feed behind it, not a space.
    have hnot : ∀ u u', c = ',' → more ++ '\n' :: u = ' ' :: u' → False := by
      intro u u' hc hu
      cases more with
      | nil => simp at hu
      | cons d more =>
        obtain ⟨rfl, -⟩ := List.cons.inj hu
        exact hother more hc rfl
    rw [List.cons_append, List.cons_append, breakCommas, breakCommas, ih, List.cons_append]
    · exact hnot []
    · exact hnot rest

theorem breakCommas_cons_of_not_break {c : Char} {rest : Text}
    (h : beginsBreak (c :: rest) = false) :
    breakCommas indent (c :: rest) = c :: breakCommas indent rest := by
  rw [breakCommas.eq_def]
  split
  · rename_i hnil
    cases hnil
  · rename_i more hcomma
    obtain ⟨rfl, rfl⟩ := List.cons.inj hcomma
    have hnewline : more.head? = some '\n' := by simpa [beginsBreak] using h
    rw [if_pos hnewline, breakCommas]
    exact fun _ hc _ => absurd hc (by decide)
  · rename_i hother
    obtain ⟨rfl, rfl⟩ := List.cons.inj hother
    rfl

theorem breakCommas_drop_of_not {t : Text} {i : Nat} (hi : i < t.length)
    (h : breaksAt t i = false) :
    breakCommas indent (t.drop i) = t[i] :: breakCommas indent (t.drop (i + 1)) := by
  rw [breaksAt, List.drop_eq_getElem_cons hi] at h
  rw [List.drop_eq_getElem_cons hi, breakCommas_cons_of_not_break h]

theorem breakCommas_drop_of_breaksAt {t : Text} {i : Nat} (h : breaksAt t i) :
    breakCommas indent (t.drop i) =
      ',' :: '\n' :: indent ++ breakCommas indent (t.drop (i + 2)) := by
  rw [← List.drop_drop]
  unfold breaksAt beginsBreak at h
  split at h
  · rename_i rest hdrop
    rw [hdrop, breakCommas, if_neg (by simpa using h)]
    rfl
  · cases h

theorem breaks_cons_of_not {c : Char} (h : isLineBreak c = false) (rest : Text) :
    Text.breaks (c :: rest) = rest.breaks := by
  simp [Text.breaks, endsLine, h]

theorem breaks_append_of_not {t : Text} (h : ∀ c ∈ t, isLineBreak c = false) (rest : Text) :
    (t ++ rest).breaks = rest.breaks := by
  induction t with
  | nil => rfl
  | cons c more ih =>
    rw [List.cons_append, breaks_cons_of_not (h c List.mem_cons_self)]
    exact ih fun d hd => h d (List.mem_cons_of_mem c hd)

theorem breaks_lineFeed (rest : Text) : Text.breaks ('\n' :: rest) = 1 + rest.breaks := by
  rw [Text.breaks, if_pos (Text.endsLine_lineFeed rest)]

theorem breaks_breakCommas_append (hindent : ∀ c ∈ indent, isLineBreak c = false)
    (t rest : Text) :
    (breakCommas indent t ++ rest).breaks = (t ++ rest).breaks + brokenCommas t := by
  fun_induction breakCommas indent t with
  | case1 => rfl
  | case2 more hnewline ih =>
    have hcomma : isLineBreak ',' = false := by decide
    have hspace : isLineBreak ' ' = false := by decide
    simp only [List.cons_append, breaks_cons_of_not hcomma, breaks_cons_of_not hspace,
      brokenCommas_comma_space, if_pos hnewline, ih]
    omega
  | case3 more hother ih =>
    have hcomma : isLineBreak ',' = false := by decide
    have hspace : isLineBreak ' ' = false := by decide
    simp only [List.cons_append, List.append_assoc, breaks_lineFeed, breaks_cons_of_not hcomma,
      breaks_cons_of_not hspace, breaks_append_of_not hindent, brokenCommas_comma_space,
      if_neg hother, ih]
    omega
  | case4 c more hother ih =>
    -- Whether a line ends here is up to the next character, which the breaks leave as it is.
    have hhead : (breakCommas indent more ++ rest).head? = (more ++ rest).head? := by
      rw [List.head?_append, List.head?_append, head?_breakCommas]
    rw [List.cons_append, List.cons_append, Text.breaks, Text.breaks, Text.endsLine_congr hhead, ih,
      brokenCommas_cons_of_not hother]
    omega

theorem brokenCommas_append_of_not_mem {t : Text} (h : ',' ∉ t) (rest : Text) :
    brokenCommas (t ++ rest) = brokenCommas rest := by
  induction t with
  | nil => rfl
  | cons c more ih =>
    rw [List.mem_cons, not_or] at h
    rw [List.cons_append, brokenCommas_cons_of_not fun _ hc _ => h.1 hc.symm, ih h.2]

theorem brokenCommas_breakCommas (hindent : ',' ∉ indent) (t : Text) :
    brokenCommas (breakCommas indent t) = 0 := by
  fun_induction breakCommas indent t with
  | case1 => rfl
  | case2 more hnewline ih =>
    rw [brokenCommas_comma_space, head?_breakCommas, if_pos hnewline, ih]
  | case3 more hother ih =>
    have hframe : ',' ∉ '\n' :: indent := by simpa using hindent
    rw [List.cons_append, brokenCommas_cons_of_not (by simp),
      brokenCommas_append_of_not_mem hframe, ih]
  | case4 c more hother ih =>
    rw [brokenCommas_cons_of_not, ih]
    intro rest hc hrest
    have hhead : (breakCommas indent more).head? = more.head? := head?_breakCommas more
    rw [hrest, List.head?_cons] at hhead
    obtain ⟨rest', hmore⟩ := List.head?_eq_some_iff.1 hhead.symm
    exact hother rest' hc hmore

theorem not_breaksAt_breakCommas (hindent : ',' ∉ indent) (t : Text) (j : Nat) :
    ¬ breaksAt (breakCommas indent t) j := by
  intro hj
  have hnone := brokenCommas_breakCommas hindent t
  have hstep := brokenCommas_drop_eq (breakCommas indent t)
  have hanti := Text.left_anti hstep (Nat.zero_le j)
  rw [hstep j, if_pos hj, List.drop_zero] at hanti
  omega

private theorem exists_drop_breakCommas (hindent : indent ≠ []) (t : Text) (i : Nat) :
    ∃ k ≤ (breakCommas indent t).length,
      (breakCommas indent t).drop k = breakCommas indent (t.drop i) ∨
        ∃ rest, ∃ c ∈ indent, t.drop i = ' ' :: rest ∧
          (breakCommas indent t).drop k = c :: breakCommas indent rest := by
  fun_induction breakCommas indent t generalizing i with
  | case1 => exact ⟨0, Nat.le_refl _, by simp [breakCommas]⟩
  | case2 more hnewline ih =>
    rcases i with _ | _ | i
    · exact ⟨0, Nat.zero_le _, by simp [breakCommas, hnewline]⟩
    · exact ⟨1, by simp, by simp [breakCommas]⟩
    · obtain ⟨k, hk, hdrop⟩ := ih i
      exact ⟨k + 2, by simpa using hk, hdrop⟩
  | case3 more hother ih =>
    rcases i with _ | _ | i
    · exact ⟨0, Nat.zero_le _, by simp [breakCommas, hother]⟩
    · -- The space is gone: its place is that of the last blank.
      obtain ⟨before, last, hlast⟩ := List.eq_nil_or_concat indent |>.resolve_left hindent
      refine ⟨before.length + 2, by simp [hlast], Or.inr ⟨more, last, ?_, rfl, ?_⟩⟩
      · simp [hlast]
      · simp [hlast]
    · obtain ⟨k, hk, hdrop⟩ := ih i
      refine ⟨indent.length + k + 2, by simpa using hk, ?_⟩
      have hskip : (',' :: '\n' :: indent ++ breakCommas indent more).drop
          (indent.length + k + 2) = (breakCommas indent more).drop k := by
        simp [← List.drop_drop]
      rw [hskip]
      exact hdrop
  | case4 c more hother ih =>
    cases i with
    | zero => exact ⟨0, Nat.zero_le _, by simp [breakCommas]⟩
    | succ i =>
      obtain ⟨k, hk, hdrop⟩ := ih i
      exact ⟨k + 1, Nat.succ_le_succ hk, hdrop⟩

theorem drop_carried (hindent : indent ≠ []) (t : Text) (i : Nat) :
    carried indent t i ≤ (breakCommas indent t).length ∧
      ((breakCommas indent t).drop (carried indent t i) = breakCommas indent (t.drop i) ∨
        ∃ rest, ∃ c ∈ indent, t.drop i = ' ' :: rest ∧
          (breakCommas indent t).drop (carried indent t i) = c :: breakCommas indent rest) := by
  obtain ⟨k, hk, hdrop⟩ := exists_drop_breakCommas hindent t i
  have hlength : ((breakCommas indent t).drop k).length =
      (breakCommas indent (t.drop i)).length := by
    rcases hdrop with hdrop | ⟨rest, c, -, hspace, hdrop⟩
    · rw [hdrop]
    · rw [hdrop, hspace]
      simp [breakCommas]
  have hplace : carried indent t i = k := by
    rw [carried, ← hlength, List.length_drop]
    omega
  rw [hplace]
  exact ⟨hk, hdrop⟩

/-- From the place of a character on, other than a space, the text is what the breaks make of
what began with that character. -/
theorem drop_carried_eq (hindent : indent ≠ []) {t : Text} {i : Nat} (h : t[i]? ≠ some ' ') :
    (breakCommas indent t).drop (carried indent t i) = breakCommas indent (t.drop i) := by
  rcases (drop_carried hindent t i).2 with hdrop | ⟨rest, c, -, hspace, -⟩
  · exact hdrop
  · rw [← List.head?_drop, hspace] at h
    exact absurd rfl h

theorem breaks_drop_carried (hindent : indent ≠ [])
    (hblank : ∀ c ∈ indent, isLineBreak c = false) (t rest : Text) (i : Nat) :
    Text.breaks ((breakCommas indent t ++ rest).drop (carried indent t i)) =
      Text.breaks (t.drop i ++ rest) + brokenCommas (t.drop i) := by
  obtain ⟨hle, hdrop⟩ := drop_carried hindent t i
  rw [List.drop_append_of_le_length hle]
  rcases hdrop with hdrop | ⟨more, c, hc, hspace, hdrop⟩
  · rw [hdrop, breaks_breakCommas_append hblank]
  · have hplain : isLineBreak ' ' = false := by decide
    have hnot : ∀ u, ' ' = ',' → more = ' ' :: u → False := fun _ h => absurd h (by decide)
    rw [hdrop, hspace, List.cons_append, List.cons_append, breaks_cons_of_not (hblank c hc),
      breaks_cons_of_not hplain, brokenCommas_cons_of_not hnot, breaks_breakCommas_append hblank]

end LayoutLint.Constructor
