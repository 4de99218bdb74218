import LayoutLint.Proofs.Json.Scalars

/-! Reading inverts writing. In either layout the text of a value is read back as that value, and
the reader stops right behind it. Decimals are the exception, since equal ones are written alike. -/
namespace LayoutLint.Json

mutual

def Exact : Json → Prop
  | .decimal _ => False
  | .arr items => AllExact items
  | .obj fields => FieldsExact fields
  | _ => True

def AllExact : List Json → Prop
  | [] => True
  | v :: rest => Exact v ∧ AllExact rest

def FieldsExact : List (Text × Json) → Prop
  | [] => True
  | (_, v) :: rest => Exact v ∧ FieldsExact rest

end

namespace Reader

def Blank (gap : Text) : Prop :=
  ∀ c ∈ gap, isGap c

theorem blank_newLine (l : Layout) (depth : Nat) : Blank (l.newLine depth) := by
  intro c hc
  cases l with
  | oneLine => simp [Layout.newLine] at hc
  | indented width =>
    simp only [Layout.newLine, List.mem_cons, List.mem_replicate] at hc
    rcases hc with rfl | ⟨-, rfl⟩
    · rfl
    · rfl

theorem skipGap_append {gap : Text} (h : Blank gap) (t : Text) : skipGap (gap ++ t) = skipGap t :=
  List.dropWhile_append_of_pos h

theorem skipGap_cons {c : Char} (h : isGap c = false) (t : Text) : skipGap (c :: t) = c :: t :=
  List.dropWhile_cons_of_neg (by simp [h])

theorem exists_comma_newLine (l : Layout) (depth : Nat) :
    ∃ gap, l.comma ++ l.newLine depth = ',' :: gap ∧ Blank gap := by
  cases l with
  | oneLine => exact ⟨[' '], rfl, by simp [Blank, isGap]⟩
  | indented width => exact ⟨_, rfl, blank_newLine (.indented width) depth⟩

theorem head?_renderItems (l : Layout) (depth : Nat) (vs : List Json) :
    ∀ c ∈ (renderItems l depth vs).head?, c = ',' := by
  cases vs with
  | nil => simp [renderItems]
  | cons v vs => cases l <;> simp [renderItems, Layout.comma]

theorem head?_renderFields (l : Layout) (depth : Nat) (fs : List (Text × Json)) :
    ∀ c ∈ (renderFields l depth fs).head?, c = ',' := by
  cases fs with
  | nil => simp [renderFields]
  | cons f fs => cases l <;> simp [renderFields, Layout.comma]

theorem endsNumber_append {gap t : Text} (hgap : Blank gap) (ht : EndsNumber t) :
    EndsNumber (gap ++ t) := by
  cases gap with
  | nil => exact ht
  | cons c gap =>
    have hc := hgap c List.mem_cons_self
    simp only [isGap, Bool.or_eq_true, decide_eq_true_eq] at hc
    refine endsNumber_cons ?_ _
    rcases hc with ((rfl | rfl) | rfl) | rfl <;> decide

theorem endsNumber_behind_item {more gap : Text} {close : Char} (hmore : ∀ c ∈ more.head?, c = ',')
    (hgap : Blank gap) (hclose : close = ']' ∨ close = '\x7d') (rest : Text) :
    EndsNumber (more ++ (gap ++ close :: rest)) := by
  cases more with
  | cons c more =>
    obtain rfl := hmore c rfl
    exact endsNumber_cons (by decide) _
  | nil =>
    rw [List.nil_append]
    refine endsNumber_append hgap ?_
    rcases hclose with rfl | rfl <;> exact endsNumber_cons (by decide) rest

theorem exists_renderAt_eq_cons {v : Json} (hv : v.Exact) (l : Layout) (depth : Nat) :
    ∃ c more, renderAt l depth v = c :: more ∧ isGap c = false ∧ c ≠ ']' ∧ c ≠ '\x7d' := by
  cases v with
  | null => exact ⟨'n', _, rfl, by decide⟩
  | bool b => cases b <;> exact ⟨_, _, rfl, by decide⟩
  | int i =>
    obtain ⟨c, more, hi, hc⟩ := exists_ofInt_eq_cons i
    have hother : ∀ d, d.isDigit = false → d ≠ '-' → c ≠ d :=
      fun _ => ne_of_begins_number hc
    refine ⟨c, more, hi, ?_, hother _ rfl (by decide), hother _ rfl (by decide)⟩
    simp only [isGap, Bool.or_eq_false_iff, decide_eq_false_iff_not]
    exact ⟨⟨⟨hother _ rfl (by decide), hother _ rfl (by decide)⟩, hother _ rfl (by decide)⟩,
      hother _ rfl (by decide)⟩
  | decimal d => exact absurd hv (by simp [Exact])
  | nan => exact ⟨'N', _, rfl, by decide⟩
  | str s => exact ⟨'"', _, rfl, by decide⟩
  | arr items => cases items <;> exact ⟨'[', _, rfl, by decide⟩
  | obj fields => cases fields <;> exact ⟨'\x7b', _, rfl, by decide⟩

theorem element_scalar {c : Char} (harray : c ≠ '[') (hobject : c ≠ '\x7b') (n : Nat)
    (more : Text) : element (n + 1) (c :: more) = scalar (c :: more) := by
  rw [element]
  · exact fun _ h => harray (List.cons.inj h).1
  · exact fun _ h => hobject (List.cons.inj h).1

theorem element_array {t u : Text} (ht : skipGap t = u) (hu : u.head? ≠ some ']') (n : Nat) :
    element (n + 1) ('[' :: t) = (items n u).map fun (vs, rest) => (.arr vs, rest) := by
  rw [element, ht]
  split
  · exact absurd rfl hu
  · rfl

theorem element_object {t u : Text} (ht : skipGap t = u) (hu : u.head? ≠ some '\x7d') (n : Nat) :
    element (n + 1) ('\x7b' :: t) = (fields n u).map fun (fs, rest) => (.obj fs, rest) := by
  rw [element, ht]
  split
  · exact absurd rfl hu
  · rfl

/-- With that many steps values, items and fields are read back. Two steps for each character are
enough, and one more in front of items and fields. -/
structure ReadsBack (l : Layout) (n : Nat) : Prop where
  element : ∀ v depth rest, v.Exact → EndsNumber rest → 2 * (renderAt l depth v).length ≤ n →
    element n (renderAt l depth v ++ rest) = some (v, rest)
  items : ∀ v vs depth gap rest, v.Exact → AllExact vs → Blank gap →
    2 * ((renderAt l depth v).length + (renderItems l depth vs).length) + 1 ≤ n →
    items n (renderAt l depth v ++ (renderItems l depth vs ++ (gap ++ ']' :: rest))) =
      some (v :: vs, rest)
  fields : ∀ name v fs depth gap rest, v.Exact → FieldsExact fs → Blank gap →
    2 * ((renderAt l depth v).length + (renderFields l depth fs).length) + 1 ≤ n →
    fields n (stringText name ++ ':' :: ' ' :: (renderAt l depth v ++
      (renderFields l depth fs ++ (gap ++ '\x7d' :: rest)))) = some ((name, v) :: fs, rest)

variable {l : Layout} {n : Nat}

theorem skipGap_renderAt {v : Json} (hv : v.Exact) (l : Layout) (depth : Nat) (rest : Text) :
    skipGap (renderAt l depth v ++ rest) = renderAt l depth v ++ rest := by
  obtain ⟨c, more, htext, hgap, -⟩ := exists_renderAt_eq_cons hv l depth
  rw [htext, List.cons_append, skipGap_cons hgap]

theorem skipGap_stringText (s rest : Text) :
    skipGap (stringText s ++ rest) = stringText s ++ rest :=
  skipGap_cons rfl _

theorem items_of_close {t u rest : Text} {v : Json} (ht : Reader.element n t = some (v, u))
    (hu : skipGap u = ']' :: rest) : Reader.items (n + 1) t = some ([v], rest) := by
  simp only [Reader.items, ht, Option.bind_eq_bind, Option.bind_some, hu]
  rfl

theorem items_of_comma {t u more : Text} {v : Json} (ht : Reader.element n t = some (v, u))
    (hu : skipGap u = ',' :: more) : Reader.items (n + 1) t =
      (Reader.items n (skipGap more)).map fun (vs, rest) => (v :: vs, rest) := by
  simp only [Reader.items, ht, Option.bind_eq_bind, Option.bind_some, hu]
  cases Reader.items n (skipGap more) <;> rfl

theorem fields_of_close {name t u rest : Text} {v : Json} (hgap : skipGap t = t)
    (ht : Reader.element n t = some (v, u)) (hu : skipGap u = '\x7d' :: rest) :
    Reader.fields (n + 1) (stringText name ++ ':' :: ' ' :: t) = some ([(name, v)], rest) := by
  have hcolon : skipGap (':' :: ' ' :: t) = ':' :: ' ' :: t := skipGap_cons rfl _
  have hblank : skipGap (' ' :: t) = t := hgap
  rw [stringText_append, Reader.fields, string_stringText]
  simp only [Option.bind_eq_bind, Option.bind_some, hcolon, hblank, ht, hu]
  rfl

theorem fields_of_comma {name t u more : Text} {v : Json} (hgap : skipGap t = t)
    (ht : Reader.element n t = some (v, u)) (hu : skipGap u = ',' :: more) :
    Reader.fields (n + 1) (stringText name ++ ':' :: ' ' :: t) =
      (Reader.fields n (skipGap more)).map fun (fs, rest) => ((name, v) :: fs, rest) := by
  have hcolon : skipGap (':' :: ' ' :: t) = ':' :: ' ' :: t := skipGap_cons rfl _
  have hblank : skipGap (' ' :: t) = t := hgap
  rw [stringText_append, Reader.fields, string_stringText]
  simp only [Option.bind_eq_bind, Option.bind_some, hcolon, hblank, ht, hu]
  cases Reader.fields n (skipGap more) <;> rfl

theorem ReadsBack.array_succ (h : ReadsBack l n) (v : Json) (vs : List Json) (depth : Nat)
    (rest : Text) (hv : v.Exact) (hvs : AllExact vs)
    (hn : 2 * (renderAt l depth (.arr (v :: vs))).length ≤ n + 1) :
    Reader.element (n + 1) (renderAt l depth (.arr (v :: vs)) ++ rest) =
      some (.arr (v :: vs), rest) := by
  have hskip := (skipGap_append (blank_newLine l (depth + 1)) _).trans
    (skipGap_renderAt hv l (depth + 1)
      (renderItems l (depth + 1) vs ++ (l.newLine depth ++ ']' :: rest)))
  have hhead : (renderAt l (depth + 1) v ++
      (renderItems l (depth + 1) vs ++ (l.newLine depth ++ ']' :: rest))).head? ≠ some ']' := by
    obtain ⟨c, more, htext, -, hclose, -⟩ := exists_renderAt_eq_cons hv l (depth + 1)
    simpa [htext] using hclose
  have hlength : 2 * ((renderAt l (depth + 1) v).length +
      (renderItems l (depth + 1) vs).length) + 1 ≤ n := by
    simp only [renderAt, List.length_append, List.length_cons] at hn
    omega
  simp only [renderAt, List.cons_append, List.append_assoc, List.nil_append]
  rw [element_array hskip hhead,
    h.items v vs (depth + 1) _ rest hv hvs (blank_newLine l depth) hlength]
  rfl

theorem ReadsBack.object_succ (h : ReadsBack l n) (name : Text) (v : Json)
    (fs : List (Text × Json)) (depth : Nat) (rest : Text) (hv : v.Exact) (hfs : FieldsExact fs)
    (hn : 2 * (renderAt l depth (.obj ((name, v) :: fs))).length ≤ n + 1) :
    Reader.element (n + 1) (renderAt l depth (.obj ((name, v) :: fs)) ++ rest) =
      some (.obj ((name, v) :: fs), rest) := by
  have hskip := (skipGap_append (blank_newLine l (depth + 1)) _).trans
    (skipGap_stringText name (':' :: ' ' :: (renderAt l (depth + 1) v ++
      (renderFields l (depth + 1) fs ++ (l.newLine depth ++ '\x7d' :: rest)))))
  have hlength : 2 * ((renderAt l (depth + 1) v).length +
      (renderFields l (depth + 1) fs).length) + 1 ≤ n := by
    simp only [renderAt, List.length_append, List.length_cons] at hn
    omega
  simp only [renderAt, List.cons_append, List.append_assoc, List.nil_append]
  rw [element_object hskip (by simp [stringText]),
    h.fields name v fs (depth + 1) _ rest hv hfs (blank_newLine l depth) hlength]
  rfl

theorem ReadsBack.element_succ (h : ReadsBack l n) (v : Json) (depth : Nat) (rest : Text)
    (hv : v.Exact) (hrest : EndsNumber rest) (hn : 2 * (renderAt l depth v).length ≤ n + 1) :
    Reader.element (n + 1) (renderAt l depth v ++ rest) = some (v, rest) := by
  cases v with
  | null => exact (element_scalar (by decide) (by decide) n _).trans (scalar_null rest)
  | bool b =>
    rw [renderAt, ← scalar_bool b rest]
    cases b <;> exact element_scalar (by decide) (by decide) n _
  | int i =>
    obtain ⟨c, more, hi, hc⟩ := exists_ofInt_eq_cons i
    rw [renderAt, ← scalar_ofInt hrest, hi]
    exact element_scalar (ne_of_begins_number hc rfl (by decide))
      (ne_of_begins_number hc rfl (by decide)) n _
  | decimal d => exact absurd hv (by simp [Exact])
  | nan => exact (element_scalar (by decide) (by decide) n _).trans (scalar_nan rest)
  | str s =>
    rw [renderAt, ← scalar_stringText]
    exact element_scalar (by decide) (by decide) n _
  | arr items =>
    cases items with
    | nil =>
      rw [renderAt]
      rfl
    | cons v vs => exact h.array_succ v vs depth rest hv.1 hv.2 hn
  | obj fields =>
    cases fields with
    | nil =>
      rw [renderAt]
      rfl
    | cons field fs => exact h.object_succ field.1 field.2 fs depth rest hv.1 hv.2 hn

theorem ReadsBack.items_succ (h : ReadsBack l n) (v : Json) (vs : List Json) (depth : Nat)
    (gap rest : Text) (hv : v.Exact) (hvs : AllExact vs) (hgap : Blank gap)
    (hn : 2 * ((renderAt l depth v).length + (renderItems l depth vs).length) + 1 ≤ n + 1) :
    Reader.items (n + 1) (renderAt l depth v ++ (renderItems l depth vs ++ (gap ++ ']' :: rest))) =
      some (v :: vs, rest) := by
  have hread := h.element v depth (renderItems l depth vs ++ (gap ++ ']' :: rest)) hv
    (endsNumber_behind_item (head?_renderItems l depth vs) hgap (Or.inl rfl) rest) (by omega)
  cases vs with
  | nil => exact items_of_close hread ((skipGap_append hgap _).trans (skipGap_cons rfl rest))
  | cons next vs =>
    obtain ⟨hnext, hvs⟩ := hvs
    obtain ⟨comma, hcomma, hblank⟩ := exists_comma_newLine l depth
    -- The comma is the character whose steps pay for the next call.
    simp only [renderItems, hcomma, List.length_append, List.length_cons] at hn
    simp only [renderItems, hcomma, List.append_assoc, List.cons_append] at hread ⊢
    rw [items_of_comma hread (skipGap_cons rfl _), skipGap_append hblank,
      skipGap_renderAt hnext, h.items next vs depth gap rest hnext hvs hgap (by omega)]
    rfl

theorem ReadsBack.fields_succ (h : ReadsBack l n) (name : Text) (v : Json)
    (fs : List (Text × Json)) (depth : Nat) (gap rest : Text) (hv : v.Exact) (hfs : FieldsExact fs)
    (hgap : Blank gap)
    (hn : 2 * ((renderAt l depth v).length + (renderFields l depth fs).length) + 1 ≤ n + 1) :
    Reader.fields (n + 1) (stringText name ++ ':' :: ' ' :: (renderAt l depth v ++
      (renderFields l depth fs ++ (gap ++ '\x7d' :: rest)))) = some ((name, v) :: fs, rest) := by
  have hread := h.element v depth (renderFields l depth fs ++ (gap ++ '\x7d' :: rest)) hv
    (endsNumber_behind_item (head?_renderFields l depth fs) hgap (Or.inr rfl) rest) (by omega)
  have hskip := skipGap_renderAt hv l depth (renderFields l depth fs ++ (gap ++ '\x7d' :: rest))
  cases fs with
  | nil =>
    exact fields_of_close hskip hread ((skipGap_append hgap _).trans (skipGap_cons rfl rest))
  | cons field fs =>
    obtain ⟨next, w⟩ := field
    obtain ⟨hw, hfs⟩ := hfs
    obtain ⟨comma, hcomma, hblank⟩ := exists_comma_newLine l depth
    simp only [renderFields, hcomma, List.length_append, List.length_cons] at hn
    simp only [renderFields, hcomma, List.append_assoc, List.cons_append] at hread hskip ⊢
    rw [fields_of_comma hskip hread (skipGap_cons rfl _), skipGap_append hblank,
      skipGap_stringText, h.fields next w fs depth gap rest hw hfs hgap (by omega)]
    rfl

/-- Reading inverts writing with any number of steps that is large enough. -/
theorem readsBack (l : Layout) (n : Nat) : ReadsBack l n := by
  induction n with
  | zero =>
    -- Every written value has a first character, so none is short enough for no steps at all.
    refine ⟨fun v depth rest hv _ hn => ?_, fun _ _ _ _ _ _ _ _ hn => ?_,
      fun _ _ _ _ _ _ _ _ _ hn => ?_⟩
    · obtain ⟨c, more, htext, -⟩ := exists_renderAt_eq_cons hv l depth
      rw [htext, List.length_cons] at hn
      omega
    · omega
    · omega
  | succ n ih => exact ⟨ih.element_succ, ih.items_succ, ih.fields_succ⟩

end Reader

theorem read?_render_append {v : Json} (hv : v.Exact) (l : Layout) {gap : Text}
    (hgap : Reader.Blank gap) : read? (v.render l ++ gap) = some v := by
  have hends : Reader.EndsNumber gap :=
    List.append_nil gap ▸ Reader.endsNumber_append hgap Reader.endsNumber_nil
  have hskip : Reader.skipGap gap = [] := List.append_nil gap ▸ Reader.skipGap_append hgap []
  have hread := (Reader.readsBack l (2 * (v.render l ++ gap).length + 1)).element v 0 gap hv hends
    (by rw [List.length_append, render]; omega)
  rw [read?, show v.render l ++ gap = renderAt l 0 v ++ gap from rfl,
    Reader.skipGap_renderAt hv l 0 gap]
  rw [render] at hread
  simp only [hread, hskip, if_true]

end LayoutLint.Json
