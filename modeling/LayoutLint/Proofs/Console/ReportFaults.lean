import LayoutLint.Proofs.Console.Readings
import LayoutLint.Proofs.Writing

/-! Which reports cannot be written for a terminal. Messages and fixes are escaped before they are
read as markup and the file name is not, so that nothing but the file name is ever refused. Besides,
the numbers of a report may have too many digits. -/
namespace LayoutLint

theorem Position.mem_of_mem_text {p : Position} {c : Char} (h : c ∈ p.text) :
    c ∈ "0123456789:".toList := by
  have hsub : "0123456789".toList ⊆ "0123456789:".toList := by decide
  rw [Position.text_eq] at h
  rcases List.mem_append.1 h with h | h
  · exact hsub (Text.mem_of_mem_ofNat h)
  · rcases List.mem_cons.1 h with rfl | h
    · decide
    · exact hsub (Text.mem_of_mem_ofNat h)

namespace Report.Console

variable {faults : Fault → Prop} {limits : Limits}

/-! ## Numbers of a report -/

/-- The bound on digits counts among the faults unless the numbers in question may be written. -/
def DigitsWithin (limits : Limits) (faults : Fault → Prop) (writable : Prop) : Prop :=
  ∀ limit ∈ limits.digits, ¬ writable → faults (.unwritable (.digits limit))

theorem DigitsWithin.of_imp {whole part : Prop} (h : DigitsWithin limits faults whole)
    (hpart : whole → part) : DigitsWithin limits faults part :=
  fun limit hlimit hnot => h limit hlimit fun hwhole => hnot (hpart hwhole)

theorem failsWithin_check {p : Phrase} (hp : p.Unquoted)
    (h : DigitsWithin limits faults (p.Writable limits)) : FailsWithin faults (p.check limits) := by
  intro fault hfault
  obtain ⟨hnot, limit, hlimit, rfl⟩ := Phrase.check_eq_error hp hfault
  exact h limit hlimit hnot

structure Writable (limits : Limits) (s : Settings) (f : Findings) : Prop where
  count : limits.Allows f.count
  place : ∀ v ∈ s.select f.violations, v.PlaceWritable limits
  fix : s.preview → ∀ v ∈ s.select f.violations, v.FixWritable limits

theorem writable_counts_iff {f : Findings} :
    (counts f).Writable limits ↔ limits.Allows f.count := by
  simpa [counts] using Findings.allows_fixableCount

theorem unquoted_preview (v : Violation) (f : Fix) :
    Phrase.Unquoted (v.start.phrase ++ f.phrase) := by
  simp

theorem writable_preview_iff {v : Violation} {f : Fix} (hf : v.fix = some f) :
    Phrase.Writable limits (v.start.phrase ++ f.phrase) ↔
      v.PlaceWritable limits ∧ v.FixWritable limits := by
  rw [Phrase.writable_append, Violation.writable_start_iff, Fix.writable_phrase_iff,
    Violation.FixWritable, hf]
  simp

theorem unquoted_places (file : Text) (vs : List Violation) :
    Phrase.Unquoted (vs.flatMap (·.locationPhrase file)) :=
  Phrase.unquoted_flatMap fun v _ => by simp [Violation.locationPhrase]

theorem writable_places_iff {file : Text} {vs : List Violation} :
    Phrase.Writable limits (vs.flatMap (·.locationPhrase file)) ↔
      ∀ v ∈ vs, v.PlaceWritable limits := by
  simp only [Phrase.writable_flatMap, Violation.writable_location_iff]

/-! ## Parts of a report -/

theorem failsWithin_heading {file : Text} (h : Markup.ReadsWithin faults (boldMarkup file)) :
    FailsWithin faults (heading file) := by
  refine h.failsWithin.bind fun l _ => ?_
  dsimp only
  split
  · exact .ok _
  · exact .ok _

theorem within_of_heading {file : Text} {l : Line}
    (h : Markup.ReadsWithin faults (boldMarkup file)) (hl : heading file = .ok l) :
    l.Within faults := by
  obtain ⟨name, hname, hl⟩ := exists_of_bind hl
  dsimp only at hl
  split at hl
  · obtain rfl := Except.ok.inj hl
    exact .plain _
  · obtain rfl := Except.ok.inj hl
    exact ((h.within name hname).highlighted.withText _).expandTabs

theorem failsWithin_repetitions {width cells : Nat}
    (h : countLimit ≤ width → faults .countTooLarge) :
    FailsWithin faults (repetitions (((width - cells) / 2 : Nat) + 1)) := by
  intro fault hfault
  rw [repetitions] at hfault
  split at hfault
  · cases hfault
  · rename_i hlarge
    obtain rfl := Except.error.inj hfault
    rw [Bool.and_eq_true, decide_eq_true_eq, decide_eq_true_eq] at hlarge
    have hlimit : 2 ≤ countLimit := by decide
    exact h (by omega)

theorem failsWithin_title {width : Nat} {file : Text}
    (hwidth : countLimit ≤ width → faults .countTooLarge)
    (h : Markup.ReadsWithin faults (boldMarkup file)) : FailsWithin faults (title width file) := by
  refine (failsWithin_heading h).bind fun name hname => ?_
  refine (failsWithin_repetitions hwidth).bind fun _ _ => failsWithin_writeLines ?_ width
  exact (((Line.Within.styled _ _).append ((within_of_heading h hname).truncate _)).append
    (.styled _ _)).fit width

theorem within_summary (f : Findings) : (summary f).Within faults := by
  refine .join fun l hl => ?_
  simp only [List.mem_cons, List.not_mem_nil, or_false] at hl
  rcases hl with rfl | rfl | rfl | rfl | rfl | rfl | rfl | rfl | rfl | rfl | rfl
  all_goals first | exact .styled _ _ | exact .plain _ | skip
  split
  · exact .styled _ _
  · exact .styled _ _

theorem failsWithin_row {file : Text} {v : Violation}
    (h : Markup.ReadsWithin faults (v.location file)) : FailsWithin faults (row file v) :=
  h.failsWithin.bind fun _ _ =>
    (Markup.readsWithin_escape v.headline).failsWithin.bind fun _ _ => .ok _

theorem within_of_mem_row {file : Text} {v : Violation} {cells : List Line} {l : Line}
    (h : Markup.ReadsWithin faults (v.location file)) (hrow : row file v = .ok cells)
    (hl : l ∈ cells) : l.Within faults := by
  obtain ⟨location, hlocation, hrow⟩ := exists_of_bind hrow
  obtain ⟨message, hmessage, hrow⟩ := exists_of_bind hrow
  obtain rfl := Except.ok.inj hrow
  simp only [List.mem_cons, List.not_mem_nil, or_false] at hl
  rcases hl with rfl | rfl | rfl | rfl
  · exact h.within _ hlocation
  · exact .plain _
  · exact (Markup.readsWithin_escape _).within _ hmessage
  · exact .plain _

theorem exists_of_mem_fixes {violations : List Violation} {p : Violation × Fix}
    (h : p ∈ violations.filterMap fun v => v.fix.map (v, ·)) :
    p.1 ∈ violations ∧ p.1.fix = some p.2 := by
  obtain ⟨v, hv, hp⟩ := List.mem_filterMap.1 h
  obtain ⟨f, hf, rfl⟩ := Option.map_eq_some_iff.1 hp
  exact ⟨hv, hf⟩

theorem failsWithin_previews (width : Nat) {violations : List Violation}
    (h : DigitsWithin limits faults
      (∀ v ∈ violations, v.PlaceWritable limits ∧ v.FixWritable limits)) :
    FailsWithin faults (previews limits width violations) := by
  refine (FailsWithin.mapM fun p hp => ?_).bind fun _ _ => .ok _
  obtain ⟨hmem, hf⟩ := exists_of_mem_fixes hp
  refine (failsWithin_check (unquoted_preview p.1 p.2) (h.of_imp fun hall =>
    (writable_preview_iff hf).2 (hall p.1 hmem))).bind fun _ _ => ?_
  have hsigns : "0123456789:".toList.all fun c => c ≠ '\\' && c ≠ '[' := by decide
  have hplace : ∀ c ∈ p.1.start.text, c ≠ '\\' ∧ c ≠ '[' := fun c hc => by
    simpa using List.all_eq_true.1 hsigns c (Position.mem_of_mem_text hc)
  have hreads : Markup.ReadsWithin faults _ := Markup.readsWithin_dimmed hplace p.2.text
  exact hreads.failsWithin.bind fun l hl => failsWithin_writeLines (hreads.within l hl) width

theorem body_eq (limits : Limits) (s : Settings) (file : Text) (shown : List Violation) :
    body limits s file shown = table limits file shown >>= fun t =>
      t.write s.width >>= fun rows =>
        (if s.preview then previews limits s.width shown else .ok []) >>= fun fixes =>
          .ok (rows ++ fixes) := by
  by_cases h : s.preview
  · simp only [body, h, if_true]
    rfl
  · simp only [body, h]
    rfl

theorem failsWithin_body {s : Settings} {file : Text} {shown : List Violation}
    (hplaces : DigitsWithin limits faults (∀ v ∈ shown, v.PlaceWritable limits))
    (hfixes : s.preview → DigitsWithin limits faults
      (∀ v ∈ shown, v.PlaceWritable limits ∧ v.FixWritable limits))
    (h : ∀ v ∈ shown, Markup.ReadsWithin faults (v.location file)) :
    FailsWithin faults (body limits s file shown) := by
  have hcheck := failsWithin_check (unquoted_places file shown)
    (hplaces.of_imp writable_places_iff.2)
  -- The places are written before any row is read as markup.
  have htable : FailsWithin faults (table limits file shown) := hcheck.bind fun _ _ =>
    (FailsWithin.mapM fun v hv => failsWithin_row (h v hv)).bind fun _ _ => .ok _
  rw [body_eq]
  refine htable.bind fun t ht => ?_
  refine (Table.failsWithin_write (fun row hrow l hl => ?_) _).bind fun _ _ => ?_
  · obtain ⟨_, -, ht⟩ := exists_of_bind ht
    obtain ⟨rows, hrows, ht⟩ := exists_of_bind ht
    obtain rfl := Except.ok.inj ht
    obtain ⟨v, hv, hcells⟩ := exists_mem_of_mapM hrows hrow
    exact within_of_mem_row (h v hv) hcells hl
  · refine FailsWithin.bind ?_ fun _ _ => .ok _
    split
    · rename_i hpreview
      exact failsWithin_previews _ (hfixes hpreview)
    · exact .ok _

theorem render_eq (limits : Limits) (s : Settings) (f : Findings) : render limits s f =
    title s.width f.file >>= fun rule =>
      (counts f).check limits >>= fun _ => writeLines s.width (summary f) >>= fun numbers =>
        (if s.select f.violations = [] then .ok []
          else body limits s f.file (s.select f.violations)) >>= fun rest =>
            .ok (rule ++ numbers ++ rest) := by
  by_cases h : s.select f.violations = []
  · simp only [render, h, if_true]
    rfl
  · simp only [render, h, if_false]
    rfl

/-- A report fails where its rule, its title, a number or one of the locations that it shows
does. -/
theorem failsWithin_render {s : Settings} {f : Findings}
    (hwidth : countLimit ≤ s.width → faults .countTooLarge)
    (hdigits : DigitsWithin limits faults (Writable limits s f))
    (hfile : Markup.ReadsWithin faults (boldMarkup f.file))
    (hshown : ∀ v ∈ s.select f.violations, Markup.ReadsWithin faults (v.location f.file)) :
    FailsWithin faults (render limits s f) := by
  have hcounts : FailsWithin faults ((counts f).check limits) :=
    failsWithin_check (by simp [counts]) (hdigits.of_imp fun h => writable_counts_iff.2 h.count)
  rw [render_eq]
  refine (failsWithin_title hwidth hfile).bind fun _ _ => hcounts.bind fun _ _ => ?_
  refine (failsWithin_writeLines (within_summary f) _).bind fun _ _ => ?_
  refine FailsWithin.bind ?_ fun _ _ => .ok _
  split
  · exact .ok _
  · exact failsWithin_body (hdigits.of_imp Writable.place)
      (fun hpreview => hdigits.of_imp fun h v hv => ⟨h.place v hv, h.fix hpreview v hv⟩) hshown

theorem writable_of_render {s : Settings} {f : Findings} {report : Text}
    (h : render limits s f = .ok report) : Writable limits s f := by
  rw [render_eq] at h
  obtain ⟨_, -, h⟩ := exists_of_bind h
  obtain ⟨_, hcounts, h⟩ := exists_of_bind h
  obtain ⟨_, -, h⟩ := exists_of_bind h
  obtain ⟨rest, hrest, -⟩ := exists_of_bind h
  have hcount := writable_counts_iff.1 (Phrase.check_eq_ok_iff.1 hcounts)
  split at hrest
  · rename_i hnone
    exact ⟨hcount, by simp [hnone], by simp [hnone]⟩
  · rw [body_eq] at hrest
    obtain ⟨t, ht, hrest⟩ := exists_of_bind hrest
    obtain ⟨_, -, hrest⟩ := exists_of_bind hrest
    obtain ⟨fixes, hfixes, -⟩ := exists_of_bind hrest
    obtain ⟨_, hplaces, -⟩ := exists_of_bind ht
    refine ⟨hcount, writable_places_iff.1 (Phrase.check_eq_ok_iff.1 hplaces),
      fun hpreview v hv f hf => ?_⟩
    rw [if_pos hpreview] at hfixes
    obtain ⟨_, hparts, -⟩ := exists_of_bind hfixes
    have hmem : (v, f) ∈ (s.select _).filterMap fun v => v.fix.map (v, ·) :=
      List.mem_filterMap.2 ⟨v, hv, by rw [hf, Option.map_some]⟩
    obtain ⟨_, hpart⟩ := exists_ok_of_mapM hparts hmem
    obtain ⟨_, hcheck, -⟩ := exists_of_bind hpart
    exact ((writable_preview_iff hf).1 (Phrase.check_eq_ok_iff.1 hcheck)).2 f hf

/-! ## What is read as it is -/

/-- The texts of a report that are read as markup without having been escaped. -/
def unescaped (s : Settings) (f : Findings) : List Text :=
  boldMarkup f.file :: (s.select f.violations).map (·.location f.file)

theorem exists_line_of_render {s : Settings} {f : Findings} {report t : Text}
    (h : render limits s f = .ok report) (ht : t ∈ unescaped s f) :
    ∃ l, Markup.line t = .ok l := by
  rw [render_eq] at h
  obtain ⟨rule, hrule, h⟩ := exists_of_bind h
  obtain ⟨_, -, h⟩ := exists_of_bind h
  obtain ⟨_, -, h⟩ := exists_of_bind h
  obtain ⟨rest, hrest, -⟩ := exists_of_bind h
  rcases List.mem_cons.1 ht with rfl | ht
  · obtain ⟨name, hname, -⟩ := exists_of_bind hrule
    obtain ⟨l, hl, -⟩ := exists_of_bind hname
    exact ⟨l, hl⟩
  · obtain ⟨v, hv, rfl⟩ := List.mem_map.1 ht
    rw [if_neg (List.ne_nil_of_mem hv), body_eq] at hrest
    obtain ⟨t, htable, -⟩ := exists_of_bind hrest
    obtain ⟨_, -, htable⟩ := exists_of_bind htable
    obtain ⟨rows, hrows, -⟩ := exists_of_bind htable
    obtain ⟨cells, hcells⟩ := exists_ok_of_mapM hrows hv
    obtain ⟨l, hl, -⟩ := exists_of_bind hcells
    exact ⟨l, hl⟩

/-- A text is refused where it cannot be read, and else for a style that a tag in it asks for. -/
def Markup.Refuses (t : Text) (fault : Fault) : Prop :=
  line t = .error fault ∨ ∃ l, line t = .ok l ∧ ∃ m ∈ l.marks, m.style = .error fault

theorem Markup.readsWithin_of_refuses {t : Text} (h : ∀ fault, Refuses t fault → faults fault) :
    ReadsWithin faults t where
  failsWithin fault hfault := h fault (Or.inl hfault)
  within l hl m hm fault hfault := h fault (Or.inr ⟨l, hl, m, hm, hfault⟩)

theorem tagFree_location {file : Text} (h : Markup.TagFree file) (v : Violation) :
    Markup.TagFree (v.location file) := by
  have hsigns : Markup.Unbracketed "0123456789:".toList := by decide
  rw [Violation.location_eq]
  refine h.append (List.forall_mem_cons.2 ⟨by decide, fun c hc => ?_⟩)
  exact hsigns c (Position.mem_of_mem_text hc)

theorem exists_render_of_tagFree {s : Settings} {f : Findings} (hfile : Markup.TagFree f.file)
    (hwidth : s.width < countLimit) (hwritable : Writable limits s f) :
    ∃ report, render limits s f = .ok report := by
  refine (failsWithin_render (fun h => ?_) (fun _ _ hnot => hnot hwritable)
    hfile.readsWithin_boldMarkup fun v _ => ?_).exists_ok
  · exact absurd h (Nat.not_le.2 hwidth)
  · exact (tagFree_location hfile v).readsWithin

/-- A terminal of a width that can be built refuses a report for a number with too many digits, and
else for the file name only: where the name is read as markup, in the title or in a location, and
that fails. A name that cannot be read is never shown. One without tags is shown whatever the
messages and the fixes hold, if and only if the numbers of the report may be written. -/
theorem render_fails_for_name (limits : Limits) (s : Settings) (f : Findings) :
    (∀ fault, render limits s f = .error fault →
      fault = .countTooLarge ∧ countLimit ≤ s.width ∨
      (∃ limit ∈ limits.digits, fault = .unwritable (.digits limit) ∧ ¬ Writable limits s f) ∨
      ∃ t ∈ unescaped s f, Markup.Refuses t fault) ∧
    (∀ t ∈ unescaped s f, ∀ fault, Markup.line t = .error fault →
      ∃ first, render limits s f = .error first) ∧
    (Markup.TagFree f.file → s.width < countLimit →
      ((∃ report, render limits s f = .ok report) ↔ Writable limits s f)) := by
  refine ⟨failsWithin_render (fun hwidth => Or.inl ⟨rfl, hwidth⟩)
    (fun limit hlimit hnot => Or.inr (Or.inl ⟨limit, hlimit, rfl, hnot⟩)) ?_ ?_, ?_,
    fun hfile hwidth => ⟨fun ⟨_, h⟩ => writable_of_render h, exists_render_of_tagFree hfile hwidth⟩⟩
  · exact Markup.readsWithin_of_refuses fun fault h => Or.inr (Or.inr ⟨_, List.mem_cons_self, h⟩)
  · refine fun v hv => Markup.readsWithin_of_refuses fun fault h => Or.inr (Or.inr ⟨_, ?_, h⟩)
    exact List.mem_cons_of_mem _ (List.mem_map_of_mem hv)
  · intro t ht fault hfault
    cases hreport : render limits s f with
    | error first => exact ⟨first, rfl⟩
    | ok report =>
      obtain ⟨l, hl⟩ := exists_line_of_render hreport ht
      cases hfault.symm.trans hl

def bracketedMessage : Findings where
  file := "pages/[Id].ts".toList
  violations := [{
    cause := .ownLine
    message := "'[/x]' starts no line".toList
    node := ⟨1, .elseKeyword, { fullStart := 2, start := 2, stop := 6 }, []⟩
    start := ⟨1, 0⟩
    fix := some (.mk 2 0 "[/dim]\n".toList)
    message_ne_nil := by decide }]
  file_ne_nil := by decide

theorem render_fails_for_name_bracketedMessage :
    Markup.TagFree bracketedMessage.file ∧
      ∃ report, render .usual { preview := true } bracketedMessage = .ok report := by
  have hfile : Markup.TagFree bracketedMessage.file := by decide
  have hwritable : Writable .usual { preview := true } bracketedMessage :=
    ⟨by decide, by decide, by decide⟩
  exact ⟨hfile, ((render_fails_for_name .usual { preview := true } bracketedMessage).2.2 hfile
    (by decide)).2 hwritable⟩

def closingName : Findings where
  file := "app/[/dim].ts".toList
  violations := []
  file_ne_nil := by decide

theorem closingName_is_refused :
    render .usual {} closingName = .error (.unmatchedClosingTag "/dim".toList 10) ∧
      ¬ ∃ report, render .usual {} closingName = .ok report := by
  let opened : Markup.Draft :=
    { text := Markup.shown "app/".toList, tags := [⟨"bold".toList, none, 0⟩] }
  have hpieces : Markup.pieces 0 0 [] (boldMarkup closingName.file) =
      [.tag 0 "bold".toList, .plain "app/".toList] ++ .tag 10 "/dim".toList ::
        [.plain ".ts".toList, .tag 19 "/bold".toList] := by decide
  have hopened : [.tag 0 "bold".toList, .plain "app/".toList].foldlM Markup.Draft.add {} =
      .ok opened := by
    rw [List.foldlM_cons, Markup.isStyleName_bold.add_tag]
    rfl
  have hline : Markup.line (boldMarkup closingName.file) =
      .error (.unmatchedClosingTag "/dim".toList 10) :=
    Markup.line_eq_error hpieces hopened
      (Markup.isStyleName_dim.add_closing_eq_error (by decide) 10)
  have hrefused :
      render .usual {} closingName = .error (.unmatchedClosingTag "/dim".toList 10) := by
    rw [render_eq, title, heading, hline]
    rfl
  refine ⟨hrefused, ?_⟩
  rintro ⟨report, hreport⟩
  cases hrefused.symm.trans hreport

end Report.Console

end LayoutLint
