import LayoutLint.Report.Console.Highlight

/-! A match labels its parts with labels of its pattern alone. Of the parts that are highlighted
each one has a style, since there is a style for every label. -/
namespace LayoutLint

namespace Pattern

variable {α : Type}

def labels : Pattern α → List α
  | .char _ | .chars .. | .between _ => []
  | .seq first second | .alt first second => first.labels ++ second.labels
  | .times _ _ body => body.labels
  | .part label body => label :: body.labels

/-- What follows a step is tried at a place where no parts have been found but those before and new
ones with the given labels. -/
def Adds (ls : List α) (step : Step α) : Prop :=
  ∀ c next d, step c next = some d →
    ∃ place, next place = some d ∧ ∀ p ∈ place.parts, p ∈ c.parts ∨ p.label ∈ ls

theorem parts_of_step? {holds : Char → Bool} {c d : Cursor α} (h : c.step? holds = some d) :
    d.parts = c.parts := by
  unfold Cursor.step? at h
  split at h
  · cases h
  · split at h
    · cases h
      rfl
    · cases h

theorem parts_of_mem_along {holds : Char → Bool} {limit : Nat} {c d : Cursor α}
    {places : List (Cursor α)} (h : d ∈ c.along holds limit places)
    (hplaces : ∀ place ∈ places, place.parts = c.parts) : d.parts = c.parts := by
  induction limit generalizing c places with
  | zero =>
    rcases List.mem_cons.1 h with rfl | h
    · rfl
    · exact hplaces d h
  | succ limit ih =>
    rw [Cursor.along] at h
    split at h
    · rename_i e hstep
      have he := parts_of_step? hstep
      rw [← he]
      refine ih h fun place hplace => ?_
      rcases List.mem_cons.1 hplace with rfl | hplace
      · exact he.symm
      · rw [hplaces place hplace, he]
    · rcases List.mem_cons.1 h with rfl | h
      · rfl
      · exact hplaces d h

theorem parts_of_mem_ends {lazy : Bool} {least : Nat} {most : Option Nat} {holds : Char → Bool}
    {c d : Cursor α} (h : d ∈ c.ends lazy least most holds) : d.parts = c.parts := by
  have hplace : d ∈ c.along holds (most.getD c.rest.length) [] := by
    simp only [Cursor.ends] at h
    split at h
    · exact List.mem_of_mem_take (List.mem_reverse.1 h)
    · exact List.mem_of_mem_take h
  exact parts_of_mem_along hplace (by simp)

theorem adds_repeated {ls : List α} {step : Step α} (hstep : Adds ls step) (fuel least : Nat)
    (most : Option Nat) : Adds ls (repeated step fuel least most) := by
  induction fuel generalizing least most with
  | zero => exact fun c next d h => absurd h (by simp [repeated])
  | succ fuel ih =>
    intro c next d h
    simp only [repeated] at h
    split at h
    · rename_i e hlonger
      obtain rfl := Option.some.inj h
      split at hlonger
      · cases hlonger
      · obtain ⟨middle, hmiddle, hfirst⟩ := hstep c _ e hlonger
        obtain ⟨place, hplace, hrest⟩ := ih _ _ middle next e hmiddle
        refine ⟨place, hplace, fun p hp => ?_⟩
        rcases hrest p hp with hp | hp
        · exact hfirst p hp
        · exact Or.inr hp
    · split at h
      · exact ⟨c, h, fun p hp => Or.inl hp⟩
      · cases h

theorem adds_run (p : Pattern α) : Adds p.labels p.run := by
  induction p with
  | char holds =>
    intro c next d h
    obtain ⟨place, hplace, hnext⟩ := Option.bind_eq_some_iff.1 h
    exact ⟨place, hnext, fun p hp => Or.inl (parts_of_step? hplace ▸ hp)⟩
  | chars lazy least most holds =>
    intro c next d h
    obtain ⟨place, hplace, hnext⟩ := List.exists_of_findSome?_eq_some h
    exact ⟨place, hnext, fun p hp => Or.inl (parts_of_mem_ends hplace ▸ hp)⟩
  | between holds =>
    intro c next d h
    simp only [run] at h
    split at h
    · exact ⟨c, h, fun p hp => Or.inl hp⟩
    · cases h
  | seq first second hfirst hsecond =>
    intro c next d h
    -- What follows the first part is the second one with all that follows it.
    obtain ⟨middle, hmiddle, hbefore⟩ := hfirst c _ d h
    obtain ⟨place, hplace, hbehind⟩ := hsecond middle next d hmiddle
    refine ⟨place, hplace, fun p hp => ?_⟩
    rw [labels, List.mem_append]
    rcases hbehind p hp with hp | hp
    · exact (hbefore p hp).imp_right Or.inl
    · exact Or.inr (Or.inr hp)
  | alt first second hfirst hsecond =>
    intro c next d h
    simp only [run] at h
    simp only [labels, List.mem_append]
    split at h
    · rename_i e he
      obtain rfl := Option.some.inj h
      obtain ⟨place, hplace, hparts⟩ := hfirst c next e he
      exact ⟨place, hplace, fun p hp => (hparts p hp).imp_right Or.inl⟩
    -- Where the first alternative fails, the parts found on its way are given up.
    · obtain ⟨place, hplace, hparts⟩ := hsecond c next d h
      exact ⟨place, hplace, fun p hp => (hparts p hp).imp_right Or.inr⟩
  | times least most body hbody => exact fun c => adds_repeated hbody _ least most c
  | part label body hbody =>
    intro c next d h
    obtain ⟨place, hplace, hparts⟩ := hbody c _ d h
    refine ⟨_, hplace, fun p hp => ?_⟩
    rw [labels, List.mem_cons]
    rcases List.mem_cons.1 hp with rfl | hp
    · exact Or.inr (Or.inl rfl)
    · exact (hparts p hp).imp_right Or.inr

theorem label_of_mem_partsFrom {p : Pattern α} {before : Option Char} {offset covered : Nat}
    {t : Text} {q : Part α} (h : q ∈ p.partsFrom before offset covered t) : q.label ∈ p.labels := by
  fun_induction partsFrom p before offset covered t with
  | case1 => simp at h
  | case2 before offset c rest covered ih => exact ih h
  | case3 before offset c rest d hrun ih =>
    rcases List.mem_append.1 h with h | h
    · obtain ⟨place, hplace, hparts⟩ := p.adds_run _ _ _ hrun
      obtain rfl := Option.some.inj hplace
      simpa using hparts q (List.mem_reverse.1 h)
    · exact ih h
  | case4 before offset c rest hrun ih => exact ih h

end Pattern

namespace Report.Console.Highlight

/-- The styles that a report asks for by name: in its own tags, and for parts that are
highlighted. -/
def styleNames : List String :=
  ["bold", "dim"] ++ [tag, assignment, bracket, literal].flatMap Pattern.labels

theorem isOk_ofName : ∀ name ∈ styleNames, (Style.ofName name.toList).isOk := by
  decide +kernel

theorem exists_style {name : String} (h : name ∈ styleNames) :
    ∃ style, Style.ofName name.toList = .ok style := by
  have hname := isOk_ofName name h
  cases hstyle : Style.ofName name.toList with
  | ok style => exact ⟨style, rfl⟩
  | error fault => simp [hstyle, Except.isOk, Except.toBool] at hname

theorem exists_style_of_mem_marks {t : Text} {m : Mark} (h : m ∈ marks t) :
    ∃ style, m.style = .ok style := by
  obtain ⟨p, hp, hmark⟩ := List.mem_filterMap.1 h
  obtain ⟨pattern, hpattern, hp⟩ := List.mem_flatMap.1 hp
  have hlabel : p.label ∈ styleNames := List.mem_append_right _
    (List.mem_flatMap.2 ⟨pattern, hpattern, Pattern.label_of_mem_partsFrom hp⟩)
  split at hmark
  · obtain rfl := Option.some.inj hmark
    exact exists_style hlabel
  · cases hmark

end Report.Console.Highlight

end LayoutLint
