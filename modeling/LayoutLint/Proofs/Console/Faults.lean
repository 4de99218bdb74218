import LayoutLint.Proofs.Console.Labels
import LayoutLint.Report.Console.Render
import Mathlib.Data.List.Forall2

/-! With which faults lines and tables can fail to be shown. A mark keeps its style wherever a line
is cut, broken, padded or joined to others, so nothing can go wrong with the line then that could
not go wrong before. -/
namespace LayoutLint.Report.Console

variable {α β : Type} {faults : Fault → Prop}

/-- A computation that fails with the given faults at most. -/
def FailsWithin (faults : Fault → Prop) (x : Except Fault α) : Prop :=
  ∀ fault, x = .error fault → faults fault

namespace FailsWithin

theorem ok (a : α) : FailsWithin faults (.ok a) := by
  intro fault h
  cases h

theorem bind {x : Except Fault α} {f : α → Except Fault β} (hx : FailsWithin faults x)
    (hf : ∀ a, x = .ok a → FailsWithin faults (f a)) : FailsWithin faults (x >>= f) := by
  cases x with
  | error fault => exact fun e h => hx e (congrArg _ (Except.error.inj h))
  | ok a => exact hf a rfl

theorem map {x : Except Fault α} (hx : FailsWithin faults x) (f : α → β) :
    FailsWithin faults (x.map f) := by
  cases x with
  | error fault => exact fun e h => hx e (congrArg _ (Except.error.inj h))
  | ok a => exact ok _

theorem mapM {l : List α} {f : α → Except Fault β} (h : ∀ a ∈ l, FailsWithin faults (f a)) :
    FailsWithin faults (l.mapM f) := by
  induction l with
  | nil => exact ok _
  | cons a l ih =>
    rw [List.forall_mem_cons] at h
    rw [List.mapM_cons]
    exact h.1.bind fun _ _ => (ih h.2).bind fun _ _ => ok _

theorem exists_ok {x : Except Fault α} (h : FailsWithin (fun _ => False) x) : ∃ a, x = .ok a := by
  cases x with
  | error fault => exact (h fault rfl).elim
  | ok a => exact ⟨a, rfl⟩

end FailsWithin

theorem exists_of_bind {x : Except Fault α} {f : α → Except Fault β} {b : β}
    (h : x >>= f = .ok b) : ∃ a, x = .ok a ∧ f a = .ok b := by
  cases x with
  | error fault => cases h
  | ok a => exact ⟨a, rfl, h⟩

theorem exists_of_map {x : Except Fault α} {f : α → β} {b : β} (h : x.map f = .ok b) :
    ∃ a, x = .ok a ∧ f a = b := by
  cases x with
  | error fault => cases h
  | ok a => exact ⟨a, rfl, Except.ok.inj h⟩

theorem exists_of_any {x : Except Fault α} {p : α → Bool} (h : x.toOption.any p) :
    ∃ a, x = .ok a ∧ p a := by
  cases x with
  | error fault => cases h
  | ok a => exact ⟨a, rfl, h⟩

theorem forall₂_of_mapM {l : List α} {f : α → Except Fault β} {bs : List β}
    (h : l.mapM f = .ok bs) : List.Forall₂ (fun a b => f a = .ok b) l bs := by
  induction l generalizing bs with
  | nil =>
    cases h
    exact .nil
  | cons a l ih =>
    rw [List.mapM_cons] at h
    obtain ⟨b, hb, h⟩ := exists_of_bind h
    obtain ⟨more, hmore, h⟩ := exists_of_bind h
    cases h
    exact .cons hb (ih hmore)

theorem exists_ok_of_mapM {l : List α} {f : α → Except Fault β} {bs : List β} {a : α}
    (h : l.mapM f = .ok bs) (ha : a ∈ l) : ∃ b, f a = .ok b := by
  obtain ⟨i, hi, rfl⟩ := List.mem_iff_getElem.1 ha
  have hall := forall₂_of_mapM h
  have hb : i < bs.length := hall.length_eq ▸ hi
  exact ⟨bs[i], hall.get hi hb⟩

theorem exists_mem_of_mapM {l : List α} {f : α → Except Fault β} {bs : List β} {b : β}
    (h : l.mapM f = .ok bs) (hb : b ∈ bs) : ∃ a ∈ l, f a = .ok b := by
  obtain ⟨i, hi, rfl⟩ := List.mem_iff_getElem.1 hb
  have hall := forall₂_of_mapM h
  have hl : i < l.length := hall.length_eq ▸ hi
  exact ⟨l[i], List.getElem_mem hl, hall.get hl hi⟩

theorem forall₂_comp {γ : Type} {R : α → β → Prop} {S : β → γ → Prop} {l : List α} {m : List β}
    {n : List γ} (hl : List.Forall₂ R l m) (hm : List.Forall₂ S m n) :
    List.Forall₂ (fun a c => ∃ b, R a b ∧ S b c) l n := by
  induction hl generalizing n with
  | nil =>
    cases hm
    exact .nil
  | cons hab _ ih =>
    cases hm with
    | cons hbc hm => exact .cons ⟨_, hab, hbc⟩ (ih hm)

namespace Line

def Within (faults : Fault → Prop) (l : Line) : Prop :=
  ∀ m ∈ l.marks, FailsWithin faults m.style

namespace Within

variable {l m : Line}

theorem plain (t : Text) : Within faults ⟨t, []⟩ := by
  simp [Within]

theorem styled (style : Style) (t : Text) : Within faults (Line.styled style t) := by
  intro m hm
  obtain rfl := List.mem_singleton.1 hm
  exact .ok _

theorem append (hl : l.Within faults) (hm : m.Within faults) : Within faults (l ++ m) := by
  intro x hx
  rcases List.mem_append.1 hx with hx | hx
  · exact hl x hx
  · obtain ⟨y, hy, rfl⟩ := List.mem_map.1 hx
    exact hm y hy

theorem join {ls : List Line} (h : ∀ l ∈ ls, l.Within faults) : (Line.join ls).Within faults := by
  induction ls with
  | nil => exact plain []
  | cons l ls ih =>
    rw [List.forall_mem_cons] at h
    exact h.1.append (ih h.2)

theorem withText (h : l.Within faults) (t : Text) : (l.withText t).Within faults := by
  unfold Line.withText
  split
  · intro x hx
    obtain ⟨y, hy, hclip⟩ := List.mem_filterMap.1 hx
    unfold Mark.clip? at hclip
    split at hclip
    · obtain rfl := Option.some.inj hclip
      exact h y hy
    · cases hclip
  · exact h

theorem pad (h : l.Within faults) (width : Nat) : (l.pad width).Within faults :=
  h

theorem fit (h : l.Within faults) (width : Nat) : (l.fit width).Within faults :=
  h.withText _

theorem crop (h : l.Within faults) (width : Nat) : (l.crop width).Within faults := by
  unfold Line.crop
  split
  · exact h
  · exact h.fit width

theorem truncate (h : l.Within faults) (width : Nat) : (l.truncate width).Within faults := by
  unfold Line.truncate
  split
  · exact h
  · exact h.withText _

theorem trimEnd (h : l.Within faults) (width : Nat) : (l.trimEnd width).Within faults :=
  h.withText _

theorem expandTab (h : l.Within faults) (cell : Nat) : (l.expandTab cell).Within faults := by
  intro x hx
  obtain ⟨y, hy, rfl⟩ := List.mem_map.1 hx
  split
  · exact h y hy
  · exact h y hy

theorem highlighted (h : l.Within faults) : (Highlight.apply l).Within faults := by
  intro x hx
  rcases List.mem_append.1 hx with hx | hx
  · obtain ⟨style, hstyle⟩ := Highlight.exists_style_of_mem_marks hx
    rw [hstyle]
    exact .ok _
  · exact h x hx

theorem of_mem_splitFrom {marks : List Mark} (h : ∀ m ∈ marks, FailsWithin faults m.style)
    {start : Nat} {parts : List Text} (hl : l ∈ splitFrom marks start parts) :
    l.Within faults := by
  induction parts generalizing start with
  | nil => simp [splitFrom] at hl
  | cons part rest ih =>
    rcases List.mem_cons.1 hl with rfl | hl
    · intro x hx
      obtain ⟨y, hy, hwithin⟩ := List.mem_filterMap.1 hx
      simp only [Mark.within?] at hwithin
      split at hwithin
      · obtain rfl := Option.some.inj hwithin
        exact h y hy
      · cases hwithin
    · exact ih hl

theorem of_mem_split (h : l.Within faults) {parts : List Text} (hm : m ∈ l.split parts) :
    m.Within faults :=
  of_mem_splitFrom h hm

theorem of_mem_expandParts {ls : List Line} (h : ∀ l ∈ ls, l.Within faults) {cell : Nat}
    (hm : m ∈ expandParts cell ls) : m.Within faults := by
  induction ls generalizing cell with
  | nil => simp [expandParts] at hm
  | cons l ls ih =>
    rw [List.forall_mem_cons] at h
    rcases List.mem_cons.1 hm with rfl | hm
    · split
      · exact h.1.expandTab cell
      · exact h.1
    · exact ih h.2 hm

theorem expandTabs (h : l.Within faults) : l.expandTabs.Within faults := by
  unfold Line.expandTabs
  split
  · exact join fun _ hm => of_mem_expandParts (fun _ hl => h.of_mem_split hl) hm
  · exact h

theorem of_mem_divide (h : l.Within faults) {parts : List Text} (hm : m ∈ l.divide parts) :
    m.Within faults := by
  unfold divide at hm
  split at hm
  · obtain rfl := List.mem_singleton.1 hm
    exact h
  · exact h.of_mem_split hm

theorem of_mem_lines (h : l.Within faults) (hm : m ∈ l.lines) : m.Within faults := by
  unfold lines at hm
  split at hm
  · exact h.of_mem_split (List.mem_filter.1 hm |>.1)
  · obtain rfl := List.mem_singleton.1 hm
    exact h

theorem of_mem_wrap (h : l.Within faults) {width : Nat} {fold : Bool}
    (hm : m ∈ l.wrap width fold) : m.Within faults := by
  obtain ⟨k, hk, hm⟩ := List.mem_flatMap.1 hm
  obtain ⟨n, hn, rfl⟩ := List.mem_map.1 hm
  exact ((h.of_mem_lines hk).expandTabs.of_mem_divide hn).trimEnd width

theorem strip (h : l.Within faults) (base : Style) : FailsWithin faults (l.strip base) :=
  (FailsWithin.mapM fun m hm => (h m hm).map _).bind fun _ _ => .ok _

end Within

end Line

/-! ## What is written -/

theorem failsWithin_writeLines {l : Line} (h : l.Within faults) (width : Nat) :
    FailsWithin faults (writeLines width l) :=
  (FailsWithin.mapM fun _ hm => ((h.of_mem_wrap hm).crop width).strip .plain).bind
    fun _ _ => .ok _

namespace Table

theorem Cell.failsWithin_write {c : Cell} (h : ∀ l ∈ c.lines, l.Within faults) (i : Nat) :
    FailsWithin faults (c.write i) := by
  unfold Cell.write
  split
  · rename_i l hl
    refine FailsWithin.map ?_ _
    exact ((h l (List.mem_of_getElem? hl)).strip c.style).bind fun _ _ => .ok _
  · exact .ok _

theorem failsWithin_writeRow {cells : List Cell}
    (h : ∀ c ∈ cells, ∀ l ∈ c.lines, l.Within faults) (bar : Char) :
    FailsWithin faults (writeRow bar cells) :=
  (FailsWithin.mapM fun i _ =>
    (FailsWithin.mapM fun c hc => Cell.failsWithin_write (h c hc) i).bind fun _ _ => .ok _).map _

theorem within_of_mem_cellLines {content l : Line} (h : content.Within faults) {centred : Bool}
    {width : Nat} (hl : l ∈ cellLines centred width content) : l.Within faults := by
  obtain ⟨m, hm, rfl⟩ := List.mem_map.1 hl
  have hwithin := h.of_mem_wrap hm
  unfold align
  split
  · exact ((Line.Within.plain _).append ((hwithin.withText _).truncate width)).pad width
  · split
    · exact hwithin.pad width
    · exact hwithin.truncate width

theorem exists_of_mem_cells {t : Table} {contents : List Line} {widths : List Nat}
    {style : Column → Style} {c : Cell}
    (h : c ∈ List.zipWith (fun (p : Column × Line) width => Cell.mk (style p.1) width
      (cellLines p.1.centred (width - margin) p.2)) (t.columns.zip contents) widths) :
    ∃ content ∈ contents, ∃ centred, c.lines = cellLines centred (c.width - margin) content := by
  rw [← List.map_uncurry_zip_eq_zipWith] at h
  obtain ⟨⟨⟨column, content⟩, width⟩, hmem, rfl⟩ := List.mem_map.1 h
  exact ⟨content, (List.of_mem_zip (List.of_mem_zip hmem).1).2, column.centred, rfl⟩

theorem failsWithin_write {t : Table} (h : ∀ row ∈ t.rows, ∀ l ∈ row, l.Within faults)
    (width : Nat) : FailsWithin faults (t.write width) := by
  have hrow : ∀ (style : Column → Style) (contents : List Line) (bar : Char),
      (∀ l ∈ contents, l.Within faults) → FailsWithin faults (writeRow bar
        (List.zipWith (fun (p : Column × Line) w => Cell.mk (style p.1) w
          (cellLines p.1.centred (w - margin) p.2))
            (t.columns.zip contents) (t.widths width))) := by
    intro style contents bar hcontents
    refine failsWithin_writeRow (fun c hc l hl => ?_) bar
    obtain ⟨content, hcontent, centred, hlines⟩ := exists_of_mem_cells hc
    exact within_of_mem_cellLines (hcontents content hcontent) (hlines ▸ hl)
  have hheading : ∀ l ∈ t.headings, l.Within faults := by
    intro l hl
    obtain ⟨column, -, rfl⟩ := List.mem_map.1 hl
    exact .plain _
  exact (hrow (fun _ => .bold) _ _ hheading).bind fun _ _ =>
    (FailsWithin.mapM fun row hr => hrow (·.style) row _ (h row hr)).bind fun _ _ => .ok _

end Table

end LayoutLint.Report.Console
