import LayoutLint.Options

/-! Which arguments make options. Each is the word for tabs or a size that is not negative, and says
so by itself. The first that is neither is refused, for the reason of its kind. What the options are
depends on whether the word occurs and on the first size alone. -/
namespace LayoutLint.Options

def Accepts (a : Json) : Prop :=
  a = .str tabsWord.toList ∨ ∃ n : Nat, a = .int n

inductive Refuses : Json → Objection → Prop where
  | word {s : Text} (h : s ≠ tabsWord.toList) : Refuses (.str s) .unknownWord
  | negative {i : Int} (h : i < 0) : Refuses (.int i) .negativeSize
  | otherType {a : Json} (hstr : ∀ s, a ≠ .str s) (hint : ∀ i, a ≠ .int i) :
      Refuses a .wrongType

theorem Refuses.not_accepts {a : Json} {objection : Objection} (h : Refuses a objection) :
    ¬ Accepts a := by
  rintro (rfl | ⟨n, rfl⟩)
  · cases h with
    | word h => exact h rfl
    | otherType hstr _ => exact hstr _ rfl
  · cases h with
    | negative h => exact absurd h (Int.not_lt.2 (Int.natCast_nonneg n))
    | otherType _ hint => exact hint _ rfl

namespace Setting

def argument : Setting → Json
  | .tabs => .str tabsWord.toList
  | .size n => .int n

theorem accepts_argument (s : Setting) : Accepts s.argument := by
  cases s with
  | tabs => exact Or.inl rfl
  | size n => exact Or.inr ⟨n, rfl⟩

@[simp] theorem argument_eq_str_iff {s : Setting} :
    s.argument = .str tabsWord.toList ↔ s = .tabs := by
  cases s <;> simp [argument]

@[simp] theorem argument_eq_int_iff {s : Setting} {i : Int} :
    s.argument = .int i ↔ ∃ n : Nat, s = .size n ∧ i = n := by
  cases s <;> simp [argument, eq_comm]

theorem accepts_of_mem_map {settings : List Setting} {a : Json}
    (h : a ∈ settings.map argument) : Accepts a := by
  obtain ⟨s, -, rfl⟩ := List.mem_map.1 h
  exact s.accepts_argument

inductive Outcome (limits : Limits) : Json → Except Fault Setting → Prop where
  | made (s : Setting) : Outcome limits s.argument (.ok s)
  | refused {a : Json} {objection : Objection} (h : Refuses a objection) :
      Outcome limits a (.error ((Fault.badArgument a objection).raised limits))

theorem outcome_ofArgument (limits : Limits) (a : Json) :
    Outcome limits a (ofArgument limits a) := by
  cases a with
  | str s =>
    by_cases hs : s = tabsWord.toList
    · rw [ofArgument, if_pos hs, hs]
      exact .made .tabs
    · rw [ofArgument, if_neg hs]
      exact .refused (.word hs)
  | int i =>
    by_cases hi : i < 0
    · rw [ofArgument, if_pos hi]
      exact .refused (.negative hi)
    · obtain ⟨n, rfl⟩ := Int.eq_ofNat_of_zero_le (Int.not_lt.1 hi)
      rw [ofArgument, if_neg hi]
      exact .made (.size n)
  | _ => exact .refused (.otherType nofun nofun)

inductive ListOutcome (limits : Limits) : List Json → Except Fault (List Setting) → Prop where
  | made (settings : List Setting) : ListOutcome limits (settings.map argument) (.ok settings)
  | refused {before : List Setting} {a : Json} {after : List Json} {objection : Objection}
      (h : Refuses a objection) :
      ListOutcome limits (before.map argument ++ a :: after)
        (.error ((Fault.badArgument a objection).raised limits))

theorem outcome_mapM (limits : Limits) (arguments : List Json) :
    ListOutcome limits arguments (arguments.mapM (ofArgument limits)) := by
  induction arguments with
  | nil => exact .made []
  | cons a rest ih =>
    have houtcome := outcome_ofArgument limits a
    rw [List.mapM_cons]
    generalize ofArgument limits a = first at houtcome
    generalize rest.mapM (ofArgument limits) = later at ih
    cases houtcome with
    | refused h => exact @ListOutcome.refused limits [] a rest _ h
    | made s =>
      cases ih with
      | made settings => exact .made (s :: settings)
      | @refused before _ _ _ h => exact @ListOutcome.refused limits (s :: before) _ _ _ h

theorem findSome?_size?_eq_none {settings : List Setting} (h : ∀ n, .size n ∉ settings) :
    settings.findSome? size? = none := by
  rw [List.findSome?_eq_none_iff]
  intro s hs
  cases s with
  | tabs => rfl
  | size n => exact absurd hs (h n)

end Setting

theorem chosenSize_of_none {settings : List Setting} (h : ∀ n, .size n ∉ settings) :
    chosenSize settings = defaultSize := by
  rw [chosenSize, Setting.findSome?_size?_eq_none h]

theorem chosenSize_append {before : List Setting} (h : ∀ m, .size m ∉ before) (n : Nat)
    (after : List Setting) :
    chosenSize (before ++ .size n :: after) = if n = 0 then defaultSize else n := by
  have hfirst : (before ++ .size n :: after).findSome? Setting.size? = some n := by
    rw [List.findSome?_append, Setting.findSome?_size?_eq_none h]
    rfl
  rw [chosenSize, hfirst]
  cases n <;> rfl

theorem chosenSize_of_first {settings : List Setting} {before after : List Json} {i : Int}
    (hfirst : settings.map Setting.argument = before ++ .int i :: after)
    (hbefore : ∀ j, .int j ∉ before) :
    (chosenSize settings : Int) = if i = 0 then (defaultSize : Int) else i := by
  obtain ⟨front, later, rfl, rfl, hlater⟩ := List.map_eq_append_iff.1 hfirst
  obtain ⟨s, back, rfl, hs, -⟩ := List.map_eq_cons_iff.1 hlater
  obtain ⟨n, rfl, rfl⟩ := Setting.argument_eq_int_iff.1 hs
  rw [chosenSize_append fun m hm => hbefore m (List.mem_map_of_mem hm)]
  cases n <;> rfl

theorem chosenSize_pos (settings : List Setting) : 0 < chosenSize settings := by
  unfold chosenSize
  split
  · exact Nat.succ_pos _
  · decide

def ofSettings (settings : List Setting) : Options :=
  ⟨settings.contains .tabs, chosenSize settings, chosenSize_pos settings⟩

theorem ofSize_chosenSize (settings : List Setting) :
    ofSize (settings.contains .tabs) (chosenSize settings) = .ok (ofSettings settings) := by
  have hpos := chosenSize_pos settings
  exact dif_neg (by omega)

/-- Options that say what arguments say. Tabs go by the word, the size by the first size among the
arguments. It is 4 for none and for zero. -/
structure MadeFrom (o : Options) (arguments : List Json) : Prop where
  useTabs_iff : o.useTabs ↔ .str tabsWord.toList ∈ arguments
  one_le_size : 1 ≤ o.size
  size_of_none : (∀ i, .int i ∉ arguments) → o.size = 4
  size_of_first : ∀ before i after, arguments = before ++ .int i :: after →
    (∀ j, .int j ∉ before) → (o.size : Int) = if i = 0 then 4 else i

theorem ofSettings_madeFrom (settings : List Setting) :
    (ofSettings settings).MadeFrom (settings.map Setting.argument) where
  useTabs_iff := by simp [ofSettings]
  one_le_size := chosenSize_pos settings
  size_of_none hnone := chosenSize_of_none fun n hn => hnone n (List.mem_map_of_mem hn)
  size_of_first _ _ _ := chosenSize_of_first

variable {limits : Limits}

theorem ofArguments_of_ok {arguments : List Json} {settings : List Setting}
    (h : arguments.mapM (Setting.ofArgument limits) = .ok settings) :
    ofArguments limits arguments = .ok (ofSettings settings) := by
  rw [ofArguments, h]
  exact ofSize_chosenSize settings

theorem ofArguments_of_error {arguments : List Json} {fault : Fault}
    (h : arguments.mapM (Setting.ofArgument limits) = .error fault) :
    ofArguments limits arguments = .error fault := by
  rw [ofArguments, h]
  rfl

/-- What is raised when an argument is refused: the refusal, and where the argument exceeds a bound
and cannot be quoted in it, the error of quoting it. -/
theorem raised_badArgument (limits : Limits) (a : Json) (objection : Objection) :
    (Fault.badArgument a objection).raised limits =
      (a.excess? limits limits.levels).elim (.badArgument a objection) .unwritable := by
  have hphrase : (Fault.badArgument a objection).phrase.excess? limits =
      a.excess? limits limits.levels := by
    simp only [Phrase.excess?, Fault.phrase, List.findSome?_cons, Part.excess?, List.findSome?_nil]
    cases a.excess? limits limits.levels <;> rfl
  cases hexcess : a.excess? limits limits.levels with
  | none => exact Fault.raised_of_writable (hphrase.trans hexcess)
  | some excess => exact Fault.raised_of_excess (hphrase.trans hexcess)

example : ofArguments .usual [.int 0, .str "tabs".toList, .int 8] = .ok { useTabs := true } := rfl

end LayoutLint.Options
