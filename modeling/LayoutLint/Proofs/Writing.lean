import LayoutLint.Findings
import LayoutLint.Proofs.Digits

/-! What is written under bounds. A phrase without quoted values is written if and only if all its
numbers may be written. Otherwise one of them has too many digits, and the bound on digits is the
error. -/
namespace LayoutLint

namespace Limits

variable {limits : Limits}

instance (limits : Limits) (i : Int) : Decidable (limits.Allows i) :=
  decidable_of_iff _ excess?_eq_none_iff

theorem excess?_eq_some_iff {i : Int} {excess : Excess} : limits.excess? i = some excess ↔
    ∃ limit ∈ limits.digits, limit < (Text.ofNat i.natAbs).length ∧ excess = .digits limit := by
  unfold excess?
  cases limits.digits with
  | none => simp
  | some limit => simp [eq_comm]

theorem Allows.mono {m n : Nat} (h : limits.Allows n) (hmn : m ≤ n) : limits.Allows m := by
  intro limit hlimit
  have hn : (Text.ofNat n).length ≤ limit := h limit hlimit
  have hpos : 0 < limit := Nat.lt_of_lt_of_le (List.length_pos_iff.2 (Text.ofNat_ne_nil n)) hn
  have hlt := (Nat.length_toDigits_le_iff (by decide) hpos).1 hn
  exact (Nat.length_toDigits_le_iff (by decide) hpos).2 (Nat.lt_of_le_of_lt hmn hlt)

end Limits

namespace Phrase

/-- The numbers of a phrase, but for those within quoted values. -/
def numbers (p : Phrase) : List Int :=
  p.filterMap fun
    | .number i => some i
    | _ => none

def Unquoted (p : Phrase) : Prop :=
  ∀ v, .quoted v ∉ p

variable {limits : Limits} {p q : Phrase} {excess : Excess}

@[simp] theorem unquoted_nil : Unquoted [] :=
  fun _ => List.not_mem_nil

@[simp] theorem unquoted_append : Unquoted (p ++ q) ↔ p.Unquoted ∧ q.Unquoted := by
  simp only [Unquoted, List.mem_append, not_or, forall_and]

@[simp] theorem unquoted_words (t : Text) : Unquoted (.words t :: p) ↔ p.Unquoted := by
  simp [Unquoted]

@[simp] theorem unquoted_number (i : Int) : Unquoted (.number i :: p) ↔ p.Unquoted := by
  simp [Unquoted]

theorem mem_numbers {i : Int} : i ∈ p.numbers ↔ .number i ∈ p := by
  unfold numbers
  rw [List.mem_filterMap]
  constructor
  · rintro ⟨part, hpart, h⟩
    cases part with
    | number j => exact Option.some.inj h ▸ hpart
    | words | quoted => cases h
  · exact fun h => ⟨_, h, rfl⟩

theorem exists_of_excess? (hp : p.Unquoted) (h : p.excess? limits = some excess) :
    ∃ i ∈ p.numbers, limits.excess? i = some excess := by
  -- Words exceed nothing, so the part is a number.
  obtain ⟨part, hpart, h⟩ := List.exists_of_findSome?_eq_some h
  cases part with
  | words t => cases h
  | number i => exact ⟨i, mem_numbers.2 hpart, h⟩
  | quoted v => exact absurd hpart (hp v)

theorem writable_iff_numbers (hp : p.Unquoted) :
    p.Writable limits ↔ ∀ i ∈ p.numbers, limits.Allows i := by
  constructor
  · intro h i hi
    exact Limits.excess?_eq_none_iff.1 (writable_iff.1 h _ (mem_numbers.1 hi))
  · intro h
    refine Option.eq_none_iff_forall_ne_some.2 fun excess hexcess => ?_
    obtain ⟨i, hi, hlimit⟩ := exists_of_excess? hp hexcess
    rw [Limits.excess?_eq_none_iff.2 (h i hi)] at hlimit
    cases hlimit

theorem check_eq_ok_iff : p.check limits = .ok () ↔ p.Writable limits := by
  constructor
  · intro h
    cases hexcess : p.excess? limits with
    | none => exact hexcess
    | some excess => cases (check_of_excess hexcess).symm.trans h
  · exact check_of_writable

theorem check_eq_error {fault : Fault} (hp : p.Unquoted) (h : p.check limits = .error fault) :
    ¬ p.Writable limits ∧ ∃ limit ∈ limits.digits, fault = .unwritable (.digits limit) := by
  cases hexcess : p.excess? limits with
  | none => cases (check_of_writable hexcess).symm.trans h
  | some excess =>
    obtain ⟨i, -, hnumber⟩ := exists_of_excess? hp hexcess
    obtain ⟨limit, hlimit, -, rfl⟩ := Limits.excess?_eq_some_iff.1 hnumber
    refine ⟨fun hwritable => ?_, limit, hlimit, ?_⟩
    · cases hwritable.symm.trans hexcess
    · exact (Except.error.inj ((check_of_excess hexcess).symm.trans h)).symm

theorem write_of_writable (h : p.Writable limits) : p.write limits = .ok p.text := by
  rw [write, check_of_writable h]
  rfl

theorem write_eq_error {fault : Fault} (hp : p.Unquoted) (h : p.write limits = .error fault) :
    ¬ p.Writable limits ∧ ∃ limit ∈ limits.digits, fault = .unwritable (.digits limit) := by
  refine check_eq_error hp ?_
  rw [write] at h
  cases hcheck : p.check limits with
  | ok =>
    rw [hcheck] at h
    cases h
  | error first =>
    rw [hcheck] at h
    exact congrArg Except.error (Except.error.inj h)

theorem writable_flatMap {α : Type} {l : List α} {f : α → Phrase} :
    Writable limits (l.flatMap f) ↔ ∀ a ∈ l, (f a).Writable limits := by
  simp only [writable_iff, List.mem_flatMap]
  exact ⟨fun h a ha part hpart => h part ⟨a, ha, hpart⟩, fun h part ⟨a, ha, hpart⟩ =>
    h a ha part hpart⟩

theorem unquoted_flatMap {α : Type} {l : List α} {f : α → Phrase}
    (h : ∀ a ∈ l, (f a).Unquoted) : Unquoted (l.flatMap f) := by
  intro v hv
  obtain ⟨a, ha, hpart⟩ := List.mem_flatMap.1 hv
  exact h a ha v hpart

end Phrase

namespace Fault

/-- What is met when an error is raised: the error, or the bound on digits that a number in its
words exceeds. -/
inductive Raises (limits : Limits) (f : Fault) : Fault → Prop where
  | itself (h : ∀ i ∈ f.phrase.numbers, limits.Allows i) : Raises limits f f
  | exceeds {i : Int} {limit : Nat} (hi : i ∈ f.phrase.numbers) (hlimit : limit ∈ limits.digits)
      (h : limit < (Text.ofNat i.natAbs).length) : Raises limits f (.unwritable (.digits limit))

variable {limits : Limits} {f : Fault}

theorem raises_raised (hf : f.phrase.Unquoted) : f.Raises limits (f.raised limits) := by
  cases hexcess : f.phrase.excess? limits with
  | none =>
    rw [raised_of_writable hexcess]
    exact .itself ((Phrase.writable_iff_numbers hf).1 hexcess)
  | some excess =>
    obtain ⟨i, hi, hnumber⟩ := Phrase.exists_of_excess? hf hexcess
    obtain ⟨limit, hlimit, hlength, rfl⟩ := Limits.excess?_eq_some_iff.1 hnumber
    rw [raised_of_excess hexcess]
    exact .exceeds hi hlimit hlength

end Fault

@[simp] theorem Fix.unquoted_phrase (f : Fix) : f.phrase.Unquoted := by
  simp [Fix.phrase]

@[simp] theorem Position.unquoted_phrase (p : Position) : p.phrase.Unquoted := by
  simp [Position.phrase]

@[simp] theorem Obstacle.unquoted_phrase (o : Obstacle) : o.phrase.Unquoted := by
  cases o <;> simp [Obstacle.phrase]

theorem Fault.unquoted_badFix {f : Fix} {o : Obstacle} : (badFix f o).phrase.Unquoted := by
  simp [Fault.phrase]

namespace Fix

variable {limits : Limits} {f : Fix}

theorem writable_phrase_iff :
    f.phrase.Writable limits ↔ limits.Allows f.start ∧ limits.Allows f.width := by
  simp [phrase]

theorem raised_overlaps {previous : Fix} (hf : limits.Allows f.start ∧ limits.Allows f.width)
    (hprevious : limits.Allows previous.start ∧ limits.Allows previous.width) :
    (Fault.badFix f (.overlaps previous)).raised limits = .badFix f (.overlaps previous) :=
  Fault.raised_of_writable (by simp [Fault.phrase, Obstacle.phrase, writable_phrase_iff, *])

theorem raised_pastEnd {length : Nat} (hf : limits.Allows f.start ∧ limits.Allows f.width)
    (hlength : limits.Allows length) :
    (Fault.badFix f (.pastEnd length)).raised limits = .badFix f (.pastEnd length) :=
  Fault.raised_of_writable (by simp [Fault.phrase, Obstacle.phrase, writable_phrase_iff, *])

end Fix

namespace Violation

variable {limits : Limits} {v : Violation}

def PlaceWritable (limits : Limits) (v : Violation) : Prop :=
  limits.Allows (v.start.line + 1 : Nat) ∧ limits.Allows (v.start.character + 1 : Nat)

def FixWritable (limits : Limits) (v : Violation) : Prop :=
  ∀ f ∈ v.fix, limits.Allows f.start ∧ limits.Allows f.width

instance (limits : Limits) (v : Violation) : Decidable (v.PlaceWritable limits) :=
  inferInstanceAs (Decidable (_ ∧ _))

instance (limits : Limits) (v : Violation) : Decidable (v.FixWritable limits) :=
  match h : v.fix with
  | none => .isTrue (by simp [FixWritable, h])
  | some f => decidable_of_iff (limits.Allows f.start ∧ limits.Allows f.width)
    (by simp [FixWritable, h])

theorem writable_start_iff : v.start.phrase.Writable limits ↔ v.PlaceWritable limits := by
  rw [Position.phrase, Phrase.writable_number, Phrase.writable_words, Phrase.writable_number,
    PlaceWritable]
  simp

theorem writable_location_iff {file : Text} :
    (v.locationPhrase file).Writable limits ↔ v.PlaceWritable limits := by
  rw [locationPhrase, Phrase.writable_words, writable_start_iff]

end Violation

theorem Findings.allows_fixableCount {limits : Limits} {f : Findings}
    (h : limits.Allows f.count) : limits.Allows f.fixableCount :=
  h.mono f.fixableCount_le_count

end LayoutLint
