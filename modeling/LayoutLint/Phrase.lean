import LayoutLint.Json.Literal

/-! Phrases: words with values in them, such as the words of an error. What writes a value keeps to
bounds that are set outside of the library, which neither knows nor changes them. Where a bound is
exceeded nothing is written. -/
namespace LayoutLint

/-- The bounds: digits of a whole number, and levels of values within a quoted value. A bound that
has been lifted is missing. -/
structure Limits where
  digits : Option Nat := none
  levels : Option Nat := none

inductive Excess where
  | digits (limit : Nat)
  | levels
deriving DecidableEq

def Excess.message : Excess → Text
  | .digits limit =>
    "Exceeds the limit (".toList ++ Text.ofNat limit
      ++ " digits) for integer string conversion".toList
      ++ "; use sys.set_int_max_str_digits() to increase the limit".toList
  | .levels => "maximum recursion depth exceeded while getting the repr of an object".toList

namespace Limits

/-- The bound on digits that holds unless another is set. How many levels there is room for depends
on the caller. -/
def usual : Limits := { digits := some 4300 }

def lifted : Limits := {}

def excess? (limits : Limits) (i : Int) : Option Excess :=
  match limits.digits with
  | some limit => if limit < (Text.ofNat i.natAbs).length then some (.digits limit) else none
  | none => none

def Allows (limits : Limits) (i : Int) : Prop :=
  ∀ limit ∈ limits.digits, (Text.ofNat i.natAbs).length ≤ limit

theorem excess?_eq_none_iff {limits : Limits} {i : Int} :
    limits.excess? i = none ↔ limits.Allows i := by
  unfold excess? Allows
  cases limits.digits with
  | none => simp
  | some limit => simp

theorem allows_of_digits_eq_none {limits : Limits} (h : limits.digits = none) (i : Int) :
    limits.Allows i := by
  simp [Allows, h]

end Limits

namespace Json

mutual

/-- The first bound that is exceeded when a value is written, with room for that many levels. -/
def excess? (limits : Limits) (room : Option Nat) (v : Json) : Option Excess :=
  if room = some 0 then some .levels
  else
    match v with
    | .int i => limits.excess? i
    | .arr items => itemsExcess? limits (room.map (· - 1)) items
    | .obj fields => fieldsExcess? limits (room.map (· - 1)) fields
    | _ => none

def itemsExcess? (limits : Limits) (room : Option Nat) : List Json → Option Excess
  | [] => none
  | v :: rest => excess? limits room v <|> itemsExcess? limits room rest

def fieldsExcess? (limits : Limits) (room : Option Nat) : List (Text × Json) → Option Excess
  | [] => none
  | (_, v) :: rest => excess? limits room v <|> fieldsExcess? limits room rest

end

mutual

theorem excess?_lifted {limits : Limits} (h : limits.digits = none) :
    ∀ v : Json, v.excess? limits none = none
  | .null | .bool _ | .decimal _ | .nan | .str _ => rfl
  | .int i => by
    have hallows := Limits.allows_of_digits_eq_none h i
    simpa [excess?] using Limits.excess?_eq_none_iff.2 hallows
  | .arr items => by simpa [excess?] using itemsExcess?_lifted h items
  | .obj fields => by simpa [excess?] using fieldsExcess?_lifted h fields

theorem itemsExcess?_lifted {limits : Limits} (h : limits.digits = none) :
    ∀ items : List Json, itemsExcess? limits none items = none
  | [] => rfl
  | v :: rest => by
    rw [itemsExcess?, excess?_lifted h v, itemsExcess?_lifted h rest]
    rfl

theorem fieldsExcess?_lifted {limits : Limits} (h : limits.digits = none) :
    ∀ fields : List (Text × Json), fieldsExcess? limits none fields = none
  | [] => rfl
  | (_, v) :: rest => by
    rw [fieldsExcess?, excess?_lifted h v, fieldsExcess?_lifted h rest]
    rfl

end

end Json

/-- A part of a phrase: words as they are, or a value that is still to be written. -/
inductive Part where
  | words (t : Text)
  | number (i : Int)
  | quoted (v : Json)

namespace Part

def text : Part → Text
  | .words t => t
  | .number i => Text.ofInt i
  | .quoted v => v.literal

def excess? (limits : Limits) : Part → Option Excess
  | .words _ => none
  | .number i => limits.excess? i
  | .quoted v => v.excess? limits limits.levels

end Part

abbrev Phrase := List Part

namespace Phrase

def text (p : Phrase) : Text :=
  p.flatMap Part.text

def excess? (limits : Limits) (p : Phrase) : Option Excess :=
  p.findSome? (·.excess? limits)

def Writable (limits : Limits) (p : Phrase) : Prop :=
  p.excess? limits = none

instance (limits : Limits) (p : Phrase) : Decidable (p.Writable limits) :=
  inferInstanceAs (Decidable (p.excess? limits = none))

variable {limits : Limits} {p q : Phrase}

@[simp] theorem text_nil : Phrase.text [] = [] :=
  rfl

@[simp] theorem text_append : Phrase.text (p ++ q) = p.text ++ q.text :=
  List.flatMap_append

@[simp] theorem text_cons (part : Part) : Phrase.text (part :: p) = part.text ++ p.text :=
  List.flatMap_cons ..

theorem writable_iff : p.Writable limits ↔ ∀ part ∈ p, part.excess? limits = none :=
  List.findSome?_eq_none_iff

@[simp] theorem writable_nil : Writable limits [] :=
  rfl

@[simp] theorem writable_append :
    Writable limits (p ++ q) ↔ p.Writable limits ∧ q.Writable limits := by
  simp only [writable_iff, List.forall_mem_append]

@[simp] theorem writable_words (t : Text) :
    Writable limits (.words t :: p) ↔ p.Writable limits := by
  simp [writable_iff, Part.excess?]

@[simp] theorem writable_number (i : Int) :
    Writable limits (.number i :: p) ↔ limits.Allows i ∧ p.Writable limits := by
  simp [writable_iff, Part.excess?, Limits.excess?_eq_none_iff]

@[simp] theorem writable_quoted (v : Json) : Writable limits (.quoted v :: p) ↔
    v.excess? limits limits.levels = none ∧ p.Writable limits := by
  simp [writable_iff, Part.excess?]

end Phrase

end LayoutLint
