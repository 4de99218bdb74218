import LayoutLint.Text.Basic

/-! Patterns to search a text for. Of several ways to match, the one that is tried first counts, and
a match tells where its labelled parts stand. -/
namespace LayoutLint

/-- A pattern whose parts can have labels. Characters are a run of `least` to `most`, which is as
long as possible at first or, if `lazy` is set, as short as possible. -/
inductive Pattern (α : Type) where
  | char (holds : Char → Bool)
  | chars (lazy : Bool) (least : Nat) (most : Option Nat) (holds : Char → Bool)
  | between (holds : Option Char → Option Char → Bool)
  | seq (first second : Pattern α)
  | alt (first second : Pattern α)
  | times (least : Nat) (most : Option Nat) (body : Pattern α)
  | part (label : α) (body : Pattern α)

namespace Pattern

variable {α : Type}

structure Part (α : Type) where
  start : Nat
  stop : Nat
  label : α

/-- A place in a text, with the labelled parts found on the way, last one first. -/
structure Cursor (α : Type) where
  before : Option Char
  offset : Nat
  rest : Text
  parts : List (Part α) := []

def Cursor.step? (holds : Char → Bool) (c : Cursor α) : Option (Cursor α) :=
  match c.rest with
  | [] => none
  | x :: rest =>
    if holds x then some { c with before := some x, offset := c.offset + 1, rest } else none

/-- The places after a run of at most `limit` characters and on the way to its end, last one first,
and then the places given. -/
def Cursor.along (holds : Char → Bool) : Nat → Cursor α → List (Cursor α) → List (Cursor α)
  | 0, c, places => c :: places
  | limit + 1, c, places =>
    match c.step? holds with
    | some d => along holds limit d (c :: places)
    | none => c :: places

def Cursor.ends (lazy : Bool) (least : Nat) (most : Option Nat) (holds : Char → Bool)
    (c : Cursor α) : List (Cursor α) :=
  let places := c.along holds (most.getD c.rest.length) []
  let enough := places.take (places.length - least)
  if lazy then enough.reverse else enough

/-- What follows is tried at the places where a pattern can end, until it succeeds. -/
abbrev Step (α : Type) := Cursor α → (Cursor α → Option (Cursor α)) → Option (Cursor α)

def repeated (step : Step α) : Nat → Nat → Option Nat → Step α
  | 0, _, _ => fun _ _ => none
  | fuel + 1, least, most => fun c next =>
    let longer :=
      if most = some 0 then none
      else step c fun d => repeated step fuel (least - 1) (most.map (· - 1)) d next
    match longer with
    | some d => some d
    | none => if least = 0 then next c else none

/-- Matches at a place. A body that is repeated reads something each time, so the length of the
text bounds the number of repetitions if nothing else does. -/
def run : Pattern α → Step α
  | .char holds => fun c next => (c.step? holds).bind next
  | .chars lazy least most holds => fun c next => (c.ends lazy least most holds).findSome? next
  | .between holds => fun c next => if holds c.before c.rest.head? then next c else none
  | .seq first second => fun c next => first.run c fun d => second.run d next
  | .alt first second => fun c next =>
    match first.run c next with
    | some d => some d
    | none => second.run c next
  | .times least most body => fun c next =>
    repeated body.run (most.getD c.rest.length + 1) least most c next
  | .part label body => fun c next =>
    body.run c fun d => next { d with parts := ⟨c.offset, d.offset, label⟩ :: d.parts }

/-- The labelled parts of all matches in the text at `offset`. A match starts where none before it
reaches: the next `covered` characters belong to the last one. -/
def partsFrom (p : Pattern α) (before : Option Char) (offset covered : Nat) :
    Text → List (Part α)
  | [] => []
  | c :: rest =>
    match covered with
    | covered + 1 => partsFrom p (some c) (offset + 1) covered rest
    | 0 =>
      match p.run ⟨before, offset, c :: rest, []⟩ some with
      | some d =>
        d.parts.reverse ++ partsFrom p (some c) (offset + 1) (d.offset - offset - 1) rest
      | none => partsFrom p (some c) (offset + 1) 0 rest

def parts (p : Pattern α) (t : Text) : List (Part α) :=
  p.partsFrom none 0 0 t

def nothing : Pattern α :=
  .between fun _ _ => true

def optional (p : Pattern α) : Pattern α :=
  .alt p nothing

def all (ps : List (Pattern α)) : Pattern α :=
  ps.foldr .seq nothing

def any (p : Pattern α) (ps : List (Pattern α)) : Pattern α :=
  ps.foldl .alt p

def exactly (t : String) : Pattern α :=
  all (t.toList.map fun c => char (· = c))

end Pattern

end LayoutLint
