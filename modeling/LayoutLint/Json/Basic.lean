import LayoutLint.Decimal

/-! JSON values. Whole numbers are exact and kept apart from decimal fractions, and an object
keeps its fields in the order written. Beyond the standard there are infinite numbers, which are
decimals too large for their kind, and a value that is no number. -/
namespace LayoutLint

inductive Json where
  | null
  | bool (value : Bool)
  | int (value : Int)
  | decimal (value : Decimal)
  | nan
  | str (value : Text)
  | arr (items : List Json)
  | obj (fields : List (Text × Json))

def Json.field? (name : Text) : Json → Option Json
  | .obj fields => fields.lookup name
  | _ => none

end LayoutLint
