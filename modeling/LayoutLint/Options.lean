import LayoutLint.Fault

/-! How inserted text is indented: by one tab for each level, or by a number of spaces. -/
namespace LayoutLint

structure Options where
  useTabs : Bool := false
  size : Nat := 4
  size_pos : 0 < size := by decide
deriving DecidableEq

namespace Options

def tabsWord : String := "tabs"

def defaultSize : Nat := 4

def standard : Options := {}

def ofSize (useTabs : Bool) (size : Int) : Except Fault Options :=
  if h : size < 1 then .error (.belowLeast .indentSize size)
  else .ok { useTabs, size := size.toNat, size_pos := by omega }

def blank (o : Options) : Char :=
  if o.useTabs then '\t' else ' '

def unitWidth (o : Options) : Nat :=
  if o.useTabs then 1 else o.size

def blanks (o : Options) (level : Nat) : Text :=
  List.replicate (level * o.unitWidth) o.blank

/-- The indentation of a level, where no text is longer than `longest`. A unit of spaces that is too
wide fails at every level. -/
def indentWithin (longest : Option Nat) (o : Options) (level : Int) : Except Fault Text := do
  let level ← Quantity.level.check level
  if (!o.useTabs && countLimit ≤ o.size) || longest.any (· < level) then .error .countTooLarge
  else if longest.any (· < level * o.unitWidth) then .error .repeatedTooLong
  else .ok (o.blanks level)

/-- The indentation of a level of a text, in memory without bounds. -/
def indent (o : Options) (level : Nat) : Except Fault Text :=
  o.indentWithin none level

/-- The indentation of any level. It may be too long for a text. -/
def indentOf (o : Options) (level : Int) : Except Fault Text :=
  o.indentWithin (some (countLimit - 1)) level

/-- The level of a column: the column itself with tabs, otherwise the number of units that
reach it. A column too small a part of one unit to be told from zero has level zero. -/
def levelOf (o : Options) (column : Nat) : Nat :=
  if o.useTabs then column
  else if column * Nat.pow 2 1075 ≤ o.size then 0
  else (column + (o.size - 1)) / o.size

/-- The level of a column that no text need have. The number of units is then only known as the
nearest binary number, before it is rounded up. -/
def levelOfWide (o : Options) (column : Nat) : Except Fault Nat :=
  if o.useTabs then .ok column
  else
    let units := (Decimal.Ratio.mk column o.size).toBinary
    if units.overflows then .error .levelTooLarge else .ok units.ratio.ceil

inductive Setting where
  | tabs
  | size (n : Nat)
deriving DecidableEq

def refuse (limits : Limits) (argument : Json) (objection : Objection) : Except Fault Setting :=
  .error ((Fault.badArgument argument objection).raised limits)

def Setting.ofArgument (limits : Limits) (argument : Json) : Except Fault Setting :=
  match argument with
  | .str s => if s = tabsWord.toList then .ok .tabs else refuse limits argument .unknownWord
  | .int i => if i < 0 then refuse limits argument .negativeSize else .ok (.size i.toNat)
  | _ => refuse limits argument .wrongType

def Setting.size? : Setting → Option Nat
  | .tabs => none
  | .size n => some n

/-- The first size counts, and zero stands for the default. -/
def chosenSize (settings : List Setting) : Nat :=
  match settings.findSome? Setting.size? with
  | some (n + 1) => n + 1
  | _ => defaultSize

def ofArguments (limits : Limits) (arguments : List Json) : Except Fault Options := do
  let settings ← arguments.mapM (Setting.ofArgument limits)
  ofSize (settings.contains .tabs) (chosenSize settings)

end Options

end LayoutLint
