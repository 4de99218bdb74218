import LayoutLint.Rounding
import LayoutLint.Text.Basic

/-! Decimal fractions stand for binary numbers with 53 significant bits. A fraction is read
as the nearest of them and written with the fewest digits that read back. -/
namespace LayoutLint

/-- The fraction `± coefficient * 10 ^ exponent`. -/
structure Decimal where
  negative : Bool
  coefficient : Nat
  exponent : Int
deriving DecidableEq

namespace Decimal

structure Ratio where
  num : Nat
  den : Nat

def Ratio.shift (r : Ratio) (base : Nat) (k : Int) : Ratio :=
  ⟨r.num * Nat.pow base k.toNat, r.den * Nat.pow base (-k).toNat⟩

def Ratio.floor (r : Ratio) : Nat :=
  r.num / r.den

def Ratio.nearest (r : Ratio) : Nat :=
  roundDiv r.num r.den

def Ratio.ceil (r : Ratio) : Nat :=
  (r.num + (r.den - 1)) / r.den

structure Binary where
  significand : Nat
  exponent : Int
deriving DecidableEq

def Binary.ratio (b : Binary) : Ratio :=
  Ratio.shift ⟨b.significand, 1⟩ 2 b.exponent

/-- Whether the number is too large to be one of those with an exponent up to 971. -/
def Binary.overflows (b : Binary) : Bool :=
  971 < b.exponent

/-- The nearest binary number, with 53 bits unless the least exponent is reached. -/
def Ratio.toBinary (r : Ratio) : Binary :=
  let low := max ((r.num.log2 : Int) - r.den.log2 - 53) (-1074)
  let e := if (r.shift 2 (-low)).floor < Nat.pow 2 53 then low else low + 1
  let m := (r.shift 2 (-e)).nearest
  if m = Nat.pow 2 53 then ⟨Nat.pow 2 52, e + 1⟩ else ⟨m, e⟩

def Ratio.add (r s : Ratio) : Ratio :=
  ⟨r.num * s.den + s.num * r.den, r.den * s.den⟩

def Ratio.sub (r s : Ratio) : Ratio :=
  ⟨r.num * s.den - s.num * r.den, r.den * s.den⟩

def Ratio.div (r s : Ratio) : Ratio :=
  ⟨r.num * s.den, r.den * s.num⟩

def Ratio.less (r s : Ratio) : Bool :=
  r.num * s.den < s.num * r.den

def Ratio.rounded (r : Ratio) : Ratio :=
  r.toBinary.ratio

def Ratio.magnitude (r : Ratio) : Int :=
  let d : Int := (Nat.toDigits 10 r.num).length - (Nat.toDigits 10 r.den).length
  if (r.shift 10 (-d)).floor = 0 then d - 1 else d

/-- The `n`-digit decimal nearest to `b` among those that read back as `b`: its coefficient
and exponent. -/
def Binary.withDigits? (b : Binary) (n : Nat) : Option (Nat × Int) :=
  let e := b.ratio.magnitude + 1 - n
  let scaled := b.ratio.shift 10 (-e)
  let readsBack (c : Nat) : Bool := (Ratio.shift ⟨c, 1⟩ 10 e).toBinary = b
  let other := if scaled.nearest = scaled.floor then scaled.floor + 1 else scaled.floor
  ([scaled.nearest, other].find? readsBack).map (·, e)

/-- The fewest digits that read back. Seventeen always do. -/
def Binary.shortest (b : Binary) : Nat × Int :=
  ((List.range' 1 17).findSome? b.withDigits?).getD (b.significand, b.exponent)

/-- Digits with the first at power `magnitude` of ten. They are written positionally while the
magnitude is from -4 to 15, with at least one place, and with an exponent otherwise. -/
def layout (digits : Text) (magnitude : Int) : Text :=
  if -4 ≤ magnitude && magnitude < 0 then
    '0' :: '.' :: List.replicate (-magnitude - 1).toNat '0' ++ digits
  else if 0 ≤ magnitude && magnitude ≤ 15 then
    let whole := magnitude.toNat + 1
    let places := digits.drop whole
    digits.take whole ++ List.replicate (whole - digits.length) '0' ++
      '.' :: (if places = [] then ['0'] else places)
  else
    let places := digits.drop 1
    let size := Text.ofNat magnitude.natAbs
    digits.take 1 ++ (if places = [] then [] else '.' :: places) ++
      'e' :: (if magnitude < 0 then '-' else '+') :: List.replicate (2 - size.length) '0' ++ size

def withoutTrailingZeros (digits : Text) : Text :=
  (digits.reverse.dropWhile (· = '0')).reverse

/-- The binary number nearest to `coefficient * 10 ^ exponent`. An exponent far out of range is
noticed before the power is built. -/
def nearestBinary (coefficient : Nat) (exponent : Int) : Binary :=
  if 310 ≤ exponent + coefficient.log2 / 4 then ⟨1, 972⟩
  else if exponent + coefficient.log2 / 3 ≤ -330 then ⟨0, 0⟩
  else (Ratio.shift ⟨coefficient, 1⟩ 10 exponent).toBinary

def isInfinite (d : Decimal) : Bool :=
  d.coefficient ≠ 0 && (nearestBinary d.coefficient d.exponent).overflows

def infinite (negative : Bool) : Decimal :=
  ⟨negative, 1, 309⟩

example : (infinite true).isInfinite && !(⟨true, 1, 308⟩ : Decimal).isInfinite := by decide +kernel

def magnitudeText (coefficient : Nat) (exponent : Int) : Text :=
  if coefficient = 0 then "0.0".toList
  else
    let b := nearestBinary coefficient exponent
    if b.significand = 0 then "0.0".toList
    else if b.overflows then "inf".toList
    else
      let (c, e) := b.shortest
      let digits := Text.ofNat c
      layout (withoutTrailingZeros digits) (e + digits.length - 1)

def text (d : Decimal) : Text :=
  if d.negative then '-' :: magnitudeText d.coefficient d.exponent
  else magnitudeText d.coefficient d.exponent

end Decimal

end LayoutLint
