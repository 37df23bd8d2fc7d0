/-
This file holds binary floating point numbers of 64 bits and writes them in the fewest decimal
digits that read back.
-/

import Flourish.Text.Basic

namespace Flourish

/-- A floating point number is its 64 bits, so two of them can be told apart. -/
structure Binary64 where
  bits : UInt64
  deriving DecidableEq, Repr

namespace Binary64

def infinity (negative : Bool) : Binary64 :=
  ⟨if negative then 0xFFF0000000000000 else 0x7FF0000000000000⟩

/-- The value that stands for no number. -/
def undefined : Binary64 :=
  ⟨0x7FF8000000000000⟩

def isNegative (value : Binary64) : Bool :=
  value.bits.toNat / Nat.pow 2 63 = 1

def exponentField (value : Binary64) : Nat :=
  value.bits.toNat / Nat.pow 2 52 % 2048

def fraction (value : Binary64) : Nat :=
  value.bits.toNat % Nat.pow 2 52

def isZero (value : Binary64) : Bool :=
  value.exponentField = 0 && value.fraction = 0

def isInfinite (value : Binary64) : Bool :=
  value.exponentField = 2047 && value.fraction = 0

def isUndefined (value : Binary64) : Bool :=
  value.exponentField = 2047 && value.fraction ≠ 0

/-- The size of a finite number is `significand` times two to the power `scale`. -/
def significand (value : Binary64) : Nat :=
  if value.exponentField = 0 then value.fraction else value.fraction + Nat.pow 2 52

def scale (value : Binary64) : Int :=
  if value.exponentField = 0 then -1074 else (value.exponentField : Int) - 1075

/-- The integer that a number is, if it is one. -/
def toInteger? (value : Binary64) : Option Int :=
  let size? : Option Nat :=
    if value.exponentField = 2047 then none
    else if 0 ≤ value.scale then some (value.significand * Nat.pow 2 value.scale.natAbs)
    else if value.significand % Nat.pow 2 value.scale.natAbs = 0 then
      some (value.significand / Nat.pow 2 value.scale.natAbs)
    else none
  size?.map fun size => if value.isNegative then -(size : Int) else (size : Int)

/-- The number nearest to `significand` times ten to the power `exponent`. -/
def ofDecimal (negative : Bool) (significand : Nat) (exponent : Int) : Binary64 :=
  let magnitude : Float :=
    if significand = 0 then 0
    else
      let leading := exponent + (Nat.toDigits 10 significand).length
      if 400 < leading then 1.0 / 0.0
      else if leading < -400 then 0
      else if exponent < 0 then Float.ofScientific significand true exponent.natAbs
      else Float.ofScientific significand false exponent.natAbs
  ⟨(if negative then -magnitude else magnitude).toBits⟩

/-- A positive fraction of natural numbers. -/
structure Ratio where
  top : Nat
  bottom : Nat

/-- A number of quarter units in the last place, as a fraction. -/
def quarters (value : Binary64) (count : Nat) : Ratio :=
  let power := value.scale - 2
  if power < 0 then ⟨count, Nat.pow 2 power.natAbs⟩ else ⟨count * Nat.pow 2 power.natAbs, 1⟩

/-- A decimal number `digits` times ten to the power `exponent`, as a fraction. -/
def decimalRatio (digits : Nat) (exponent : Int) : Ratio :=
  let power := Nat.pow 10 exponent.natAbs
  if exponent < 0 then ⟨digits, power⟩ else ⟨digits * power, 1⟩

def Ratio.below (first second : Ratio) : Bool :=
  first.top * second.bottom < second.top * first.bottom

/-- The decimal reads back as the number: it lies within half a unit of it, or, if the number is
even, just at that distance. Below a power of two a unit is half as large. -/
def readsBack (value : Binary64) (decimal : Ratio) : Bool :=
  let center := 4 * value.significand
  let gap := if value.fraction = 0 && 1 < value.exponentField then 1 else 2
  let low := value.quarters (center - gap)
  let high := value.quarters (center + 2)
  if value.significand % 2 = 0 then !decimal.below low && !high.below decimal
  else low.below decimal && decimal.below high

/-- The power of ten just above a positive number. -/
def decimalPoint (value : Binary64) : Int :=
  let exact := value.quarters (4 * value.significand)
  match (List.range 640).find? fun (index : Nat) =>
      exact.below (decimalRatio 1 ((index : Int) - 325)) with
  | some index => (index : Int) - 325
  | none => 315

/-- The nearer of two neighbours on the decimal grid of `count` digits that reads back. -/
def onGrid (value : Binary64) (count : Nat) : Option (Nat × Int) :=
  let exponent := value.decimalPoint - count
  let exact := value.quarters (4 * value.significand)
  let unit := decimalRatio 1 exponent
  let below := exact.top * unit.bottom / (exact.bottom * unit.top)
  let low := decimalRatio below exponent
  let high := decimalRatio (below + 1) exponent
  let twice := decimalRatio (2 * below + 1) exponent
  let doubled : Ratio := ⟨2 * exact.top, exact.bottom⟩
  let lowFirst := doubled.below twice || (!twice.below doubled && below % 2 = 0)
  match value.readsBack low, value.readsBack high with
  | true, true => some (if lowFirst then below else below + 1, exponent)
  | true, false => some (below, exponent)
  | false, true => some (below + 1, exponent)
  | false, false => none

/-- The fewest digits that read back as the number, and the place of the decimal point. -/
def shortest (value : Binary64) : Text × Int :=
  let (digits, exponent) := ((List.range' 1 17).findSome? value.onGrid).getD (0, 0)
  let written := Text.ofNat digits
  let core := (written.reverse.dropWhile (· = .of '0')).reverse
  (core, exponent + written.length)

/-- An exponent has a sign and at least two digits. -/
def exponentText (exponent : Int) : Text :=
  let digits := Text.ofNat exponent.natAbs
  (if exponent < 0 then '-' else '+') :: (if digits.length < 2 then .of '0' :: digits else digits)

/-- Numbers from a ten thousandth up to ten to the sixteenth are written without an exponent. -/
def magnitudeText (value : Binary64) : Text :=
  if value.isZero then "0.0"
  else
    let (digits, point) := value.shortest
    if -4 < point && point ≤ 0 then
      "0." ++ List.replicate point.natAbs (Letter.of '0') ++ digits
    else if 0 < point && point ≤ 16 then
      let whole := point.toNat
      if digits.length ≤ whole then
        digits ++ List.replicate (whole - digits.length) (Letter.of '0') ++ ".0"
      else digits.take whole ++ .of '.' :: digits.drop whole
    else
      let fractionText := if digits.length ≤ 1 then [] else .of '.' :: digits.drop 1
      digits.take 1 ++ fractionText ++ .of 'e' :: exponentText (point - 1)

/-- A floating point number as text. -/
def toText (value : Binary64) : Text :=
  if value.isUndefined then "nan"
  else
    let magnitude : Text := if value.isInfinite then "inf" else value.magnitudeText
    if value.isNegative then .of '-' :: magnitude else magnitude

end Binary64
end Flourish
