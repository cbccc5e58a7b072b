import Arcade.Text.Numeral

/-! The value of a number written in decimal. Digits are gathered into a 64-bit significand as
long as they fit, the significand becomes a double, and one more rounding scales it by a power
of ten. Whole numbers that fit a 64-bit word stay whole. -/

namespace Arcade

/-- A number of a document: whole, or a double. -/
inductive Number where
  | int (value : Int)
  | float (value : Float)

namespace Number

/-- The parts of a written number. -/
structure Literal where
  negative : Bool
  whole : List Char
  fraction : Option (List Char)
  exponent : Option Int

/-- Digits gathered so far: their value, the power of ten it stands for, and whether the next
digit no longer fits. -/
structure Significand where
  value : Nat
  exponent : Int
  full : Bool

namespace Significand

def empty : Significand := ⟨0, 0, false⟩

/-- The value with one more digit, when that fits a word. -/
def extended? (s : Significand) (digit : Char) : Option Nat :=
  let value := 10 * s.value + (digit.toNat - '0'.toNat)
  if s.full || value > Text.maxWord64 then none else some value

/-- A digit before the point: one that does not fit still counts as a place. -/
def pushWhole (s : Significand) (digit : Char) : Significand :=
  match s.extended? digit with
  | some value => { s with value := value }
  | none => { s with exponent := s.exponent + 1, full := true }

/-- A digit after the point: one that does not fit is dropped. -/
def pushFraction (s : Significand) (digit : Char) : Significand :=
  match s.extended? digit with
  | some value => { s with value := value, exponent := s.exponent - 1 }
  | none => { s with full := true }

def ofWhole (digits : List Char) : Significand := digits.foldl pushWhole empty

def addFraction (s : Significand) (digits : List Char) : Significand :=
  digits.foldl pushFraction { s with full := false }

end Significand

/-- The double nearest to ten to the power `n`. -/
def powerOfTen (n : Nat) : Float := Float.ofScientific 1 false n

/-- A significand times a power of ten; none when that overflows. -/
def scaled? (value : Nat) (exponent : Int) : Option Float :=
  let start := Float.ofNat value
  if exponent > 308 then
    if value = 0 then some start else none
  else if exponent ≥ 0 then
    let result := start * powerOfTen exponent.toNat
    if result.isInf then none else some result
  else if exponent ≥ -308 then
    some (start / powerOfTen (-exponent).toNat)
  else
    let first := start / powerOfTen 308
    if exponent ≥ -616 then some (first / powerOfTen (-exponent - 308).toNat)
    else some (first / powerOfTen 308)

namespace Literal

/-- The largest exponent that is read digit by digit. -/
def maxExponent : Int := 0x7FFFFFFF

private def signed (negative : Bool) (x : Float) : Float := if negative then -x else x

/-- A significand with a written exponent. An exponent of more than 31 bits makes zero of a
number or overflows it. -/
def float? (negative : Bool) (s : Significand) (exponent : Int) : Option Float :=
  if exponent > maxExponent then
    if s.value = 0 then some (signed negative 0) else none
  else if exponent < -maxExponent then some (signed negative 0)
  else (scaled? s.value (s.exponent + exponent)).map (signed negative)

/-- A number without point and exponent. Minus zero and negative numbers beyond 63 bits have no
whole form. -/
def integer? (negative : Bool) (s : Significand) : Option Number :=
  if s.full then (float? negative s 0).map .float
  else if !negative then some (.int s.value)
  else if s.value = 0 || s.value > 0x8000000000000000 then some (.float (-(Float.ofNat s.value)))
  else some (.int (-s.value))

/-- The number a literal stands for; none when it is out of range. -/
def number? (literal : Literal) : Option Number :=
  let whole := Significand.ofWhole literal.whole
  match literal.fraction, literal.exponent with
  | none, none => integer? literal.negative whole
  | fraction, exponent =>
    (float? literal.negative (whole.addFraction (fraction.getD [])) (exponent.getD 0)).map .float

end Literal

/-- The value as a double. -/
def toFloat : Number → Float
  | .int value => Float.ofInt value
  | .float value => value

end Number

end Arcade
