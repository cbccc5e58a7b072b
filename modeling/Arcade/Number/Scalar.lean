import Arcade.Number.Literal
import Arcade.Number.Numeral
import Arcade.Number.Precision

/-! The arithmetic a game runs on. Rules of motion are written once over a scalar type; they run on
single precision for lengths and double precision for times, and hold for exact fractions. -/

namespace Arcade

/-- Numbers to measure with. -/
class Scalar (S : Type) extends Add S, Sub S, Mul S, Div S, Neg S, LT S, LE S, BEq S where
  decideLt : DecidableLT S
  decideLe : DecidableLE S
  ofInt : Int → S
  ofDouble : Float → S
  /-- The value nearest to a written number. -/
  ofNumeral? : Number.Numeral → Option S
  /-- The value as a double; none when it is not finite. -/
  toDouble? : S → Option Float
  abs : S → S
  /-- One with the sign of the number; zero counts as positive. -/
  sign : S → S
  floor : S → S

namespace Scalar

instance (priority := low) [Scalar S] : DecidableLT S := decideLt
instance (priority := low) [Scalar S] : DecidableLE S := decideLe

def ofNat [Scalar S] (n : Nat) : S := ofInt n

instance (priority := low) [Scalar S] (n : Nat) : OfNat S n := ⟨ofNat n⟩

instance (priority := low) [Scalar S] : Inhabited S := ⟨0⟩

def ofNumber [Scalar S] : Number → S
  | .int value => ofInt value
  | .float value => ofDouble value

/-- A number of a document that holds doubles only. -/
def ofParameter [Scalar S] (value : Number) : S := ofDouble value.toFloat

def isFinite [Scalar S] (x : S) : Bool := (toDouble? x).isSome

/-- The number itself when it is positive, else zero. -/
def positivePart [Scalar S] (x : S) : S := if 0 < x then x else 0

end Scalar

/-- Angles of a turn, and directions. -/
class Circular (S : Type) where
  sin : S → S
  cos : S → S
  atan2 : S → S → S
  /-- The angle of a full turn. -/
  turn : S

/-- Numbers drawn from random words. -/
class Sampling (S : Type) where
  /-- A number from zero up to one. -/
  unit : UInt32 → S
  /-- The factor that stretches units onto a range without passing its end; none when the range is
  too wide to measure. -/
  stretch? : (low high : S) → Option S

/-- Times are measured more finely than lengths. -/
class Rounding (T S : Type) where
  coarse : T → S
  fine : S → T

private def signed32 (x : Float32) : Float32 :=
  if x.isNaN then x else if x.toBits ≥ 0x80000000 then -1 else 1

private def signed64 (x : Float) : Float :=
  if x.isNaN then x else if x.toBits ≥ 0x8000000000000000 then -1 else 1

instance : Scalar Float32 where
  decideLt := inferInstance
  decideLe := inferInstance
  ofInt := Float32.ofInt
  ofDouble := Number.narrow
  ofNumeral? n := some n.toSingle
  toDouble? x := if x.isFinite then some (Number.widen x) else none
  abs := Float32.abs
  sign := signed32
  floor := Float32.floor

instance : Scalar Float where
  decideLt := inferInstance
  decideLe := inferInstance
  ofInt := Float.ofInt
  ofDouble x := x
  ofNumeral? n := some n.toDouble
  toDouble? x := if x.isFinite then some x else none
  abs := Float.abs
  sign := signed64
  floor := Float.floor

instance : Scalar Rat where
  decideLt := inferInstance
  decideLe := inferInstance
  ofInt n := n
  ofDouble := Number.exact
  ofNumeral? := Number.Numeral.toFraction?
  toDouble? x := some (Float.ofInt x.num / Float.ofNat x.den)
  abs x := if x < 0 then -x else x
  sign x := if x < 0 then -1 else 1
  floor x := x.floor

instance : Circular Float32 where
  sin := Float32.sin
  cos := Float32.cos
  atan2 := Float32.atan2
  turn := Float32.ofBits 0x40C90FDB

instance : Rounding Float Float32 where
  coarse := Number.narrow
  fine := Number.widen

instance : Rounding Rat Rat where
  coarse x := x
  fine x := x

namespace Sampling

/-- The largest unit in single precision. -/
def largest32 : Float32 := Float32.ofBits 0x3F7FFFFE

/-- The largest factor of at most `bits` that does not pass the end of the range. -/
def fit32 (low high : Float32) : (bits : Nat) → Float32
  | 0 => 0
  | bits + 1 =>
    let factor := Float32.ofBits (bits + 1).toUInt32
    if factor * largest32 + low > high then fit32 low high bits else factor

end Sampling

instance : Sampling Float32 where
  unit word := Float32.ofBits ((word >>> 9) ||| 0x3F800000) - 1
  stretch? low high :=
    let factor := (high - low) / Sampling.largest32
    if factor.isFinite then some (Sampling.fit32 low high factor.toBits.toNat) else none

instance : Sampling Rat where
  unit word := mkRat ((word >>> 9).toNat : Int) 0x800000
  stretch? low high := some ((high - low) / (1 - mkRat 1 0x800000))

end Arcade
