/-! Changing between single and double precision. Widening is exact; narrowing rounds to the
nearest single, ties to even, and overflows to infinity. -/

namespace Arcade.Number

open Float.Model (UnpackedFloat)

/-- The nearest single of a double. -/
def narrow (x : Float) : Float32 :=
  match x.toModel.unpack with
  | .finite sign mantissa exponent _ => .ofModel (.pack (.round .binary32 sign mantissa exponent))
  | special => .ofModel (.pack special)

/-- The double with the value of a single. -/
def widen (x : Float32) : Float :=
  match x.toModel.unpack with
  | .finite sign mantissa exponent _ => .ofModel (.pack (.round .binary64 sign mantissa exponent))
  | special => .ofModel (.pack special)

/-- The exact value of a double; infinities and not-a-number count as zero. -/
def exact (x : Float) : Rat :=
  match x.toModel.unpack with
  | .finite sign mantissa exponent _ =>
    let size : Rat := if exponent < 0 then mkRat mantissa (Nat.pow 2 exponent.natAbs)
      else ((mantissa * Nat.pow 2 exponent.natAbs : Nat) : Rat)
    match sign with
    | .negative => -size
    | .positive => size
  | _ => 0

end Arcade.Number
