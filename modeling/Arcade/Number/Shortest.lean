/-! The shortest decimal text of a double that reads back as the same double. Among the shortest
the nearest is taken. Numbers from `1e-5` up to `1e+16` are written positionally with a point, all
others with an exponent that has a sign. -/

namespace Arcade.Number

/-- A positive real interval around a double, scaled by a common denominator. -/
structure Span where
  value : Nat
  low : Nat
  high : Nat
  scale : Nat
  closed : Bool

namespace Span

/-- The reals that round to `mantissa * 2 ^ exponent`; below a power of two the gap is half as
wide. The ends belong to it when the mantissa is even. -/
def ofParts (mantissa : Nat) (exponent : Int) (narrowBelow : Bool) : Span :=
  let shift := exponent - 2
  let up := Nat.pow 2 shift.toNat
  let down := Nat.pow 2 (-shift).toNat
  { value := 4 * mantissa * up
    low := (4 * mantissa - if narrowBelow then 1 else 2) * up
    high := (4 * mantissa + 2) * up
    scale := down
    closed := mantissa % 2 == 0 }

def contains (s : Span) (numerator denominator : Nat) : Bool :=
  let x := numerator * s.scale
  if s.closed then s.low * denominator ≤ x && x ≤ s.high * denominator
  else s.low * denominator < x && x < s.high * denominator

/-- The number of decimal places before the point; zero or negative below one. -/
def places (s : Span) : Int :=
  let whole := s.value / s.scale
  if whole > 0 then (Nat.toDigits 10 whole).length
  else
    let steps := (List.range 400).find? fun n => s.value * Nat.pow 10 (n + 1) ≥ s.scale
    Int.negOfNat (steps.getD 0)

/-- Digits on the grid of `10 ^ exponent` inside the span: the nearer of the two neighbours. -/
def onGrid? (s : Span) (exponent : Int) : Option Nat :=
  let up := Nat.pow 10 exponent.toNat
  let down := Nat.pow 10 (-exponent).toNat
  let below := s.value * down / (s.scale * up)
  let fits (n : Nat) : Bool := s.contains (n * up) down
  if fits below && fits (below + 1) then
    let twice := 2 * (s.value * down)
    let middle := (2 * below + 1) * (s.scale * up)
    if twice < middle || (twice == middle && below % 2 == 0) then some below else some (below + 1)
  else if fits below then some below
  else if fits (below + 1) then some (below + 1)
  else none

/-- The shortest digits and the power of ten of the last one. A neighbour that is ten grid steps
long is one step of the next grid. -/
def shortest (s : Span) : Nat × Int :=
  let places := s.places
  let hits := (List.range 17).filterMap fun (n : Nat) =>
    let exponent : Int := places - (n + 1 : Nat)
    (s.onGrid? exponent).map (·, exponent)
  let (digits, power) := hits.head?.getD (0, 0)
  if digits % 10 = 0 then (digits / 10, power + 1) else (digits, power)

end Span

/-- Digits with their power of ten, as text. -/
def written (digits : String) (exponent : Int) : String :=
  let length := digits.length
  let point := exponent + length
  let zeros (n : Int) : String := "".pushn '0' n.toNat
  if 0 ≤ exponent && point ≤ 16 then digits ++ zeros exponent ++ ".0"
  else if 0 < point && point ≤ 16 then
    String.ofList (digits.toList.take point.toNat) ++ "." ++
      String.ofList (digits.toList.drop point.toNat)
  else if -5 < point && point ≤ 0 then "0." ++ zeros (-point) ++ digits
  else
    let mantissa := if length = 1 then digits
      else String.ofList (digits.toList.take 1) ++ "." ++ String.ofList (digits.toList.drop 1)
    mantissa ++ (if 0 < point then "e+" else "e") ++ toString (point - 1)

/-- The leading bit of a significand, which is not stored. -/
def implicitBit : Nat := 0x10000000000000

/-- The shortest text of a double. -/
def shortestText (x : Float) : String :=
  let bits := x.toBits.toNat
  let sign := if bits ≥ 0x8000000000000000 then "-" else ""
  let field := bits % implicitBit
  let biased := bits / implicitBit % 2048
  if biased = 2047 then if field = 0 then sign ++ "inf" else "NaN"
  else if biased = 0 && field = 0 then sign ++ "0.0"
  else
    let mantissa := if biased = 0 then field else implicitBit + field
    let exponent : Int := (if biased = 0 then 1 else biased : Nat) - 1075
    let span := Span.ofParts mantissa exponent (field == 0 && biased > 1)
    let (digits, power) := span.shortest
    sign ++ written (toString digits) power

end Arcade.Number
