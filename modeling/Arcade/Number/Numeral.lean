import Arcade.Text.Numeral

/-! Numbers as people write them: a sign, digits with a point anywhere among them, an exponent; or
the words for infinity and not-a-number in any case. -/

namespace Arcade.Number

/-- A written number. The digits before and after the point are one natural number, scaled by a
power of ten. -/
inductive Numeral where
  | decimal (negative : Bool) (digits : Nat) (exponent : Int)
  | infinite (negative : Bool)
  | notANumber

namespace Numeral

private def exponent? : List Char → Option Int
  | [] => some 0
  | mark :: rest =>
    if mark = 'e' || mark = 'E' then
      let (negative, digits) := match rest with
        | '-' :: digits => (true, digits)
        | '+' :: digits => (false, digits)
        | digits => (false, digits)
      if !digits.isEmpty && digits.all Char.isDigit then
        let size : Int := Text.digitsValue digits
        some (if negative then -size else size)
      else none
    else none

/-- A number without its sign. -/
def unsigned? (negative : Bool) (text : List Char) : Option Numeral :=
  let (whole, rest) := text.span Char.isDigit
  let (fraction, rest) := match rest with
    | '.' :: after => after.span Char.isDigit
    | _ => ([], rest)
  if whole.isEmpty && fraction.isEmpty then
    let word := String.ofList (text.map Char.toLower)
    if word = "inf" || word = "infinity" then some (.infinite negative)
    else if word = "nan" then some .notANumber
    else none
  else
    (exponent? rest).map fun exponent =>
      .decimal negative (Text.digitsValue (whole ++ fraction)) (exponent - fraction.length)

def parse? (text : List Char) : Option Numeral :=
  match text with
  | '-' :: rest => unsigned? true rest
  | '+' :: rest => unsigned? false rest
  | _ => unsigned? false text

private def sizeBound : Int := 100

/-- The nearest single. Numbers far beyond the range are not computed in full. -/
def toSingle : Numeral → Float32
  | decimal negative digits exponent =>
    let magnitude : Int := exponent + (Nat.toDigits 10 digits).length
    let size :=
      if digits = 0 || magnitude < -sizeBound then 0
      else if magnitude > sizeBound then Float32.ofBits 0x7F800000
      else Float32.ofScientific digits (exponent < 0) exponent.natAbs
    if negative then -size else size
  | infinite negative => Float32.ofBits (if negative then 0xFF800000 else 0x7F800000)
  | notANumber => 0 / 0

/-- The nearest double. -/
def toDouble : Numeral → Float
  | decimal negative digits exponent =>
    let magnitude : Int := exponent + (Nat.toDigits 10 digits).length
    let size :=
      if digits = 0 || magnitude < -(4 * sizeBound) then 0
      else if magnitude > 4 * sizeBound then Float.ofBits 0x7FF0000000000000
      else Float.ofScientific digits (exponent < 0) exponent.natAbs
    if negative then -size else size
  | infinite negative => Float.ofBits (if negative then 0xFFF0000000000000 else 0x7FF0000000000000)
  | notANumber => 0 / 0

/-- The exact value, when there is one. -/
def toFraction? : Numeral → Option Rat
  | decimal negative digits exponent =>
    let size : Rat := if exponent < 0 then mkRat digits (Nat.pow 10 exponent.natAbs)
      else ((digits * Nat.pow 10 exponent.natAbs : Nat) : Rat)
    some (if negative then -size else size)
  | _ => none

end Numeral

end Arcade.Number
