/-! Whole numbers written in decimal or hexadecimal digits. -/

namespace Arcade.Text

/-- The value of a run of decimal digits, most significant first. -/
def digitsValue (digits : List Char) : Nat :=
  digits.foldl (fun value c => 10 * value + (c.toNat - '0'.toNat)) 0

/-- Decimal digits, at least one of them, with an optional plus sign in front. -/
def natural? (text : List Char) : Option Nat :=
  let digits := match text with
    | '+' :: rest => rest
    | _ => text
  if !digits.isEmpty && digits.all Char.isDigit then some (digitsValue digits) else none

/-- The natural number that a text writes, when it is at most `largest`. -/
def naturalUpTo? (largest : Nat) (text : List Char) : Option Nat :=
  (natural? text).filter (· ≤ largest)

/-- The value of one hexadecimal digit of either case. -/
def hexDigit? (c : Char) : Option Nat :=
  let n := c.toNat
  if '0'.toNat ≤ n && n ≤ '9'.toNat then some (n - '0'.toNat)
  else if 'a'.toNat ≤ n && n ≤ 'f'.toNat then some (n - 'a'.toNat + 10)
  else if 'A'.toNat ≤ n && n ≤ 'F'.toNat then some (n - 'A'.toNat + 10)
  else none

/-- The value of a run of hexadecimal digits; none when another character is in it. -/
def hex? (digits : List Char) : Option Nat :=
  digits.foldlM (fun value c => (hexDigit? c).map (16 * value + ·)) 0

/-- One hexadecimal digit in lower case. -/
def hexChar (n : Nat) : Char :=
  if n < 10 then Char.ofNat ('0'.toNat + n) else Char.ofNat ('a'.toNat + n - 10)

/-- The lowest `width` hexadecimal digits of a number, in lower case. -/
def hexText : (width : Nat) → Nat → List Char
  | 0, _ => []
  | width + 1, n => hexText width (n / 16) ++ [hexChar (n % 16)]

/-- Largest values of unsigned words. -/
def maxWord32 : Nat := 0xFFFFFFFF

def maxWord64 : Nat := 0xFFFFFFFFFFFFFFFF

theorem length_hexText (width n : Nat) : (hexText width n).length = width := by
  induction width generalizing n with
  | zero => rfl
  | succ width ih => simp [hexText, ih]

theorem naturalUpTo?_le {largest value : Nat} {text : List Char}
    (read : naturalUpTo? largest text = some value) : value ≤ largest := by
  have kept := (Option.filter_eq_some_iff.mp read).2
  simpa using kept

end Arcade.Text
