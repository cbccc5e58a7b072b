import Arcade.Index
import Arcade.Number.Scalar
import Arcade.Text.Blank
import Arcade.Text.Split

/-! Colours of eight bits each for red, green and blue. They are written in hexadecimal with three
or six digits after `#` or six after `0x`, as a decimal number, or as a name in any case. -/

namespace Arcade

/-- The three channels in one number, red highest. -/
abbrev Color := Nat

namespace Color

def white : Color := 0xFFFFFF
def skyBlue : Color := 0x87CEEB
def magenta : Color := 0xFF00FF

def largest : Color := 0xFFFFFF

def names : List (String × Color) :=
  [("black", 0x000000), ("white", white), ("red", 0xFF0000), ("green", 0x008000),
    ("lime", 0x00FF00), ("blue", 0x0000FF), ("yellow", 0xFFFF00), ("orange", 0xFFA500),
    ("purple", 0x800080), ("pink", 0xFFC0CB), ("cyan", 0x00FFFF), ("magenta", magenta),
    ("brown", 0xA52A2A), ("gray", 0x808080), ("grey", 0x808080), ("gold", 0xFFD700),
    ("skyblue", skyBlue)]

def ofChannels (red green blue : Nat) : Color := (red * 256 + green) * 256 + blue

def red (color : Color) : Nat := color / 65536 % 256
def green (color : Color) : Nat := color / 256 % 256
def blue (color : Color) : Nat := color % 256

/-- Six hexadecimal digits. -/
def ofLongHex? (digits : List Char) : Option Color :=
  if digits.length = 6 then Text.hex? digits else none

/-- Three hexadecimal digits, each of which stands for two of its kind. -/
def ofShortHex? (digits : List Char) : Option Color :=
  match digits.mapM Text.hexDigit? with
  | some [red, green, blue] => some (ofChannels (17 * red) (17 * green) (17 * blue))
  | _ => none

def ofHash? (digits : List Char) : Option Color :=
  (ofLongHex? digits).or (ofShortHex? digits)

/-- A decimal number, or a name in any case. -/
def ofWord? (word : List Char) : Option Color :=
  match Text.natural? word with
  | some value => if value ≤ largest then some value else none
  | none => lookup? (String.ofList (word.map Char.toLower)) names

/-- The colour of a text without blanks at its ends. -/
def ofTrimmed? : List Char → Option Color
  | '#' :: digits => ofHash? digits
  | '0' :: 'x' :: digits => ofLongHex? digits
  | '0' :: 'X' :: digits => ofLongHex? digits
  | word => ofWord? word

def parse? (text : String) : Option Color := ofTrimmed? (Text.trim text.toList)

/-- The colour of a text, or another one when there is no text or it names none. -/
def resolve (text : Option String) (fallback : Color) : Color :=
  (text.bind parse?).getD fallback

/-- A channel as a fraction of its range. -/
def fraction [Scalar S] (channel : Nat) : S := Scalar.ofNat channel / 255

end Color

end Arcade
