import Arcade.Text.Numeral
import Arcade.Text.Visible

/-! Text between quotes inside a message. Characters that do not show by themselves appear as
escapes, so that a message is one readable line. -/

namespace Arcade.Text

/-- The hexadecimal digits of a number without leading zeros. -/
def shortHex (n : Nat) : List Char := (Nat.toDigits 16 n)

def escaped (c : Char) : List Char :=
  match c with
  | '\x00' => ['\\', '0']
  | '\t' => ['\\', 't']
  | '\n' => ['\\', 'n']
  | '\r' => ['\\', 'r']
  | '"' => ['\\', '"']
  | '\\' => ['\\', '\\']
  | c => if showsAlone c then [c] else ['\\', 'u', '\x7b'] ++ shortHex c.toNat ++ ['\x7d']

def quoted (text : String) : String :=
  "\"" ++ String.ofList (text.toList.flatMap escaped) ++ "\""

end Arcade.Text
