import Arcade.Text.Numeral
import Arcade.Text.Utf8

/-! The query of an address: names and values, with blanks written as plus signs and other
characters as the hexadecimal values of their bytes. -/

namespace Arcade.Api.Query

/-- The bytes that an escaped text stands for. A percent sign that announces no byte is itself. -/
def bytes : List Char → List UInt8
  | [] => []
  | '+' :: rest => 0x20 :: bytes rest
  | '%' :: a :: b :: rest =>
    match Text.hexDigit? a, Text.hexDigit? b with
    | some high, some low => UInt8.ofNat (16 * high + low) :: bytes rest
    | _, _ => 0x25 :: bytes (a :: b :: rest)
  | c :: rest => (String.singleton c).toUTF8.toList ++ bytes rest

def unescape (text : List Char) : String := Text.Utf8.decode (bytes text)

/-- The parts of a text between marks; parts without anything in them are left out. -/
def parts (mark : Char) (text : List Char) : List (List Char) :=
  (text.splitOn mark).filter fun part => !part.isEmpty

/-- Name and value of a part. A part without an equals sign has an empty value. -/
def entry (part : List Char) : String × String :=
  let (name, value) := part.span (· ≠ '=')
  (unescape name, unescape (value.drop 1))

def entries (query : List Char) : List (String × String) := (parts '&' query).map entry

/-- The value of a name that may be given once at most. -/
def text? (entries : List (String × String)) (name : String) : Option (Option String) :=
  match entries.filter fun entry => entry.1 = name with
  | [] => some none
  | [(_, value)] => some (some value)
  | _ => none

/-- The number of a name that may be given once at most. -/
def number? (entries : List (String × String)) (name : String) : Option (Option Nat) :=
  match text? entries name with
  | some (some value) => (Text.naturalUpTo? Text.maxWord64 value.toList).map some
  | some none => some none
  | none => none

end Arcade.Api.Query
