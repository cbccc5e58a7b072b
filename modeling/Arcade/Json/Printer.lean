import Arcade.Json.Basic
import Arcade.Number.Shortest

/-! Compact JSON text. Quotes, backslashes and control characters are escaped, nothing else. -/

namespace Arcade.Json

def escapeChar (c : Char) : List Char :=
  if c = '"' then ['\\', '"']
  else if c = '\\' then ['\\', '\\']
  else if c = '\n' then ['\\', 'n']
  else if c = '\r' then ['\\', 'r']
  else if c = '\t' then ['\\', 't']
  else if c.toNat = 8 then ['\\', 'b']
  else if c.toNat = 12 then ['\\', 'f']
  else if c.toNat < 32 then '\\' :: 'u' :: Text.hexText 4 c.toNat
  else [c]

/-- Append a string between quotes. -/
def addQuoted (written text : String) : String :=
  let add (written : String) (c : Char) : String :=
    if c.toNat ≥ 32 && c != '"' && c != '\\' then written.push c
    else (escapeChar c).foldl String.push written
  (text.toList.foldl add (written.push '"')).push '"'

/-- A number; one that is not finite has no JSON form and is written `null`. -/
def numberText : Number → String
  | .int value => toString value
  | .float value => if value.isFinite then Number.shortestText value else "null"

mutual

/-- Append the text of a tree, without blanks. -/
def addTree (written : String) : Json → String
  | null => written ++ "null"
  | bool true => written ++ "true"
  | bool false => written ++ "false"
  | number value => written ++ numberText value
  | string value => addQuoted written value
  | array items => (addItems (written ++ "[") true items) ++ "]"
  | object members => (addMembers (written ++ "\x7b") true members) ++ "\x7d"

def addItems (written : String) (first : Bool) : List Json → String
  | [] => written
  | item :: rest =>
    let separated := if first then written else written ++ ","
    addItems (addTree separated item) false rest

def addMembers (written : String) (first : Bool) : List (String × Json) → String
  | [] => written
  | (name, value) :: rest =>
    let separated := if first then written else written ++ ","
    addMembers (addTree (addQuoted separated name ++ ":") value) false rest

end

/-- The text of a tree. -/
def compress (tree : Json) : String := addTree "" tree

end Arcade.Json
