import Arcade.Index
import Arcade.Number.Literal

/-! JSON trees. Members of an object keep the order in which they were given. -/

namespace Arcade

inductive Json where
  | null
  | bool (value : Bool)
  | number (value : Number)
  | string (value : String)
  | array (items : List Json)
  | object (members : List (String × Json))

namespace Json

instance : Inhabited Json := ⟨null⟩

def int (value : Int) : Json := number (.int value)

def ofNat (value : Nat) : Json := int value

/-- A value, or `null` in its absence. -/
def ofOption (write : α → Json) : Option α → Json
  | some value => write value
  | none => null

/-- The member of a name in an object; nothing else has members. -/
def member? : Json → String → Option Json
  | object members, name => lookup? name members
  | _, _ => none

def number? : Json → Option Number
  | number value => some value
  | _ => none

def string? : Json → Option String
  | string value => some value
  | _ => none

def array? : Json → Option (List Json)
  | array items => some items
  | _ => none

mutual

/-- How deep arrays and objects are nested; a plain value has depth zero. -/
def depth : Json → Nat
  | array items => depthItems items + 1
  | object members => depthMembers members + 1
  | _ => 0

def depthItems : List Json → Nat
  | [] => 0
  | item :: rest => max item.depth (depthItems rest)

def depthMembers : List (String × Json) → Nat
  | [] => 0
  | (_, value) :: rest => max value.depth (depthMembers rest)

end

mutual

/-- Members of every object by name, the last one of a name: one tree for all spellings. -/
def canonical : Json → Json
  | array items => array (canonicalItems items)
  | object members => object (Index.ofList (canonicalMembers members)).entries
  | plain => plain

def canonicalItems : List Json → List Json
  | [] => []
  | item :: rest => item.canonical :: canonicalItems rest

def canonicalMembers : List (String × Json) → List (String × Json)
  | [] => []
  | (name, value) :: rest => (name, value.canonical) :: canonicalMembers rest

end

end Json

end Arcade
