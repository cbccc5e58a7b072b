import Arcade.Json.Error

/-! Readers of plain values, lists and closed sets of names. A reader takes a draft in text order
and stops at the first thing that does not fit. -/

namespace Arcade

/-- Where a document comes from: text, a tree, or parts set aside until their kind was known. -/
inductive Origin where
  | text
  | tree
  | aside
  deriving DecidableEq

abbrev Reader (α : Type) := Draft → Except JsonError α

namespace Reader

/-- Report what stands here in place of what was expected. -/
def mismatch (expected : String) (draft : Draft) : Except JsonError α :=
  match draft.found with
  | .ok found => .error (.misfit (.wrongType found expected))
  | .error kind => .error (.breach kind)

/-- Pass a breach on. -/
def ofBreach : Except Breach α → Except JsonError α
  | .ok value => .ok value
  | .error kind => .error (.breach kind)

def bool : Reader Bool
  | .bool value => .ok value
  | draft => mismatch "a boolean" draft

def string : Reader String
  | .string value => .ok value
  | draft => mismatch "a string" draft

def unit : Reader Unit
  | .null => .ok ()
  | draft => mismatch "unit" draft

/-- A number of any kind. -/
def number (expected : String) : Reader Number
  | .number value => .ok value
  | draft => mismatch expected draft

/-- A whole number between two bounds. -/
def wholeBetween (low high : Int) (expected : String) : Reader Int
  | .number (.int value) =>
    if low ≤ value && value ≤ high then .ok value
    else .error (.misfit (.wrongValue (.number (.int value)) expected))
  | draft => mismatch expected draft

def word32 : Reader Nat := fun draft =>
  (wholeBetween 0 0xFFFFFFFF "u32" draft).map Int.toNat

def word64 : Reader Nat := fun draft =>
  (wholeBetween 0 0xFFFFFFFFFFFFFFFF "u64" draft).map Int.toNat

def signed32 : Reader Int := wholeBetween (-0x80000000) 0x7FFFFFFF "i32"

/-- `null` stands for nothing, and a text that ends in it has not been finished. -/
def option (read : Reader α) : Reader (Option α)
  | .null => .ok none
  | .cut .endedInNull => .error (.breach .unfinished)
  | draft => (read draft).map some

/-- Any tree. -/
def tree (room : Nat) : Reader Json := fun draft =>
  ofBreach ((draft.settle room).map Json.canonical)

def items (read : Reader α) : List Draft → Except JsonError (List α)
  | [] => .ok []
  | item :: rest => do
    let first ← read item
    let others ← items read rest
    .ok (first :: others)

/-- Nothing may be missing at the end of an array. -/
def ending : Option Cut → Except JsonError Unit
  | none => .ok ()
  | some at_ => .error (.breach at_.used)

/-- An array of values of one kind. -/
def list (read : Nat → Reader α) : Nat → Reader (List α)
  | 0, .array _ _ => .error (.breach .malformed)
  | room + 1, .array drafts torn => do
    let values ← items (read room) drafts
    ending torn
    .ok values
  | _, draft => mismatch "a sequence" draft

/-- The value of one of the listed names. -/
def named (variants : List (String × α)) (name : String) : Except JsonError α :=
  match lookup? name variants with
  | some value => .ok value
  | none => .error (.misfit (.unknownVariant name (variants.map (·.1))))

/-- A name by itself. -/
def variantName (variants : List (String × α)) : Reader α
  | .string name => named variants name
  | draft => mismatch "variant identifier" draft

/-- A name as the only member of an object, whose value is `null`, read from text. -/
def soleMember (variants : List (String × α)) (members : List (Option String × Draft))
    (closing : Closing) : Except JsonError α :=
  match members with
  | [] =>
    match closing with
    | .cut _ at_ => .error (.breach at_.used)
    | .closed | .stray => .error (.breach .malformed)
  | (none, _) :: _ => .error (.breach .malformed)
  | (some name, value) :: rest => do
    let variant ← named variants name
    unit value
    match rest, closing with
    | [], .closed => .ok variant
    | [], .cut false at_ => .error (.breach at_.used)
    | _, _ => .error (.breach .malformed)

/-- One name of a closed set, alone or as the only member of an object. -/
def variant (origin : Origin) (variants : List (String × α)) (room : Nat) : Reader α
  | .string name => named variants name
  | .object members closing =>
    match origin with
    | .text =>
      match room with
      | 0 => .error (.breach .malformed)
      | _ + 1 => soleMember variants members closing
    | _ =>
      match members with
      | [(some name, value)] => do
        let variant ← named variants name
        unit value
        .ok variant
      | _ => .error (.misfit (.wrongValue .map "map with a single key"))
  | draft =>
    match origin with
    | .text =>
      match draft with
      | .cut at_ => .error (.breach at_.glimpsed)
      | _ => .error (.breach .malformed)
    | _ => mismatch "string or map" draft

end Reader

end Arcade
