import Arcade.Json.Reader

/-! Records: named fields in a fixed order. A record is written as an object, whose unknown members
are skimmed and whose known ones may not repeat, or as an array of its fields. -/

namespace Arcade

/-- One field: its name, perhaps a second spelling, and what stands for it when an object does not
have it or an array ends before it. -/
structure Field (α : Type) where
  name : String
  spelling : Option String
  read : Reader α
  absent : Option α
  short : Option α

namespace Field

/-- A field that has to be there. -/
def required (name : String) (read : Reader α) : Field α := ⟨name, none, read, none, none⟩

/-- A field with a default. -/
def withDefault (name : String) (value : α) (read : Reader α) : Field α :=
  ⟨name, none, read, some value, some value⟩

/-- A field that may be left out or be `null`. -/
def optional (name : String) (read : Reader α) : Field (Option α) :=
  withDefault name none (Reader.option read)

def answersTo (field : Field α) (key : String) : Bool :=
  field.name = key || field.spelling = some key

end Field

/-- The fields of a record, in order. The index is the product of their types. -/
inductive Schema : Type → Type 1 where
  | nil : Schema Unit
  | cons {α β : Type} (field : Field α) (rest : Schema β) : Schema (α × β)

namespace Schema

/-- The values of the fields met so far. -/
@[reducible] def Slots : Schema τ → Type
  | nil => Unit
  | cons (α := α) _ rest => Option α × rest.Slots

/-- No field met yet. -/
def vacant : (schema : Schema τ) → schema.Slots
  | nil => ()
  | cons _ rest => (none, rest.vacant)

def length : Schema τ → Nat
  | nil => 0
  | cons _ rest => rest.length + 1

/-- Read the member of a name into its slot; none when no field answers to the name. -/
def accept : (schema : Schema τ) → schema.Slots → String → Draft →
    Option (Except JsonError schema.Slots)
  | nil, _, _, _ => none
  | cons field rest, slots, key, draft =>
    if field.answersTo key then
      match slots.1 with
      | some _ => some (.error (.misfit (.duplicateField field.name)))
      | none => some ((field.read draft).map fun value => (some value, slots.2))
    else (rest.accept slots.2 key draft).map fun outcome => outcome.map fun others => (slots.1, others)

/-- The record, when nothing is missing. -/
def complete : (schema : Schema τ) → schema.Slots → Except JsonError τ
  | nil, _ => .ok ()
  | cons field rest, slots => do
    let value ← match slots.1, field.absent with
      | some value, _ => .ok value
      | none, some value => .ok value
      | none, none => .error (.misfit (.missingField field.name))
    let others ← rest.complete slots.2
    .ok (value, others)

/-- Read the members of an object one after the other. -/
def members (schema : Schema τ) (slots : schema.Slots) :
    List (Option String × Draft) → Except JsonError schema.Slots
  | [] => .ok slots
  | (none, _) :: _ => .error (.breach .malformed)
  | (some key, draft) :: rest =>
    match schema.accept slots key draft with
    | some outcome => do
      let slots ← outcome
      schema.members slots rest
    | none => do
      Reader.ofBreach draft.skim
      schema.members slots rest

/-- Read the fields from the items of an array; the items left over are returned too. `before`
counts the fields already passed and `expected` says what the whole array should hold. -/
def fromItems (torn : Option Cut) (expected : String) : (schema : Schema τ) → (before : Nat) →
    List Draft → Except JsonError (τ × List Draft)
  | nil, _, left => .ok ((), left)
  | cons field rest, before, [] => do
    Reader.ending torn
    let value ← match field.short with
      | some value => .ok value
      | none => .error (.misfit (.wrongLength before expected))
    let (others, left) ← rest.fromItems torn expected (before + 1) []
    .ok ((value, others), left)
  | cons field rest, before, item :: items => do
    let value ← field.read item
    let (others, left) ← rest.fromItems torn expected (before + 1) items
    .ok ((value, others), left)

/-- Items beyond the last field. -/
def surplus (origin : Origin) (total used : Nat) : JsonError :=
  match origin with
  | .text => .breach .malformed
  | .tree => .misfit (.wrongLength total "fewer elements in array")
  | .aside => .misfit (.wrongLength total (countOf used "element" "elements" ++ " in sequence"))

/-- A record from the members of an object. -/
def fromObject (schema : Schema τ) (drafts : List (Option String × Draft)) (closing : Closing) :
    Except JsonError τ := do
  let slots ← schema.members schema.vacant drafts
  match closing with
  | .closed => schema.complete slots
  | .cut _ at_ => .error (.breach at_.used)
  | .stray => .error (.breach .malformed)

/-- A record from the items of an array. -/
def fromArray (origin : Origin) (name : String) (schema : Schema τ) (items : List Draft)
    (torn : Option Cut) : Except JsonError τ := do
  let expected := name ++ " with " ++ countOf schema.length "element" "elements"
  let (record, left) ← schema.fromItems torn expected 0 items
  match left with
  | [] => do
    Reader.ending torn
    .ok record
  | _ :: _ => .error (surplus origin items.length (items.length - left.length))

/-- A record from an object or an array. The fields of the schema are read with one level less
than the `room` there is for the record. -/
def read (origin : Origin) (name : String) (schema : Schema τ) : Nat → Reader τ
  | 0, .object _ _ => .error (.breach .malformed)
  | 0, .array _ _ => .error (.breach .malformed)
  | _ + 1, .object drafts closing => schema.fromObject drafts closing
  | _ + 1, .array items torn => schema.fromArray origin name items torn
  | _, draft => Reader.mismatch name draft

end Schema

/-- The members of a written record: fields without a value are left out. -/
def Json.record (fields : List (String × Option Json)) : Json :=
  .object (fields.filterMap fun (name, value) => value.map (name, ·))

end Arcade
