import Arcade.Json.Record

/-! Values of several kinds, told apart by a member `type` that may stand anywhere among the others.
All other parts are set aside until the kind is known. -/

namespace Arcade

namespace Tagged

/-- The name of the member that tells the kind. -/
def tag : String := "type"

/-- A kind without parts: an object may hold anything, an array nothing. -/
def bare (value : α) : Reader α
  | .array items _ =>
    if items.isEmpty then .ok value
    else .error (.misfit (.wrongLength items.length "0 elements in sequence"))
  | _ => .ok value

/-- A kind with parts of its own. -/
def parts (name : String) (schema : Schema τ) (make : τ → α) : Reader α := fun draft =>
  (schema.read .aside name 1 draft).map make

/-- Find the kind among the members of an object and set the others aside, last first. -/
def gather (room : Nat) (kinds : List (String × α)) (kind : Option α)
    (aside : List (String × Json)) :
    List (Option String × Draft) → Except JsonError (Option α × List (String × Json))
  | [] => .ok (kind, aside)
  | (none, _) :: _ => .error (.breach .malformed)
  | (some name, draft) :: rest =>
    if name = tag then
      match kind with
      | some _ => .error (.misfit (.duplicateField tag))
      | none => do
        let found ← Reader.variantName kinds draft
        gather room kinds (some found) aside rest
    else do
      let value ← Reader.ofBreach (draft.settle room)
      gather room kinds kind ((name, value) :: aside) rest

/-- A value of one of several kinds. -/
def read (name : String) (kinds : List (String × Reader α)) : Nat → Reader α
  | 0, .object _ _ => .error (.breach .malformed)
  | 0, .array _ _ => .error (.breach .malformed)
  | room + 1, .object members closing => do
    let (kind, aside) ← gather room kinds none [] members
    match closing with
    | .closed =>
      match kind with
      | some body => body (Json.object aside.reverse).toDraft
      | none => .error (.misfit (.missingField tag))
    | .cut _ at_ => .error (.breach at_.used)
    | .stray => .error (.breach .malformed)
  | room + 1, .array items torn =>
    match items with
    | [] => do
      Reader.ending torn
      .error (.misfit (.missingField tag))
    | first :: rest => do
      let body ← Reader.variantName kinds first
      let aside ← Reader.ofBreach (Draft.settleItems room rest)
      Reader.ending torn
      body (Json.array aside).toDraft
  | _, draft => Reader.mismatch name draft

end Tagged

end Arcade
