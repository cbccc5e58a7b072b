import Arcade.Json.Basic

/-! What is known of a JSON text up to the place where it stops making sense. A draft is a tree
whose last branch may be cut; readers walk it in text order, so the first fault of the text is the
one they meet. A part that nobody reads is only skimmed, and skimming forgives more. -/

namespace Arcade

/-- Two ways for a text not to be JSON: a character that cannot stand there, or an early end. -/
inductive Breach where
  | malformed
  | unfinished
  deriving DecidableEq

/-- Where a text was cut. -/
inductive Cut where
  | ended
  | endedInNumber
  | endedInNull
  | endedInWord
  | endedAfterBadEscape
  | malformed
  deriving DecidableEq

namespace Cut

/-- The breach that a reader of the value meets. -/
def used : Cut → Breach
  | ended | endedInNumber | endedInNull | endedInWord => .unfinished
  | endedAfterBadEscape | malformed => .malformed

/-- The breach met when the value is skimmed over. -/
def skimmed : Cut → Breach
  | ended | endedInNull | endedInWord | endedAfterBadEscape => .unfinished
  | endedInNumber | malformed => .malformed

/-- The breach met when only the first character of the value is looked at. -/
def glimpsed : Cut → Breach
  | ended => .unfinished
  | _ => .malformed

end Cut

/-- What stands at a place of a document, as far as a message tells it. -/
inductive Found where
  | null
  | bool (value : Bool)
  | number (value : Number)
  | string (value : String)
  | sequence
  | map

/-- How the members of an object end: closed, cut, or by something that is no name. -/
inductive Closing where
  | closed
  | cut (afterComma : Bool) (at_ : Cut)
  | stray

/-- A JSON tree as far as the text allows. An `unusable` value is complete but stands for nothing:
a number out of range or an escape that is no character. A name may be unusable too. -/
inductive Draft where
  | null
  | bool (value : Bool)
  | number (value : Number)
  | string (value : String)
  | array (items : List Draft) (torn : Option Cut)
  | object (members : List (Option String × Draft)) (closing : Closing)
  | unusable
  | cut (at_ : Cut)

namespace Draft

instance : Inhabited Draft := ⟨null⟩

/-- What a reader finds who expected something else. -/
def found : Draft → Except Breach Found
  | null => .ok .null
  | bool value => .ok (.bool value)
  | number value => .ok (.number value)
  | string value => .ok (.string value)
  | array _ _ => .ok .sequence
  | object _ _ => .ok .map
  | unusable => .error .malformed
  | cut at_ => .error at_.used

mutual

/-- Pass over a value that nobody reads. -/
def skim : Draft → Except Breach Unit
  | array items torn => do
    skimItems items
    match torn with
    | none => .ok ()
    | some at_ => .error at_.skimmed
  | object members closing => do
    skimMembers members
    match closing with
    | .closed => .ok ()
    | .cut _ at_ => .error at_.skimmed
    | .stray => .error .malformed
  | cut at_ => .error at_.skimmed
  | _ => .ok ()

def skimItems : List Draft → Except Breach Unit
  | [] => .ok ()
  | item :: rest => do
    skim item
    skimItems rest

def skimMembers : List (Option String × Draft) → Except Breach Unit
  | [] => .ok ()
  | (_, value) :: rest => do
    skim value
    skimMembers rest

end

end Draft

namespace Json

mutual

/-- A whole tree as a draft. -/
def toDraft : Json → Draft
  | null => .null
  | bool value => .bool value
  | number value => .number value
  | string value => .string value
  | array items => .array (draftItems items) none
  | object members => .object (draftMembers members) .closed

def draftItems : List Json → List Draft
  | [] => []
  | item :: rest => item.toDraft :: draftItems rest

def draftMembers : List (String × Json) → List (Option String × Draft)
  | [] => []
  | (name, value) :: rest => (some name, value.toDraft) :: draftMembers rest

end

end Json

namespace Draft

mutual

/-- The tree of a draft in which every part is used. Nesting below `room` levels is refused. -/
def settle (room : Nat) : Draft → Except Breach Json
  | null => .ok .null
  | bool value => .ok (.bool value)
  | number value => .ok (.number value)
  | string value => .ok (.string value)
  | array items torn =>
    match room with
    | 0 => .error .malformed
    | room + 1 => do
      let settled ← settleItems room items
      match torn with
      | none => .ok (.array settled)
      | some at_ => .error at_.used
  | object members closing =>
    match room with
    | 0 => .error .malformed
    | room + 1 => do
      let settled ← settleMembers room members
      match closing with
      | .closed => .ok (.object settled)
      | .cut _ at_ => .error at_.used
      | .stray => .error .malformed
  | unusable => .error .malformed
  | cut at_ => .error at_.used

def settleItems (room : Nat) : List Draft → Except Breach (List Json)
  | [] => .ok []
  | item :: rest => do
    let first ← settle room item
    let others ← settleItems room rest
    .ok (first :: others)

def settleMembers (room : Nat) : List (Option String × Draft) →
    Except Breach (List (String × Json))
  | [] => .ok []
  | (none, _) :: _ => .error .malformed
  | (some name, value) :: rest => do
    let first ← settle room value
    let others ← settleMembers room rest
    .ok ((name, first) :: others)

end

mutual

/-- Settling gives back the tree that a draft was made of, when there is room for it. -/
theorem settle_toDraft : ∀ (tree : Json) (room : Nat), tree.depth ≤ room →
    settle room tree.toDraft = .ok tree
  | .null, _, _ | .bool _, _, _ | .number _, _, _ | .string _, _, _ => by
    simp [Json.toDraft, settle]
  | .array items, 0, deep => by simp [Json.depth] at deep
  | .array items, room + 1, deep => by
    simp only [Json.depth, Nat.add_le_add_iff_right] at deep
    simp [Json.toDraft, settle, settleItems_draftItems items room deep, bind, Except.bind]
  | .object members, 0, deep => by simp [Json.depth] at deep
  | .object members, room + 1, deep => by
    simp only [Json.depth, Nat.add_le_add_iff_right] at deep
    simp [Json.toDraft, settle, settleMembers_draftMembers members room deep, bind, Except.bind]

theorem settleItems_draftItems : ∀ (items : List Json) (room : Nat),
    Json.depthItems items ≤ room → settleItems room (Json.draftItems items) = .ok items
  | [], _, _ => by simp [Json.draftItems, settleItems]
  | item :: rest, room, deep => by
    simp only [Json.depthItems, Nat.max_le] at deep
    simp [Json.draftItems, settleItems, settle_toDraft item room deep.1,
      settleItems_draftItems rest room deep.2, bind, Except.bind]

theorem settleMembers_draftMembers : ∀ (members : List (String × Json)) (room : Nat),
    Json.depthMembers members ≤ room →
    settleMembers room (Json.draftMembers members) = .ok members
  | [], _, _ => by simp [Json.draftMembers, settleMembers]
  | (name, value) :: rest, room, deep => by
    simp only [Json.depthMembers, Nat.max_le] at deep
    simp [Json.draftMembers, settleMembers, settle_toDraft value room deep.1,
      settleMembers_draftMembers rest room deep.2, bind, Except.bind]

end

end Draft

end Arcade
