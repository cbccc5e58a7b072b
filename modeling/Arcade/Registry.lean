import Arcade.Handle
import Arcade.Index
import Arcade.Spec.Basic

/-! The names of a running game: which actor an id means, who is in a group, how far copies and shots
are numbered, and which behavior an id has with what it remembers. -/

namespace Arcade

/-- A behavior with its free parameters. -/
structure Assignment where
  kind : Spec.BehaviorKind
  parameters : Json

/-- What a behavior remembers from frame to frame. -/
structure Memory (S T : Type) where
  anchor : Option S
  lastChange : Option T

def Memory.blank : Memory S T := ⟨none, none⟩

structure Registry (S T : Type) where
  objects : Index Handle
  groups : Index (List Handle)
  copies : Index Nat
  shots : Index Nat
  behaviors : Index Assignment
  memories : Index (Memory S T)

namespace Registry

variable {S T : Type}

def empty : Registry S T := ⟨∅, ∅, ∅, ∅, ∅, ∅⟩

/-- Let an id mean an actor from now on. -/
def register (registry : Registry S T) (id : String) (handle : Handle) : Registry S T :=
  { registry with objects := registry.objects.insert id handle }

def handle? (registry : Registry S T) (id : String) : Option Handle := registry.objects.get? id

def objectCount (registry : Registry S T) : Nat := registry.objects.size

def hasGroup (registry : Registry S T) (name : String) : Bool := registry.groups.contains name

/-- The members of a group in the order in which they joined. -/
def members (registry : Registry S T) (group : String) : List Handle :=
  (registry.groups.get? group).getD []

def ensureGroup (registry : Registry S T) (name : String) : Registry S T :=
  { registry with groups := registry.groups.insert name (registry.members name) }

def joinGroup (registry : Registry S T) (name : String) (handle : Handle) : Registry S T :=
  let members := registry.members name
  let joined := if handle ∈ members then members else members ++ [handle]
  { registry with groups := registry.groups.insert name joined }

/-- How many copies a spawner has made. -/
def copyCount (registry : Registry S T) (spawner : String) : Nat :=
  (registry.copies.get? spawner).getD 0

def countCopy (registry : Registry S T) (spawner : String) : Registry S T :=
  { registry with copies := registry.copies.insert spawner (registry.copyCount spawner + 1) }

/-- The number of the next shot of an owner. -/
def shotCount (registry : Registry S T) (owner : String) : Nat :=
  (registry.shots.get? owner).getD 0

def countShot (registry : Registry S T) (owner : String) : Registry S T :=
  { registry with shots := registry.shots.insert owner (registry.shotCount owner + 1) }

/-- Give an id a behavior that remembers nothing yet. -/
def assign (registry : Registry S T) (id : String) (assignment : Assignment) : Registry S T :=
  { registry with
    behaviors := registry.behaviors.insert id assignment
    memories := registry.memories.erase id }

def remember (registry : Registry S T) (id : String) (memory : Memory S T) : Registry S T :=
  { registry with memories := registry.memories.insert id memory }

/-- Drop an actor that is gone. Its id is dropped only while it still means this actor. -/
def forget (registry : Registry S T) (id : String) (handle : Handle) (group : Option String) :
    Registry S T :=
  let owner := registry.handle? id = some handle
  { registry with
    objects := if owner then registry.objects.erase id else registry.objects
    behaviors := if owner then registry.behaviors.erase id else registry.behaviors
    memories := if owner then registry.memories.erase id else registry.memories
    groups := match group with
      | some name => registry.groups.modify name fun members => members.filter (· ≠ handle)
      | none => registry.groups }

@[simp] theorem handle?_register (registry : Registry S T) (id other : String) (handle : Handle) :
    (registry.register id handle).handle? other =
      if id = other then some handle else registry.handle? other :=
  Index.get?_insert _ _ _ _

@[simp] theorem members_ensureGroup (registry : Registry S T) (name other : String) :
    (registry.ensureGroup name).members other = registry.members other := by
  by_cases same : name = other <;> simp [members, ensureGroup, Index.get?_insert, same]

/-- Joining a group keeps its order and repeats nobody. -/
theorem members_joinGroup (registry : Registry S T) (name other : String) (handle : Handle) :
    (registry.joinGroup name handle).members other =
      if name = other ∧ handle ∉ registry.members name then registry.members name ++ [handle]
      else registry.members other := by
  by_cases same : name = other
  · subst same
    by_cases member : handle ∈ registry.members name
    · simp_all [members, joinGroup]
    · simp_all [members, joinGroup]
  · simp [members, joinGroup, Index.get?_insert, same]

@[simp] theorem copyCount_countCopy (registry : Registry S T) (spawner other : String) :
    (registry.countCopy spawner).copyCount other =
      registry.copyCount other + if spawner = other then 1 else 0 := by
  by_cases same : spawner = other <;> simp [copyCount, countCopy, Index.get?_insert, same]

@[simp] theorem shotCount_countShot (registry : Registry S T) (owner other : String) :
    (registry.countShot owner).shotCount other =
      registry.shotCount other + if owner = other then 1 else 0 := by
  by_cases same : owner = other <;> simp [shotCount, countShot, Index.get?_insert, same]

/-- A forgotten actor loses its id; an id that means another actor by now is kept. -/
theorem handle?_forget (registry : Registry S T) (id other : String) (handle : Handle)
    (group : Option String) :
    (registry.forget id handle group).handle? other =
      if id = other ∧ registry.handle? id = some handle then none else registry.handle? other := by
  simp only [forget, handle?]
  by_cases owner : registry.objects.get? id = some handle
  · simp [owner, Index.get?_erase]
  · simp [owner]

/-- A forgotten actor leaves its group; the others stay in their order. -/
theorem members_forget (registry : Registry S T) (id name : String) (handle : Handle)
    (group : Option String) :
    (registry.forget id handle group).members name =
      if group = some name then (registry.members name).filter (· ≠ handle)
      else registry.members name := by
  cases group with
  | none => simp [forget, members]
  | some left =>
    by_cases same : left = name
    · subst same
      cases found : registry.groups.get? left <;>
        simp [forget, members, Index.get?_modify, found]
    · simp [forget, members, Index.get?_modify, same]

end Registry

end Arcade
