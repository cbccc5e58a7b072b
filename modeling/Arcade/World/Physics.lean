import Arcade.Motion.Bounds
import Arcade.World.Effect

/-! Bodies at work: they fall and move, stay in the world, and meet. -/

namespace Arcade

namespace Body

variable {S : Type} [Scalar S]

/-- A velocity component after a push along its axis. -/
def rebound (bounce push velocity : S) : S :=
  if push * velocity < 0 then -velocity * bounce else velocity

/-- A body after it was pushed. A push upwards means that it stands on something. -/
def pushed (body : Body S) (push : Vec S) : Body S :=
  { body with
    velocity := ⟨rebound body.bounce push.x body.velocity.x,
      rebound body.bounce push.y body.velocity.y⟩
    grounded := body.grounded || decide (push.y < 0) }

end Body

namespace Actor

variable {S T : Type} [Scalar S]

/-- An actor after it was pushed. -/
def pushed (actor : Actor S T) (push : Vec S) : Actor S T :=
  if push.isZero then { actor with moved := true }
  else
    { actor with
      position := actor.position + push
      body := actor.body.map fun body => body.pushed push
      moved := true }

/-- An actor after some time of free movement. Nothing stands before it was found to stand. -/
def integrated (arena : Arena S) (seconds : S) (actor : Actor S T) : Actor S T :=
  match actor.body with
  | none => actor
  | some body =>
    if body.movable then
      let velocity := body.velocity + arena.gravity.scale seconds
      let position := actor.position + velocity.scale seconds
      let outcome : Bounds.Outcome S :=
        if body.bounded then
          Bounds.resolve position velocity actor.size.halved arena.extent body.bounce
        else ⟨position, velocity, false⟩
      { actor with
        position := outcome.center
        body := some { body with velocity := outcome.velocity, grounded := outcome.grounded }
        moved := true }
    else { actor with body := some { body with grounded := false } }

end Actor

namespace World

variable {S T : Type} [Scalar S] [Scalar T]

/-- Move all bodies, while the arena runs. -/
def integrate [Rounding T S] (world : World S T) : World S T :=
  match world.arena, world.clock with
  | some arena, some clock =>
    if arena.running then
      let seconds : S := Rounding.coarse (clock.delta / 1000)
      { world with roster := world.roster.map (Actor.integrated arena seconds) }
    else world
  | _, _ => world

/-- The actors after two of them met: bodies that collide are pushed apart. -/
def parted (roster : Roster S T) (kind : Contact.Kind) (first second : Actor S T) : Roster S T :=
  match kind, first.body, second.body with
  | .collision, some a, some b =>
    match Box.separate first.box second.box a.movable b.movable with
    | some (pushFirst, pushSecond) =>
      (roster.modify first.handle (·.pushed pushFirst)).modify second.handle (·.pushed pushSecond)
    | none => roster
  | _, _, _ => roster

/-- Check one pair for a contact. -/
def meet (kind : Contact.Kind) (index : Nat) (state : Roster S T × List Contact)
    (pair : Handle × Handle) : Roster S T × List Contact :=
  let (roster, contacts) := state
  match roster.find? pair.1, roster.find? pair.2 with
  | some first, some second =>
    if first.box.overlaps second.box then
      (parted roster kind first second, contacts ++ [⟨index, pair.1, pair.2⟩])
    else (roster, contacts)
  | _, _ => (roster, contacts)

/-- Check the pairs of one binding. -/
def detectBinding (registry : Registry S T) (state : Roster S T × List Contact)
    (entry : Binding × Nat) : Roster S T × List Contact :=
  let (binding, index) := entry
  let pairs := candidatePairs (registry.sideMembers binding.first)
    (registry.sideMembers binding.second) (binding.first = binding.second)
  pairs.foldl (meet binding.kind index) state

/-- Find the contacts of all bindings, in their order, while the arena runs. -/
def detect (world : World S T) : World S T :=
  match world.arena, world.registry, world.bindings, world.contacts with
  | some arena, some registry, some bindings, some contacts =>
    if arena.running then
      let (roster, contacts) :=
        bindings.zipIdx.foldl (detectBinding registry) (world.roster, contacts)
      { world with roster, contacts := some contacts }
    else world
  | _, _, _, _ => world

/-- Let the rule of one contact fire, if both actors are still there. The second is the target. -/
def dispatchOne (world : World S T) (contact : Contact) : World S T :=
  if world.alive contact.first && world.alive contact.second then
    world.fire (.interaction contact.binding) (some contact.second)
  else world

/-- Put a contact before the first one that is not of an earlier binding. -/
def insertContact (contact : Contact) : List Contact → List Contact
  | [] => [contact]
  | first :: rest =>
    if contact.binding ≤ first.binding then contact :: first :: rest
    else first :: insertContact contact rest

/-- Contacts in the order of their bindings, and those of one binding as they were found. -/
def byBinding (contacts : List Contact) : List Contact := contacts.foldr insertContact []

/-- Let the rules of all contacts fire. -/
def dispatch (world : World S T) : World S T :=
  match world.contacts with
  | none => world
  | some contacts => (byBinding contacts).foldl dispatchOne { world with contacts := some [] }

end World

end Arcade
