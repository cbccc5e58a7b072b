import Arcade.World

/-! Making actors from blueprints. A blueprint that misses what its kind asks for makes nothing. -/

namespace Arcade

/-- What came of a blueprint. -/
inductive Created where
  | actor (handle : Handle)
  | group (name : String)
  deriving DecidableEq

/-- The body that a blueprint asks for. Static bodies neither bounce nor move. -/
def Body.ofSpec? [Scalar S] (body : Spec.Body S) : Option (Body S) :=
  let bounded := body.bounded.getD false
  match body.role with
  | .none => none
  | .static => some ⟨false, 0, bounded, false, .zero⟩
  | .dynamic =>
    some ⟨true, Scalar.positivePart (body.bounce.getD 0), bounded, false, body.velocity.getD .zero⟩

namespace World

variable {S T : Type} [Scalar S]

/-- An actor of which only name, place and look are known. -/
def bareActor (handle : Handle) (id : String) (position : Vec S) (look : Appearance S) :
    Actor S T where
  handle := handle
  id := id
  group := none
  transient := false
  position := position
  size := look.size
  visual := look.visual
  text := none
  body := none
  drift := none
  controls := none
  drawing := none
  moved := true
  rewritten := true

/-- A new actor of an appearance, with its text. -/
def appear (world : World S T) (blueprint : Spec.Blueprint S) (id : String) (position : Vec S)
    (look : Appearance S) : Handle × World S T :=
  let (handle, handles) := world.handles.take
  let bare := world.roster.add (bareActor handle id position look)
  let roster := match look.text with
    | some text => bare.update handle fun actor => { actor with text := some text }
    | none => bare
  (handle, { world with
    handles
    roster
    births := ⟨handle, id, blueprint⟩ :: world.births
    cradles := (handle, position) :: world.cradles })

/-- Let an id mean a new actor. That it meant a living one before is reported. -/
def enter (world : World S T) (id : String) (handle : Handle) : World S T :=
  let previous := world.handle? id
  let registered := world.withRegistry fun registry => registry.register id handle
  if previous.any fun other => other ≠ handle && world.alive other then
    registered.report (.duplicateObjectId id)
  else registered

/-- Give an actor the body that a blueprint asks for. -/
def embody (world : World S T) (handle : Handle) (body : Option (Spec.Body S)) : World S T :=
  match body.bind Body.ofSpec? with
  | some body =>
    { world with
      roster := world.roster.update handle fun actor => { actor with body := some body } }
  | none => world

/-- Put an actor under the controls that a blueprint asks for. -/
def attach (world : World S T) (handle : Handle)
    (controls : Option (Spec.Controls S (Spec.Blueprint S))) : World S T :=
  match controls with
  | some controls =>
    let (keys, bound) := Controls.bind world.keys controls
    { world with
      keys
      roster := world.roster.update handle fun actor => { actor with controls := some bound } }
  | none => world

/-- Give an id the behavior of a blueprint. -/
def instruct (world : World S T) (id : String) (blueprint : Spec.Blueprint S) : World S T :=
  match blueprint.behavior with
  | some kind =>
    world.withRegistry fun registry =>
      registry.assign id ⟨kind, blueprint.parameters.getD .null⟩
  | none => world

/-- Make a blueprint under an id of its own. -/
def create (world : World S T) (blueprint : Spec.Blueprint S) (id : String) (position : Vec S) :
    Except BuildError (Created × World S T) :=
  match blueprint.payload with
  | .error error => .error error
  | .ok payload =>
    match payload.appearance? with
    | none => .ok (.group id, world.withRegistry fun registry => registry.ensureGroup id)
    | some look =>
      let (handle, world) := world.appear blueprint id position look
      let world := world.enter id handle
      let world := world.embody handle blueprint.body
      let world := world.attach handle blueprint.controls
      .ok (.actor handle, world.instruct id blueprint)

end World

end Arcade
