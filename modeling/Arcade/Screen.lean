import Arcade.Address
import Arcade.World.Play

/-! The window in which a world is shown. Each actor gets a drawing when it is first shown; later its
drawing follows its position and its text. -/

namespace Arcade

structure Screen (S : Type) where
  /-- Pictures of sprites can be loaded. -/
  pictures : Bool
  background : Color
  title : String
  extent : Vec S
  /-- The camera, once the screen was switched on. -/
  camera : Option Handle

namespace Screen

variable {S T : Type} [Scalar S]

/-- A window before any game. -/
def start (pictures : Bool) : Screen S where
  pictures := pictures
  background := Color.ofChannels 43 44 47
  title := "App"
  extent := ⟨1280, 720⟩
  camera := none

/-- Take the look of a game. -/
def showing (screen : Screen S) (spec : Spec S) : Screen S :=
  { screen with
    background := Color.resolve (some spec.settings.background) Color.skyBlue
    title := spec.title
    extent := ⟨Scalar.ofNat spec.settings.width, Scalar.ofNat spec.settings.height⟩ }

end Screen

namespace World

variable {S T : Type} [Scalar S]

/-- The space that is shown. -/
def extent (world : World S T) : Vec S := (world.arena.map (·.extent)).getD .zero

/-- The address of the picture of a sprite, if it is declared and can be loaded. -/
def picture? (world : World S T) (pictures : Bool) (key : String) : Option String :=
  if pictures then world.manifest.bind fun manifest => manifest.picture? key else none

/-- The picture of a look, and its layer. -/
def pictured (world : World S T) (pictures : Bool) (actor : Actor S T) : Picture S × S :=
  match actor.visual with
  | .rectangle width height color => (.sprite (some color) ⟨width, height⟩ none, 0)
  | .circle radius color => (.mesh radius color, 0)
  | .text size color => (.label (actor.text.getD "") size (some color), 10)
  | .emoji symbol size => (.label symbol size none, 5)
  | .sprite key =>
    let side : Vec S := ⟨Visual.spriteSide, Visual.spriteSide⟩
    match world.picture? pictures key with
    | some address => (.sprite none side (some address), 1)
    | none => (.sprite (some Color.magenta) side none, 1)

/-- Give an actor its drawing. -/
def attachDrawing (pictures : Bool) (world : World S T) (handle : Handle) : World S T :=
  { world with
    roster := world.roster.update handle fun actor =>
      let (picture, layer) := world.pictured pictures actor
      { actor with
        drawing := some ⟨picture, Drawing.toWindow actor.position world.extent, layer⟩ } }

/-- Give a drawing to each actor that has none. -/
def attachDrawings (world : World S T) (pictures : Bool) : World S T :=
  let bare := world.roster.actors.filter fun actor => actor.drawing.isNone
  (bare.map (·.handle)).foldl (attachDrawing pictures) world

/-- An actor whose drawing is where the actor moved to and shows what its text was changed to. -/
def synced (extent : Vec S) (actor : Actor S T) : Actor S T :=
  let placed := actor.drawing.map fun drawing =>
    if actor.moved then { drawing with place := Drawing.toWindow actor.position extent }
    else drawing
  let shown := match actor.text with
    | some text => placed.map fun drawing =>
      if actor.rewritten then drawing.showing text else drawing
    | none => placed
  { actor with drawing := shown, moved := false, rewritten := false }

/-- Whether an actor that has no drawing yet asks for a picture whose address says nothing. -/
def misaddressed (world : World S T) (pictures : Bool) (actor : Actor S T) : Bool :=
  match actor.drawing, actor.visual with
  | none, .sprite key => (world.picture? pictures key).any fun address => !Address.readable address.toList
  | _, _ => false

/-- Show what there is. -/
def draw (world : World S T) (pictures : Bool) : Except Crash (World S T) :=
  if world.roster.actors.any (world.misaddressed pictures) then .error .unreadableAddress
  else
    let attached := world.attachDrawings pictures
    .ok { attached with roster := attached.roster.map (synced attached.extent) }

end World

end Arcade
