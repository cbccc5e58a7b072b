import Arcade.Controls
import Arcade.Drawing
import Arcade.Handle
import Arcade.Motion.Box
import Arcade.Spec.Payload

/-! The objects of a running game: what they look like, how they move, and who controls them. -/

namespace Arcade

/-- What an actor looks like. -/
inductive Visual (S : Type) where
  | rectangle (width height : S) (color : Color)
  | circle (radius : S) (color : Color)
  | text (size : S) (color : Color)
  | emoji (symbol : String) (size : S)
  | sprite (key : String)

/-- A body that takes part in physics. Only movable bodies move. -/
structure Body (S : Type) where
  movable : Bool
  bounce : S
  bounded : Bool
  /-- Standing on the floor or on another body. -/
  grounded : Bool
  velocity : Vec S

structure Actor (S T : Type) where
  handle : Handle
  id : String
  group : Option String
  /-- A copy made while the game runs, removed once it leaves the world. -/
  transient : Bool
  position : Vec S
  size : Vec S
  visual : Visual S
  text : Option String
  body : Option (Body S)
  /-- A velocity given to an actor without a body. Nothing moves by it. -/
  drift : Option (Vec S)
  controls : Option (Controls S T)
  drawing : Option (Drawing S)
  /-- The position was written since the actor was last drawn. -/
  moved : Bool
  /-- The text was written since the actor was last drawn. -/
  rewritten : Bool

/-- Which optional parts an actor has. -/
structure Parts where
  text : Bool
  body : Bool
  drift : Bool
  controls : Bool
  transient : Bool
  canvas : Option Canvas
  deriving DecidableEq

namespace Actor

variable {S T : Type}

def parts (actor : Actor S T) : Parts :=
  ⟨actor.text.isSome, actor.body.isSome, actor.drift.isSome, actor.controls.isSome,
    actor.transient, actor.drawing.map (·.picture.canvas)⟩

def movable (actor : Actor S T) : Bool := actor.body.any (·.movable)

def grounded (actor : Actor S T) : Bool := actor.body.any (·.grounded)

def velocity? (actor : Actor S T) : Option (Vec S) :=
  (actor.body.map (·.velocity)).or actor.drift

/-- Give an actor a velocity, which its body has if there is one. -/
def withVelocity (actor : Actor S T) (velocity : Vec S) : Actor S T :=
  match actor.body with
  | some body => { actor with body := some { body with velocity } }
  | none => { actor with drift := some velocity }

def box [Scalar S] (actor : Actor S T) : Box S := Box.ofSize actor.position actor.size

end Actor

namespace Visual

variable {S : Type} [Scalar S]

def spriteSide : S := 32
def defaultEmoji : S := 32

/-- The rough width of a character, for a font size of one. -/
def glyphRatio : S := 3 / 5

/-- The size of a line of text. An empty line is as wide as one character. -/
def textSize (text : String) (fontSize : S) : Vec S :=
  ⟨glyphRatio * fontSize * Scalar.ofNat (max text.length 1), fontSize⟩

end Visual

/-- What a payload makes of an actor: its look, its size, and its text if it has one. -/
structure Appearance (S : Type) where
  visual : Visual S
  size : Vec S
  text : Option String

/-- The appearance of a payload; none for a group, which has no actor. -/
def Spec.Payload.appearance? [Scalar S] : Spec.Payload S → Option (Appearance S)
  | .sprite texture => some ⟨.sprite texture, ⟨Visual.spriteSide, Visual.spriteSide⟩, none⟩
  | .rectangle width height color =>
    some ⟨.rectangle width height (Color.resolve color Color.white), ⟨width, height⟩, none⟩
  | .circle radius color =>
    some ⟨.circle radius (Color.resolve color Color.white), ⟨radius * 2, radius * 2⟩, none⟩
  | .text label =>
    some ⟨.text label.fontPixels (Color.resolve label.fill Color.white),
      Visual.textSize label.text label.fontPixels, some label.text⟩
  | .emoji sign =>
    let size : S := (sign.size.filter fun size : S => 0 < size).getD Visual.defaultEmoji
    some ⟨.emoji sign.symbol size, ⟨size, size⟩, none⟩
  | .group => none

end Arcade
