import Arcade.Color
import Arcade.Motion.Vec

/-! Actors as they are drawn in a window. Games measure from the upper left corner downwards, windows
from their center upwards. -/

namespace Arcade

/-- What is drawn. A picture without a color of its own is drawn as it is, in plain white. -/
inductive Picture (S : Type) where
  | sprite (color : Option Color) (size : Vec S) (image : Option String)
  | mesh (radius : S) (color : Color)
  | label (text : String) (size : S) (color : Option Color)

/-- The kinds of pictures. -/
inductive Canvas where
  | sprite
  | mesh
  | label
  deriving DecidableEq

def Picture.canvas : Picture S → Canvas
  | sprite .. => .sprite
  | mesh .. => .mesh
  | label .. => .label

/-- A picture in its place. Higher layers cover lower ones. -/
structure Drawing (S : Type) where
  picture : Picture S
  place : Vec S
  layer : S

namespace Drawing

variable {S : Type} [Scalar S]

/-- The place in a window of a position in a world. -/
def toWindow (position extent : Vec S) : Vec S :=
  ⟨position.x - extent.x / 2, extent.y / 2 - position.y⟩

/-- A label that shows another text; other pictures show none. -/
def showing (drawing : Drawing S) (text : String) : Drawing S :=
  match drawing.picture with
  | .label _ size color => { drawing with picture := .label text size color }
  | _ => drawing

end Drawing

end Arcade
