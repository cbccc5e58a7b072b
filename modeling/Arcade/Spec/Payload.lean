import Arcade.Spec.Error
import Arcade.Text.Blank
import Arcade.Text.Split

/-! The part of a blueprint that its kind asks for, with sizes filled in. -/

namespace Arcade.Spec

variable {S : Type} [Scalar S]

def defaultSide : S := 32
def defaultRadius : S := 16
def defaultFontSize : S := 32

/-- A text without the marks that `mark` repeats at its end. -/
def withoutEndings (mark : List Char) : (steps : Nat) → List Char → List Char
  | 0, text => text
  | steps + 1, text =>
    match Text.beforeEnd? mark text with
    | some shorter => withoutEndings mark steps shorter
    | none => text

/-- A size such as `32px`, or a bare number. Anything that is no positive number counts as the
default. -/
def Label.fontPixels (label : Label) : S :=
  let size? := label.fontSize.bind fun text =>
    let bare := Text.trim text.toList
    let number := Text.trim (withoutEndings ['p', 'x'] bare.length bare)
    (Number.Numeral.parse? number).bind Scalar.ofNumeral?
  (size?.filter fun size : S => 0 < size).getD defaultFontSize

/-- What an object shows. -/
inductive Payload (S : Type) where
  | sprite (texture : String)
  | rectangle (width height : S) (color : Option String)
  | circle (radius : S) (color : Option String)
  | text (label : Label)
  | emoji (emoji : Emoji S)
  | group

/-- The payload of a blueprint, or the field that its kind misses. -/
def Blueprint.payload (blueprint : Blueprint S) : Except BuildError (Payload S) :=
  let required {α : Type} (field : String) (part : Option α) : Except BuildError α :=
    match part with
    | some value => .ok value
    | none => .error (.missingPayload blueprint.id blueprint.kind field)
  match blueprint.kind with
  | .sprite => (required "texture" blueprint.texture).map .sprite
  | .rectangle => (required "shape" blueprint.shape).map fun shape =>
      .rectangle (shape.width.getD defaultSide) (shape.height.getD defaultSide) shape.color
  | .circle => (required "shape" blueprint.shape).map fun shape =>
      .circle (shape.radius.getD defaultRadius) shape.color
  | .text => (required "text" blueprint.label).map .text
  | .emoji => (required "emoji" blueprint.emoji).map .emoji
  | .group => .ok .group

end Arcade.Spec
