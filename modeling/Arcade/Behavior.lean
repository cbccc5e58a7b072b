import Arcade.Motion.Vec

/-! How objects move by themselves: back and forth around a place, after another object, or in a new
direction from time to time. -/

namespace Arcade.Behavior

variable {S : Type} [Scalar S]

def patrolRange : S := 200
def patrolSpeed : S := 50
def followTarget : String := "player"
def followSpeed : S := 80
def wanderSpeed : S := 100

/-- Milliseconds between changes of direction. -/
def wanderInterval [Scalar T] : T := 1000

/-- The horizontal velocity of a patrol. It turns around only beyond its range and when it moves
away from its anchor. -/
def patrol (x velocity anchor range speed : S) : S :=
  let offset := x - anchor
  let beyond := decide (range ≤ Scalar.abs offset)
  if velocity == 0 then
    if beyond then -Scalar.sign offset * speed else speed
  else if beyond && Scalar.sign velocity == Scalar.sign offset then -velocity
  else velocity

/-- A velocity of constant size towards a place. -/
def pursuit [Circular S] (position target : Vec S) (speed : S) : Vec S :=
  let path := target - position
  let angle := Circular.atan2 path.y path.x
  (⟨Circular.cos angle, Circular.sin angle⟩ : Vec S).scale speed

/-- A velocity in the direction of an angle. -/
def heading [Circular S] (angle speed : S) : Vec S :=
  ⟨Circular.cos angle * speed, Circular.sin angle * speed⟩

/-- Whether a new direction is due. -/
def changeDue [Scalar T] (last : Option T) (now interval : T) : Bool :=
  match last with
  | none => true
  | some last => decide (interval ≤ now - last)

/-- A number among the parameters of a behavior. -/
def length? (parameters : Json) (name : String) : Option S :=
  (parameters.member? name).bind fun value => value.number?.map Scalar.ofParameter

def word? (parameters : Json) (name : String) : Option String :=
  (parameters.member? name).bind Json.string?

end Arcade.Behavior
