import Arcade.Spec.Basic

/-! Pairs of lengths, added and scaled component by component. -/

namespace Arcade.Vec

variable {S : Type} [Scalar S]

def zero : Vec S := ⟨0, 0⟩

instance : Inhabited (Vec S) := ⟨zero⟩

instance : Add (Vec S) := ⟨fun a b => ⟨a.x + b.x, a.y + b.y⟩⟩
instance : Sub (Vec S) := ⟨fun a b => ⟨a.x - b.x, a.y - b.y⟩⟩
instance : Neg (Vec S) := ⟨fun a => ⟨-a.x, -a.y⟩⟩

def scale (v : Vec S) (factor : S) : Vec S := ⟨v.x * factor, v.y * factor⟩

def halved (v : Vec S) : Vec S := ⟨v.x / 2, v.y / 2⟩

/-- Distances along each axis. -/
def abs (v : Vec S) : Vec S := ⟨Scalar.abs v.x, Scalar.abs v.y⟩

/-- Zero along both axes, of either sign. -/
def isZero (v : Vec S) : Bool := v.x == 0 && v.y == 0

end Arcade.Vec
