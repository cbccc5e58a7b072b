import Arcade.Cabinet

/-! All that can happen to a cabinet: the calls of a program that uses it, the frames of the game, what
arrives from outside, and the parts of an update. A run is any sequence of these. -/

namespace Arcade

/-- The parts of an update. -/
inductive Service where
  | screen
  | display
  | commands
  | pending
  | changes
  deriving DecidableEq

/-- The parts of an update in their order. -/
def Service.order : List Service := [.screen, .display, .commands, .pending, .changes]

/-- What can happen to a cabinet. -/
inductive Operation (S T : Type) where
  | start (spec : Spec S) (options : StartOptions)
  | stop (session : Session)
  | stopCurrent
  | step (keyboard : Option (List Key)) (delta : T)
  | insert (spec : Spec S) (options : StartOptions)
  | change (contents : String)
  | send (command : Api.Command S)
  | service (service : Service)

namespace Cabinet

variable {S T : Type} [Scalar S] [Scalar T]

/-- Do one part of an update. -/
def attend (cabinet : Cabinet S T) : Service → Except Crash (Cabinet S T)
  | .screen => .ok cabinet.switchOn
  | .display => cabinet.display
  | .commands => .ok cabinet.serve.1
  | .pending => .ok cabinet.startPending
  | .changes => .ok cabinet.lookForChanges

/-- An update is its parts in their order. -/
theorem update_eq_attend (cabinet : Cabinet S T) :
    cabinet.update.map (·.1) = Service.order.foldlM attend cabinet := by
  simp only [update, Service.order, List.foldlM_cons, List.foldlM_nil, attend, bind, Except.bind]
  cases cabinet.switchOn.display <;> rfl

variable [Circular S] [Sampling S] [Rounding T S]

/-- Let one thing happen. -/
def apply (cabinet : Cabinet S T) : Operation S T → Except Crash (Cabinet S T)
  | .start spec options =>
    .ok { cabinet with world := (cabinet.world.tryStart spec options).1 }
  | .stop session => .ok { cabinet with world := cabinet.world.stop session }
  | .stopCurrent => .ok { cabinet with world := (Api.stopCurrent cabinet.world).1 }
  | .step keyboard delta => do
    let world ← cabinet.world.step keyboard delta
    .ok { cabinet with world }
  | .insert spec options => .ok (cabinet.insert spec options)
  | .change contents => .ok (cabinet.noteChange contents)
  | .send command => .ok (cabinet.send command)
  | .service service => cabinet.attend service

/-- Let things happen one after the other, as long as the game can go on. -/
def run (cabinet : Cabinet S T) (operations : List (Operation S T)) :
    Except Crash (Cabinet S T) :=
  operations.foldlM apply cabinet

end Cabinet

end Arcade
