import Arcade.World.Create

/-! What rules do when they fire: count points, end the game, remove an actor, change a text. -/

namespace Arcade

/-- What the name of a callback means. -/
inductive Callback where
  | action (effect : Spec.Effect)
  /-- Meeting bodies are pushed apart, and that is all. -/
  | nothing
  | gameOver
  | destroy
  | unknown
  deriving DecidableEq

/-- The meaning of a name: an action of the scene before what every scene knows. -/
def Callback.resolve (library : Option (Index Spec.Effect)) (name : String) : Callback :=
  match library.bind fun library => library.get? name with
  | some effect => .action effect
  | none =>
    match name with
    | "null" => .nothing
    | "gameOver" => .gameOver
    | "destroy" => .destroy
    | _ => .unknown

/-- Actions by their names; the last one of a name counts. -/
def libraryOf (actions : List Spec.Action) : Index Spec.Effect :=
  .ofList (actions.map fun action => (action.name, action.effect))

/-- The effect of a meaning, if it has one. -/
def Callback.effect? : Callback → Option Spec.Effect
  | action effect => some effect
  | gameOver => some .gameOver
  | destroy => some .destroy
  | nothing => none
  | unknown => none

/-- The rule that fired, given by its position. -/
inductive RuleSite where
  | interaction (index : Nat)
  | timer (index : Nat)
  deriving DecidableEq

namespace World

variable {S T : Type} [Scalar S]

def scoreTextId : String := "scoreText"
def gameOverTextId : String := "gameOverText"

/-- The text over a game that has ended. -/
def banner (center : Vec S) : Spec.Blueprint S :=
  { Spec.Blueprint.plain gameOverTextId .text center.x center.y with
    label := some ⟨"GAME OVER", some "64px", some "#ff0000"⟩ }

def addPoints (world : World S T) (points : Int) : World S T :=
  let board := world.board.getD .start
  let score := board.score + points
  let counted := { world with board := some { board with score } }
  let shown := (counted.setText? scoreTextId ("Score: " ++ toString score)).getD counted
  shown.emit (.scoreChanged score points) none

/-- The middle of the world. -/
def center (world : World S T) : Vec S :=
  match world.arena with
  | some arena => arena.extent.halved
  | none => .zero

/-- End the game once: show the banner and let nothing move any more. -/
def endGame (world : World S T) : World S T :=
  let board := world.board.getD .start
  if board.ended then { world with board := some board }
  else
    let world := { world with board := some { board with ended := true } }
    let center := world.center
    let shown : World S T :=
      match world.create (banner center) gameOverTextId center with
      | .ok (_, shown) => shown
      | .error _ => world
    let paused := { shown with arena := shown.arena.map Arena.pause }
    paused.emit (.gameOver board.score) none

/-- Remove a target, if there is one. -/
def destroyTarget (world : World S T) : Option Handle → World S T
  | some handle => world.destroy handle
  | none => world

/-- Carry out an effect on a target. -/
def execute (world : World S T) (effect : Spec.Effect) (target : Option Handle) : World S T :=
  match effect with
  | .updateScore points => (world.addPoints points).destroyTarget target
  | .gameOver => world.endGame
  | .destroy => world.destroyTarget target
  | .updateText id text =>
    match world.setText? id text with
    | some changed => changed.emit (.textUpdated id text) none
    | none => world

/-- The callback of a rule. -/
def callbackName? (world : World S T) (site : RuleSite) : Option String :=
  match site with
  | .interaction index => (world.bindings.bind (·[index]?)).map (·.callback)
  | .timer index => (world.alarms.bind (·[index]?)).map (·.rule.callback)

/-- The effect that a rule has now. -/
def effectAt? (world : World S T) (site : RuleSite) : Option Spec.Effect :=
  (world.callbackName? site).bind fun name => (Callback.resolve world.library name).effect?

/-- Note that the callback of a rule means nothing. -/
def warn (world : World S T) (site : RuleSite) : World S T :=
  match site with
  | .interaction index =>
    { world with
      bindings := world.bindings.map fun bindings =>
        bindings.modify index fun binding => { binding with warned := true } }
  | .timer index =>
    { world with
      alarms := world.alarms.map fun alarms =>
        alarms.modify index fun alarm => { alarm with warned := true } }

/-- Let a rule fire on a target. -/
def fire (world : World S T) (site : RuleSite) (target : Option Handle) : World S T :=
  match world.callbackName? site with
  | none => world
  | some name =>
    match Callback.resolve world.library name with
    | .unknown => world.warn site
    | callback =>
      match callback.effect? with
      | some effect => world.execute effect target
      | none => world

end World

end Arcade
