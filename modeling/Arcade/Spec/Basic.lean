import Arcade.Json.Basic
import Arcade.Number.Scalar

/-! What a game is made of before it runs: scenes of objects, their rules, spawners and actions. -/

namespace Arcade

/-- A pair of lengths: a place, an extent or a velocity. -/
structure Vec (S : Type) where
  x : S
  y : S
  deriving DecidableEq

namespace Spec

structure Physics (S : Type) where
  enabled : Bool
  gravity : Vec S
  debug : Bool

/-- Size and look of the world. -/
structure Settings (S : Type) where
  width : Nat
  height : Nat
  background : String
  physics : Physics S

inductive AssetKind where
  | sprite
  | audio
  | image
  deriving DecidableEq

structure Asset where
  key : String
  kind : AssetKind
  url : String
  deriving DecidableEq

/-- How an object takes part in physics. -/
inductive Role where
  | dynamic
  | static
  | none
  deriving DecidableEq

structure Body (S : Type) where
  role : Role
  bounce : Option S
  bounded : Option Bool
  velocity : Option (Vec S)

/-- Key names and strengths of a controlled object. A template makes its shots. -/
structure Controls (S Template : Type) where
  left : Option String
  right : Option String
  jump : Option String
  up : Option String
  down : Option String
  shoot : Option String
  projectile : Option Template
  speed : Option S
  jumpVelocity : Option S

inductive Kind where
  | sprite
  | rectangle
  | circle
  | text
  | emoji
  | group
  deriving DecidableEq

structure Shape (S : Type) where
  width : Option S
  height : Option S
  radius : Option S
  color : Option String

structure Label where
  text : String
  fontSize : Option String
  fill : Option String

structure Emoji (S : Type) where
  symbol : String
  size : Option S

inductive BehaviorKind where
  | patrol
  | follow
  | static
  | random
  deriving DecidableEq

/-- An object of a scene, or a template that spawners and shooters copy. -/
structure Blueprint (S : Type) where
  id : String
  kind : Kind
  x : S
  y : S
  texture : Option String
  shape : Option (Shape S)
  label : Option Label
  emoji : Option (Emoji S)
  body : Option (Body S)
  controls : Option (Controls S (Blueprint S))
  behavior : Option BehaviorKind
  parameters : Option Json

/-- Ranges around which copies appear. -/
structure Variance (S : Type) where
  xMin : S
  xMax : S
  yMin : Option S
  yMax : Option S

structure Spawner (S : Type) where
  id : String
  template : Blueprint S
  /-- Milliseconds between copies. -/
  interval : Nat
  maxCount : Option Nat
  area : String
  variance : Option (Variance S)

/-- What an action does. -/
inductive Effect where
  | updateScore (points : Int)
  | gameOver
  | destroy
  | updateText (id text : String)
  deriving DecidableEq

structure Action where
  name : String
  effect : Effect
  deriving DecidableEq

structure Logic (S : Type) where
  onCollision : Option (List String)
  onOverlap : Option (List String)
  timers : Option (List String)
  spawners : Option (List (Spawner S))
  actions : Option (List Action)

structure Scene (S : Type) where
  name : String
  objects : List (Blueprint S)
  logic : Option (Logic S)

end Spec

/-- A complete game. -/
structure Spec (S : Type) where
  title : String
  description : String
  settings : Spec.Settings S
  assets : List Spec.Asset
  scenes : List (Spec.Scene S)
  controlsDescription : List String
  keyConcepts : List String

namespace Spec

def defaultBackground : String := "#87CEEB"

/-- A blueprint of which only name, kind and place are given. -/
def Blueprint.plain (id : String) (kind : Kind) (x y : S) : Blueprint S :=
  ⟨id, kind, x, y, none, none, none, none, none, none, none, none⟩

def Logic.empty : Logic S := ⟨none, none, none, none, none⟩

namespace Kind

def name : Kind → String
  | sprite => "sprite"
  | rectangle => "rectangle"
  | circle => "circle"
  | text => "text"
  | emoji => "emoji"
  | group => "group"

end Kind

/-- The names of closed sets, in the order in which messages list them. -/
def kinds : List (String × Kind) :=
  [Kind.sprite, .rectangle, .circle, .text, .emoji, .group].map fun kind => (kind.name, kind)

def assetKinds : List (String × AssetKind) :=
  [("sprite", .sprite), ("audio", .audio), ("image", .image)]

def roles : List (String × Role) :=
  [("dynamic", .dynamic), ("static", .static), ("none", .none)]

def behaviorKinds : List (String × BehaviorKind) :=
  [("patrol", .patrol), ("follow", .follow), ("static", .static), ("random", .random)]

def AssetKind.name : AssetKind → String
  | sprite => "sprite"
  | audio => "audio"
  | image => "image"

def Role.name : Role → String
  | dynamic => "dynamic"
  | static => "static"
  | none => "none"

def BehaviorKind.name : BehaviorKind → String
  | patrol => "patrol"
  | follow => "follow"
  | static => "static"
  | random => "random"

end Spec

end Arcade
