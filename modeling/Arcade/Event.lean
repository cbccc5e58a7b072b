import Arcade.Handle
import Arcade.Json.Record

/-! What happened in a world, frame by frame. The log keeps the latest events and counts those it
dropped. -/

namespace Arcade

/-- Something that happened in a frame, perhaps to an actor. -/
structure Event (α : Type) where
  signal : α
  frame : Nat
  source : Option Handle

structure Log (α : Type) where
  recent : List (Event α)
  frame : Nat
  dropped : Nat
  /-- All that ever happened, latest first. Nothing that is told depends on it. -/
  history : List α

namespace Log

/-- How many events are kept. -/
def capacity : Nat := 500

def empty : Log α := ⟨[], 0, 0, []⟩

/-- Append an event. The oldest ones make room, and are counted as far as a 64-bit counter goes. -/
def emit (log : Log α) (signal : α) (source : Option Handle) : Log α :=
  let all := log.recent ++ [⟨signal, log.frame, source⟩]
  let excess := all.length - capacity
  { log with
    recent := all.drop excess
    dropped := min (log.dropped + excess) Text.maxWord64
    history := signal :: log.history }

/-- Count one more frame, as far as a 64-bit counter goes. -/
def tick (log : Log α) : Log α := { log with frame := min (log.frame + 1) Text.maxWord64 }

/-- The kept events since a frame that pass a test. -/
def select (log : Log α) (since : Option Nat) (test : α → Bool) : List (Event α) :=
  log.recent.filter fun event =>
    since.all (fun frame => decide (frame ≤ event.frame)) && test event.signal

/-- The events that are kept are the latest of all that ever happened. -/
def Faithful (log : Log α) : Prop :=
  log.recent.map (·.signal) = log.history.reverse.drop (log.history.length - capacity)

theorem faithful_empty : (empty : Log α).Faithful := by simp [Faithful, empty]

theorem Faithful.emit {log : Log α} (faithful : log.Faithful) (signal : α)
    (source : Option Handle) : (log.emit signal source).Faithful := by
  have latest : log.recent.map (·.signal) =
      log.history.reverse.drop (log.history.length - capacity) := faithful
  have kept := congrArg List.length latest
  rw [List.length_map, List.length_drop, List.length_reverse] at kept
  simp only [Faithful, Log.emit, List.map_drop, List.map_append, latest, List.map_singleton,
    List.length_append, List.length_cons, List.length_nil, List.reverse_cons]
  generalize capacity = room at kept ⊢
  rw [← List.drop_append_of_le_length (by rw [List.length_reverse]; omega), List.drop_drop]
  congr 1
  omega

theorem Faithful.tick {log : Log α} (faithful : log.Faithful) : log.tick.Faithful := faithful

/-- What holds of a new log, and is kept when a frame passes and when something is emitted. -/
structure Law (holds : Log α → Prop) : Prop where
  empty : holds .empty
  tick : ∀ {log : Log α}, holds log → holds log.tick
  emit : ∀ {log : Log α} (signal : α) (source : Option Handle), holds log →
    holds (log.emit signal source)

theorem law_faithful : Law (Faithful (α := α)) where
  empty := faithful_empty
  tick faithful := faithful.tick
  emit signal source faithful := faithful.emit signal source

/-- The log stays within its capacity. -/
theorem length_recent_emit_le (log : Log α) (signal : α) (source : Option Handle) :
    (log.emit signal source).recent.length ≤ capacity := by
  simp only [emit, List.length_drop]
  omega

end Log

/-- What happens in a game. -/
inductive Signal where
  | gameStarted (title scene : String) (generation : Nat)
  | gameStopped (scene : String) (generation : Nat)
  | objectSpawned (id group : String)
  | objectDestroyed (id : String) (group : Option String)
  | scoreChanged (score points : Int)
  | textUpdated (id text : String)
  | gameOver (score : Int)
  | diagnostic (message : String)
  deriving DecidableEq

namespace Signal

def name : Signal → String
  | gameStarted .. => "game_started"
  | gameStopped .. => "game_stopped"
  | objectSpawned .. => "object_spawned"
  | objectDestroyed .. => "object_destroyed"
  | scoreChanged .. => "score_changed"
  | textUpdated .. => "text_updated"
  | gameOver _ => "game_over"
  | diagnostic _ => "diagnostic"

def data : Signal → Json
  | gameStarted title scene generation =>
    .object [("title", .string title), ("scene", .string scene),
      ("generation", .ofNat generation)]
  | gameStopped scene generation =>
    .object [("scene", .string scene), ("generation", .ofNat generation)]
  | objectSpawned id group => .object [("id", .string id), ("group", .string group)]
  | objectDestroyed id group =>
    .object [("id", .string id), ("group", .ofOption .string group)]
  | scoreChanged score points => .object [("score", .int score), ("points", .int points)]
  | textUpdated id text => .object [("id", .string id), ("text", .string text)]
  | gameOver score => .object [("score", .int score)]
  | diagnostic message => .object [("message", .string message)]

end Signal

end Arcade
