import Arcade.World.Frame

/-! The books of a game: what was told in it, its score and whether it has ended, how far copies and
shots are numbered, who was made, and the spawners with their clocks. What a game does is a sequence
of entries in its books, so that a law of the whole life of a game need only be checked on each entry.
Some entries are made only as a whole: a copy with its number, and the end with its banner. -/

namespace Arcade

variable {S T : Type}

structure Books (S T : Type) where
  log : Log Signal
  board : Option Board
  arena : Option (Arena S)
  /-- How many copies each spawner has made. -/
  copies : Index Nat
  /-- The number of the next shot of each owner. -/
  shots : Index Nat
  births : List (Birth S)
  nests : Option (List (Nest S T))

/-- What is entered in the books. -/
inductive Entry (S T : Type) where
  | frame
  | news (signal : Signal) (source : Option Handle)
  | score (points : Int)
  /-- The game ends: a banner is made, the arena is paused, and the end is told. -/
  | ending (banner : Handle) (center : Vec S)
  /-- An object of the scene is made. -/
  | object (handle : Handle) (object : Spec.Blueprint S)
  | copy (handle : Handle) (spawner : Spec.Spawner S)
  | shot (handle : Handle) (owner : String) (template : Spec.Blueprint S)
  /-- A shot is numbered, but nothing comes of it. -/
  | miss (owner : String)
  /-- The spawners at work, with their clocks. -/
  | nests (nests : List (Nest S T))

namespace Entry

/-- Something other than the end is told. -/
def OfNews : Entry S T → Prop
  | .news .. => True
  | _ => False

/-- The objects of a scene are made. -/
def OfBuilding : Entry S T → Prop
  | .news .. | .object .. => True
  | _ => False

/-- Rules count points and end the game. -/
def OfRules : Entry S T → Prop
  | .news .. | .score _ | .ending .. => True
  | _ => False

def OfShots : Entry S T → Prop
  | .news .. | .shot .. | .miss _ => True
  | _ => False

def OfCopies : Entry S T → Prop
  | .news .. | .copy .. => True
  | _ => False

variable {entry : Entry S T}

theorem ofBuilding_of_news (news : entry.OfNews) : entry.OfBuilding := by
  cases entry <;> first | exact news | exact news.elim

theorem ofRules_of_news (news : entry.OfNews) : entry.OfRules := by
  cases entry <;> first | exact news | exact news.elim

theorem ofShots_of_news (news : entry.OfNews) : entry.OfShots := by
  cases entry <;> first | exact news | exact news.elim

theorem ofCopies_of_news (news : entry.OfNews) : entry.OfCopies := by
  cases entry <;> first | exact news | exact news.elim

end Entry

/-- What may be entered in a part of a frame. -/
def Phase.enters : Phase → Entry S T → Prop
  | .clock => fun entry => entry = .frame
  | .shots => Entry.OfShots
  | .spawners => fun entry => entry.OfCopies ∨ ∃ nests, entry = .nests nests
  | .timers | .dispatch => Entry.OfRules
  | .cleanUp => Entry.OfNews
  | .controls | .behaviors | .movement | .contacts => fun _ => False

namespace Entry

/-- What may be entered in some part of a frame. -/
def OfFrame (entry : Entry S T) : Prop := ∃ phase : Phase, phase.enters entry

/-- The objects of a scene are made before its first frame. -/
theorem not_ofFrame_object (handle : Handle) (object : Spec.Blueprint S) :
    ¬ (Entry.object handle object : Entry S T).OfFrame := by
  rintro ⟨phase, allowed⟩
  cases phase with
  | clock => cases allowed
  | spawners =>
    rcases allowed with never | ⟨nests, never⟩
    · exact never
    · cases never
  | _ => exact allowed

end Entry

namespace Books

/-- Whether the game has ended. -/
def ended (books : Books S T) : Bool := (books.board.getD .start).ended

def copyCount (books : Books S T) (spawner : String) : Nat := (books.copies.get? spawner).getD 0

def shotCount (books : Books S T) (owner : String) : Nat := (books.shots.get? owner).getD 0

/-- What may be entered: the end of a game is told as it comes, and it comes once. -/
def Admits (books : Books S T) : Entry S T → Prop
  | .news signal _ => ∀ score, signal ≠ .gameOver score
  | .ending .. => books.ended = false
  | _ => True

/-- The books after an entry. -/
def enter (books : Books S T) : Entry S T → Books S T
  | .frame => { books with log := books.log.tick }
  | .news signal source => { books with log := books.log.emit signal source }
  | .score points =>
    let board := books.board.getD .start
    { books with board := some { board with score := board.score + points } }
  | .ending handle center =>
    let board := books.board.getD .start
    { books with
      log := books.log.emit (.gameOver board.score) none
      board := some { board with ended := true }
      arena := books.arena.map Arena.pause
      births := ⟨handle, World.gameOverTextId, World.banner center⟩ :: books.births }
  | .object handle object => { books with births := ⟨handle, object.id, object⟩ :: books.births }
  | .copy handle spawner =>
    let number := books.copyCount spawner.id
    { books with
      copies := books.copies.insert spawner.id (number + 1)
      births := ⟨handle, World.copyId spawner.id number, spawner.template⟩ :: books.births }
  | .shot handle owner template =>
    let number := books.shotCount owner
    { books with
      shots := books.shots.insert owner (number + 1)
      births := ⟨handle, World.shotId owner number, template⟩ :: books.births }
  | .miss owner => { books with shots := books.shots.insert owner (books.shotCount owner + 1) }
  | .nests nests => { books with nests := some nests }

theorem copyCount_copy (books : Books S T) (handle : Handle) (spawner : Spec.Spawner S)
    (other : String) :
    (books.enter (.copy handle spawner)).copyCount other =
      books.copyCount other + if spawner.id = other then 1 else 0 := by
  by_cases same : spawner.id = other <;> simp [copyCount, enter, Index.get?_insert, same]

theorem shotCount_miss (books : Books S T) (owner other : String) :
    (books.enter (.miss owner)).shotCount other =
      books.shotCount other + if owner = other then 1 else 0 := by
  by_cases same : owner = other <;> simp [shotCount, enter, Index.get?_insert, same]

theorem shotCount_shot (books : Books S T) (handle : Handle) (owner other : String)
    (template : Spec.Blueprint S) :
    (books.enter (.shot handle owner template)).shotCount other =
      books.shotCount other + if owner = other then 1 else 0 :=
  shotCount_miss books owner other

/-- Numbers only rise, and what has ended stays ended. -/
structure Grown (before after : Books S T) : Prop where
  copies : ∀ spawner, before.copyCount spawner ≤ after.copyCount spawner
  shots : ∀ owner, before.shotCount owner ≤ after.shotCount owner
  ended : before.ended = true → after.ended = true

theorem Grown.refl (books : Books S T) : Grown books books :=
  ⟨fun _ => Nat.le_refl _, fun _ => Nat.le_refl _, id⟩

theorem Grown.trans {before middle after : Books S T} (first : Grown before middle)
    (second : Grown middle after) : Grown before after :=
  ⟨fun spawner => Nat.le_trans (first.copies spawner) (second.copies spawner),
    fun owner => Nat.le_trans (first.shots owner) (second.shots owner), second.ended ∘ first.ended⟩

theorem grown_enter (books : Books S T) (entry : Entry S T) : Grown books (books.enter entry) := by
  cases entry with
  | copy handle spawner =>
    refine ⟨fun other => ?_, fun _ => Nat.le_refl _, id⟩
    rw [copyCount_copy]
    exact Nat.le_add_right _ _
  | shot handle owner template =>
    refine ⟨fun _ => Nat.le_refl _, fun other => ?_, id⟩
    rw [shotCount_shot]
    exact Nat.le_add_right _ _
  | miss owner =>
    refine ⟨fun _ => Nat.le_refl _, fun other => ?_, id⟩
    rw [shotCount_miss]
    exact Nat.le_add_right _ _
  | _ => constructor <;> simp [enter, copyCount, shotCount, ended]

/-- Entries one after the other, each of which may be made. -/
inductive Runs (may : Entry S T → Prop) (before : Books S T) : Books S T → Prop where
  | refl : Runs may before before
  | enter {after : Books S T} {entry : Entry S T} (runs : Runs may before after)
      (allowed : may entry) (admitted : after.Admits entry) : Runs may before (after.enter entry)

namespace Runs

variable {may permits : Entry S T → Prop} {before middle after : Books S T}

theorem of_eq (same : after = before) : Runs may before after := by
  rw [same]
  exact .refl

theorem trans (first : Runs may before middle) (second : Runs may middle after) :
    Runs may before after := by
  induction second with
  | refl => exact first
  | enter _ allowed admitted ih => exact ih.enter allowed admitted

theorem mono (runs : Runs may before after) (more : ∀ {entry}, may entry → permits entry) :
    Runs permits before after := by
  induction runs with
  | refl => exact .refl
  | enter _ allowed admitted ih => exact ih.enter (more allowed) admitted

/-- What each entry keeps holds to the end. -/
theorem keeps (runs : Runs may before after) (holds : Books S T → Prop)
    (each : ∀ books entry, may entry → books.Admits entry → holds books →
      holds (books.enter entry))
    (start : holds before) : holds after := by
  induction runs with
  | refl => exact start
  | enter _ allowed admitted still => exact each _ _ allowed admitted still

/-- What no entry changes is the same at the end. -/
theorem same {α : Type} (runs : Runs may before after) (view : Books S T → α)
    (fixed : ∀ books entry, may entry → view (books.enter entry) = view books) :
    view after = view before :=
  runs.keeps (fun books => view books = view before)
    (fun books entry allowed _ same => (fixed books entry allowed).trans same) rfl

/-- When things are told nothing but the log changes. -/
theorem told (runs : Runs Entry.OfNews before after) : after = { before with log := after.log } := by
  induction runs with
  | refl => rfl
  | @enter later entry _ news _ same =>
    cases entry with
    | news signal source =>
      rw [same]
      rfl
    | _ => exact news.elim

/-- When objects are made nothing but the log and the births change. -/
theorem built (runs : Runs Entry.OfBuilding before after) :
    after = { before with log := after.log, births := after.births } := by
  induction runs with
  | refl => rfl
  | @enter later entry _ building _ same =>
    cases entry with
    | news signal source =>
      rw [same]
      rfl
    | object handle object =>
      rw [same]
      rfl
    | _ => exact building.elim

/-- Whoever was made stays in the books. -/
theorem mem_births (runs : Runs may before after) {handle : Handle}
    (made : handle ∈ before.births.map (·.handle)) : handle ∈ after.births.map (·.handle) := by
  refine runs.keeps (fun books => handle ∈ books.births.map (·.handle)) ?_ made
  intro books entry _ _ made
  cases entry with
  | news signal source =>
    simp only [Books.enter]
    exact made
  | ending banner center => exact List.mem_cons_of_mem _ made
  | object other object => exact List.mem_cons_of_mem _ made
  | copy other spawner => exact List.mem_cons_of_mem _ made
  | shot other owner template => exact List.mem_cons_of_mem _ made
  | _ => exact made

/-- What is told may be told in other books with the same log. -/
theorem elsewhere (runs : Runs Entry.OfNews before after) (books : Books S T)
    (same : books.log = before.log) :
    Runs Entry.OfNews books { books with log := after.log } := by
  induction runs with
  | refl =>
    rw [← same]
    exact .refl
  | @enter later entry _ news admitted told =>
    cases entry with
    | news signal source =>
      have allowed : Entry.OfNews (.news signal source : Entry S T) := trivial
      have more := told.enter allowed admitted
      exact more
    | _ => exact news.elim

end Runs

/-- The books when a game starts. -/
structure Opened [Scalar S] [Scalar T] (books : Books S T) (settings : Spec.Settings S)
    (spawners : List (Spec.Spawner S)) : Prop where
  board : books.board = some .start
  arena : books.arena = some (.ofSettings settings)
  copies : books.copies = ∅
  shots : books.shots = ∅
  nests : books.nests = some (spawners.map fun spawner => .start spawner 0)

end Books

end Arcade
