import Arcade.Proofs.Bookkeeping

/-! The firings of spawners. The timer of a spawner fires, sometimes a few times at once, and each firing
makes one copy, until the first firing that makes none. The copies are counted under the id of the
spawner, which other spawners may share. In a frame the spawners come to their turns one after the
other. -/

namespace Arcade

variable {S T : Type}

/-! ### Firings and turns -/

/-- A firing of a spawner, with the world that it finds. -/
structure Firing (S T : Type) where
  world : World S T
  spawner : Spec.Spawner S

/-- Who is made by a firing. -/
def Firing.made [Scalar S] [Sampling S] (firing : Firing S T) : List (Birth S) :=
  match firing.world.spawnOne firing.spawner with
  | .ok (after, _) => after.births.take (after.births.length - firing.world.births.length)
  | .error _ => []

/-- The firings of a spawner that is to fire a number of times. After a firing that makes no copy there
are no more. -/
def World.firings [Scalar S] [Sampling S] (spawner : Spec.Spawner S) :
    Nat → World S T → List (Firing S T)
  | 0, _ => []
  | rest + 1, world =>
    ⟨world, spawner⟩ ::
      match world.spawnOne spawner with
      | .ok (next, true) => firings spawner rest next
      | _ => []

/-- A spawner comes to its turn in a frame. -/
structure Turn (S T : Type) where
  world : World S T
  nest : Nest S T
  now : T

namespace Turn

variable [Scalar T]

/-- How often the timer fires. -/
def fired (turn : Turn S T) : Nat := (turn.nest.timer.poll turn.now).2

variable [Scalar S] [Sampling S]

def firings (turn : Turn S T) : List (Firing S T) :=
  turn.world.firings turn.nest.spawner turn.fired

def made (turn : Turn S T) : List (Birth S) := turn.firings.flatMap Firing.made

/-- The game did not break down in the turn. -/
def Ended (turn : Turn S T) : Prop := (turn.world.tickNest turn.nest turn.now).isOk = true

end Turn

namespace World

variable [Scalar S] [Scalar T] [Sampling S]

/-- The turns of spawners, one after the other. -/
def turnsOf (now : T) : List (Nest S T) → World S T → List (Turn S T)
  | [], _ => []
  | nest :: rest, world =>
    ⟨world, nest, now⟩ ::
      match world.tickNest nest now with
      | .ok (next, _) => turnsOf now rest next
      | .error _ => []

/-- The turns that the spawners at work take when it comes to them. -/
def turns (world : World S T) : List (Turn S T) :=
  match world.nests, world.clock with
  | some nests, some clock => turnsOf clock.now nests world
  | _, _ => []

end World

/-! ### One firing -/

section

variable [Scalar S] [Sampling S]

namespace World

variable {world after : World S T} {spawner : Spec.Spawner S}

theorem made_of_births {more : Bool} {made : List (Birth S)}
    (done : world.spawnOne spawner = .ok (after, more))
    (births : after.births = made ++ world.births) : Firing.made ⟨world, spawner⟩ = made := by
  simp only [Firing.made, done, births, List.length_append, Nat.add_sub_cancel, List.take_left]

/-- A firing makes one copy and goes on, or makes none and tells that the spawner is done. -/
theorem made_spawnOne {more : Bool} (done : world.spawnOne spawner = .ok (after, more)) :
    after.births = Firing.made ⟨world, spawner⟩ ++ world.births ∧
    (∀ id, after.books.copyCount id = world.books.copyCount id +
      if spawner.id = id then (Firing.made ⟨world, spawner⟩).length else 0) ∧
    ((more = true ∧ exhausted spawner (world.books.copyCount spawner.id) = false ∧
        ∃ birth, Firing.made ⟨world, spawner⟩ = [birth] ∧
          birth.id = copyId spawner.id (world.books.copyCount spawner.id)) ∨
      (more = false ∧ Firing.made ⟨world, spawner⟩ = [] ∧
        (exhausted spawner (world.books.copyCount spawner.id) = true ∨
          ∀ look, spawner.template.appearance? ≠ .ok (some look)))) := by
  have barren (births : after.births = world.births) : Firing.made ⟨world, spawner⟩ = [] :=
    made_of_births done births
  have silent {before : Books S T} (told : Books.Runs Entry.OfNews before after.books) :
      after.births = before.births ∧ ∀ id, after.books.copyCount id = before.copyCount id := by
    refine ⟨congrArg Books.births told.told, fun id => ?_⟩
    rw [told.told]
    rfl
  rcases spawnOne_cases done with ⟨all, rfl, rfl⟩ | ⟨left, ⟨handle, rfl, told⟩ | ⟨rfl, unable, told⟩⟩
  · rw [barren rfl]
    exact ⟨rfl, fun id => by rw [List.length_nil, ite_self, Nat.add_zero],
      .inr ⟨rfl, rfl, .inl all⟩⟩
  · obtain ⟨births, counts⟩ := silent told
    have one : Firing.made ⟨world, spawner⟩ =
        [⟨handle, copyId spawner.id (world.books.copyCount spawner.id), spawner.template⟩] :=
      made_of_births done births
    rw [one]
    refine ⟨births, fun id => ?_, .inl ⟨rfl, left, _, rfl, rfl⟩⟩
    rw [counts, Books.copyCount_copy, List.length_singleton]
  · obtain ⟨births, counts⟩ := silent told
    rw [barren births]
    refine ⟨births, fun id => ?_, .inr ⟨rfl, rfl, .inr unable⟩⟩
    rw [counts, List.length_nil, ite_self, Nat.add_zero]

end World

/-! ### The firings of one turn -/

/-- After a firing that makes nothing there are no more. -/
def Ceases (firings : List (Firing S T)) : Prop :=
  ∀ before firing after, firings = before ++ firing :: after → firing.made = [] → after = []

theorem ceases_nil : Ceases ([] : List (Firing S T)) :=
  fun _ _ _ never => absurd never (by simp)

theorem Ceases.cons {firing : Firing S T} {firings : List (Firing S T)} (fruitful : firing.made ≠ [])
    (ceases : Ceases firings) : Ceases (firing :: firings) := by
  intro before other after same nothing
  cases before with
  | nil =>
    obtain ⟨rfl, -⟩ := List.cons.inj same
    exact absurd nothing fruitful
  | cons first rest => exact ceases rest other after (List.cons.inj same).2 nothing

theorem Ceases.tail {firing : Firing S T} {firings : List (Firing S T)}
    (ceases : Ceases (firing :: firings)) : Ceases firings := fun before other after same nothing =>
  ceases (firing :: before) other after (congrArg (firing :: ·) same) nothing

theorem ceases_singleton (firing : Firing S T) : Ceases [firing] := by
  intro before other after same _
  cases before with
  | nil => exact (List.cons.inj same).2.symm
  | cons first rest => exact absurd (List.cons.inj same).2 (by simp)

theorem Ceases.append {first second : List (Firing S T)}
    (fruitful : ∀ firing ∈ first, firing.made ≠ []) (ceases : Ceases second) :
    Ceases (first ++ second) := by
  induction first with
  | nil => exact ceases
  | cons firing rest ih =>
    exact (ih fun other member => fruitful other (List.mem_cons_of_mem _ member)).cons
      (fruitful firing List.mem_cons_self)

/-- Firings one after the other, the first of which finds a number of copies counted. -/
structure Burst (spawner : Spec.Spawner S) (count : Nat) (firings : List (Firing S T)) : Prop where
  numbered : (firings.flatMap Firing.made).map (·.id) =
    (List.range' count (firings.flatMap Firing.made).length).map (World.copyId spawner.id)
  most : firings.flatMap Firing.made ≠ [] → ∀ most, spawner.maxCount = some most →
    count + (firings.flatMap Firing.made).length ≤ most
  ceases : Ceases firings

theorem Burst.nil (spawner : Spec.Spawner S) (count : Nat) :
    Burst spawner count ([] : List (Firing S T)) where
  numbered := rfl
  most never := absurd rfl never
  ceases := ceases_nil

/-- A firing that makes nothing comes last. -/
theorem Burst.barren (spawner : Spec.Spawner S) (count : Nat) {firing : Firing S T}
    (nothing : firing.made = []) : Burst spawner count [firing] where
  numbered := by rw [List.flatMap_singleton, nothing]; rfl
  most never := by
    rw [List.flatMap_singleton] at never
    exact absurd nothing never
  ceases := ceases_singleton firing

theorem Burst.cons {spawner : Spec.Spawner S} {count : Nat} {firing : Firing S T}
    {firings : List (Firing S T)} {birth : Birth S} (one : firing.made = [birth])
    (number : birth.id = World.copyId spawner.id count)
    (left : World.exhausted spawner count = false) (burst : Burst spawner (count + 1) firings) :
    Burst spawner count (firing :: firings) where
  numbered := by
    rw [List.flatMap_cons, one, List.singleton_append, List.map_cons, burst.numbered,
      List.length_cons, List.range'_succ, List.map_cons, number]
  most _ most limit := by
    rw [List.flatMap_cons, one, List.singleton_append, List.length_cons]
    by_cases nothing : firings.flatMap Firing.made = []
    · have below : count < most := by simpa [World.exhausted, limit] using left
      rw [nothing]
      exact below
    · have within := burst.most nothing most limit
      omega
  ceases := by
    refine burst.ceases.cons ?_
    rw [one]
    exact List.cons_ne_nil _ _

namespace World

variable {world after : World S T} {spawner : Spec.Spawner S} {number : Nat}

theorem burst_firings (spawner : Spec.Spawner S) (number : Nat) (world : World S T) :
    Burst spawner (world.books.copyCount spawner.id) (firings spawner number world) := by
  induction number generalizing world with
  | zero => exact .nil _ _
  | succ rest ih =>
    rw [firings]
    cases done : world.spawnOne spawner with
    | error crash =>
      refine .barren _ _ ?_
      simp only [Firing.made, done]
    | ok outcome =>
      obtain ⟨next, more⟩ := outcome
      obtain ⟨-, counts, ⟨rfl, left, birth, one, named⟩ | ⟨rfl, nothing, -⟩⟩ := made_spawnOne done
      · refine .cons one named left ?_
        have counted := counts spawner.id
        rw [if_pos rfl, one, List.length_singleton] at counted
        rw [← counted]
        exact ih next
      · exact .barren _ _ nothing

/-- When the firings of a turn are over, what they made is there and is counted; each made a copy, or
the spawner is done. -/
theorem made_spawnMany {more : Bool} (done : spawnMany spawner number world = .ok (after, more)) :
    after.births = ((firings spawner number world).flatMap Firing.made).reverse ++ world.births ∧
    (∀ id, after.books.copyCount id = world.books.copyCount id +
      if spawner.id = id then ((firings spawner number world).flatMap Firing.made).length else 0) ∧
    ((more = true ∧ ((firings spawner number world).flatMap Firing.made).length = number ∧
        ∀ firing ∈ firings spawner number world, firing.made ≠ []) ∨
      (more = false ∧ ((firings spawner number world).flatMap Firing.made).length < number ∧
        (exhausted spawner (after.books.copyCount spawner.id) = true ∨
          ∀ look, spawner.template.appearance? ≠ .ok (some look)))) := by
  induction number generalizing world with
  | zero =>
    cases done
    refine ⟨rfl, fun id => ?_, .inl ⟨rfl, rfl, fun _ member => absurd member List.not_mem_nil⟩⟩
    rw [firings, List.flatMap_nil, List.length_nil, ite_self, Nat.add_zero]
  | succ rest ih =>
    obtain ⟨⟨next, again⟩, first, done⟩ := bind_eq_ok done
    obtain ⟨births, counts, fruitful | barren⟩ := made_spawnOne first
    · obtain ⟨rfl, -, birth, one, -⟩ := fruitful
      obtain ⟨later, counted, outcome⟩ := ih done
      have all : firings spawner (rest + 1) world =
          ⟨world, spawner⟩ :: firings spawner rest next := by rw [firings, first]
      rw [all, List.flatMap_cons, one, List.singleton_append]
      rw [one] at births counts
      refine ⟨?_, fun id => ?_, ?_⟩
      · rw [later, births, List.reverse_cons, List.append_assoc]
      · rw [counted, counts]
        simp only [List.length_cons, List.length_nil]
        split <;> omega
      · rcases outcome with ⟨more, enough, each⟩ | ⟨less, few, why⟩
        · refine .inl ⟨more, by rw [List.length_cons, enough], ?_⟩
          intro firing member
          rcases List.mem_cons.mp member with rfl | later
          · rw [one]
            exact List.cons_ne_nil _ _
          · exact each firing later
        · exact .inr ⟨less, Nat.succ_lt_succ few, why⟩
    · obtain ⟨rfl, nothing, why⟩ := barren
      cases done
      have all : firings spawner (rest + 1) world = [⟨world, spawner⟩] := by rw [firings, first]
      rw [nothing] at births counts
      rw [all, List.flatMap_singleton, nothing]
      refine ⟨births, counts, .inr ⟨rfl, Nat.succ_pos rest, why.imp_left fun all => ?_⟩⟩
      rw [counts, List.length_nil, ite_self, Nat.add_zero]
      exact all

end World

end

/-! ### One turn -/

variable [Scalar S] [Scalar T] [Sampling S]

/-- A count of copies rises by what other spawners make, if the id is shared. -/
structure Rises (alone : Prop) (before after : Nat) : Prop where
  le : before ≤ after
  eq : alone → after = before

omit [Scalar S] [Scalar T] [Sampling S] in
theorem Rises.trans {alone : Prop} {before middle after : Nat} (first : Rises alone before middle)
    (second : Rises alone middle after) : Rises alone before after :=
  ⟨Nat.le_trans first.le second.le, fun only => (second.eq only).trans (first.eq only)⟩

namespace World

variable {world after : World S T} {nest later : Nest S T} {now : T}

/-- What is made in a turn is there when it is over, and is counted. -/
theorem made_tickNest (done : world.tickNest nest now = .ok (after, later)) :
    after.births = (Turn.made ⟨world, nest, now⟩).reverse ++ world.births ∧
    ∀ id, after.books.copyCount id = world.books.copyCount id +
      if nest.spawner.id = id then (Turn.made ⟨world, nest, now⟩).length else 0 := by
  obtain ⟨⟨next, more⟩, spawned, done⟩ := bind_eq_ok done
  cases done
  obtain ⟨births, counts, -⟩ := made_spawnMany spawned
  exact ⟨births, counts⟩

theorem rises_tickNest (done : world.tickNest nest now = .ok (after, later)) (id : String) :
    Rises (nest.spawner.id ≠ id) (world.books.copyCount id) (after.books.copyCount id) := by
  have counted := (made_tickNest done).2 id
  constructor
  · omega
  · intro other
    rw [counted, if_neg other, Nat.add_zero]

theorem rises_tickNests {nests ticked : List (Nest S T)}
    (done : tickNests now nests world = .ok (after, ticked)) (id : String) :
    Rises (∀ nest ∈ nests, nest.spawner.id ≠ id) (world.books.copyCount id)
      (after.books.copyCount id) := by
  induction nests generalizing world ticked with
  | nil =>
    cases done
    exact ⟨Nat.le_refl _, fun _ => rfl⟩
  | cons nest rest ih =>
    obtain ⟨⟨next, _⟩, first, done⟩ := bind_eq_ok done
    obtain ⟨⟨last, _⟩, second, done⟩ := bind_eq_ok done
    cases done
    obtain ⟨here, apart⟩ := rises_tickNest first id
    obtain ⟨there, away⟩ := ih second
    refine ⟨Nat.le_trans here there, fun others => ?_⟩
    rw [away fun nest member => others nest (List.mem_cons_of_mem _ member),
      apart (others nest List.mem_cons_self)]

end World

/-! ### Turns one after the other -/

/-- No other spawner than the one at a place has an id. -/
def Unshared (spawners : List (Spec.Spawner S)) (place : Nat) (id : String) : Prop :=
  ∀ other spawner, other ≠ place → spawners[other]? = some spawner → spawner.id ≠ id

namespace Unshared

variable {first : Spec.Spawner S} {rest : List (Spec.Spawner S)} {place : Nat} {id : String}

omit [Scalar S] [Scalar T] [Sampling S] in
theorem after_head (unshared : Unshared (first :: rest) 0 id) :
    ∀ spawner ∈ rest, spawner.id ≠ id := by
  intro spawner member
  obtain ⟨other, found⟩ := List.mem_iff_getElem?.mp member
  exact unshared (other + 1) spawner (Nat.succ_ne_zero other) found

omit [Scalar S] [Scalar T] [Sampling S] in
theorem head (unshared : Unshared (first :: rest) (place + 1) id) : first.id ≠ id :=
  unshared 0 first (Nat.succ_ne_zero place).symm rfl

omit [Scalar S] [Scalar T] [Sampling S] in
theorem tail (unshared : Unshared (first :: rest) (place + 1) id) : Unshared rest place id :=
  fun other spawner elsewhere found =>
    unshared (other + 1) spawner (fun same => elsewhere (Nat.succ.inj same)) found

end Unshared

omit [Scalar S] [Scalar T] [Sampling S] in
theorem Rises.mono {alone only : Prop} {before after : Nat} (rises : Rises alone before after)
    (less : only → alone) : Rises only before after :=
  ⟨rises.le, fun this => rises.eq (less this)⟩

namespace World

variable {world after : World S T} {nests ticked : List (Nest S T)} {now : T} {place : Nat}

/-- What a turn finds: the spawner at its place, and what those before it left behind. -/
theorem finds_turnsOf {turn : Turn S T} (taken : (turnsOf now nests world)[place]? = some turn) :
    nests[place]? = some turn.nest ∧ ∀ id, Rises (Unshared (nests.map (·.spawner)) place id)
      (world.books.copyCount id) (turn.world.books.copyCount id) := by
  induction nests generalizing world place with
  | nil => cases taken
  | cons nest rest ih =>
    rw [turnsOf] at taken
    cases place with
    | zero =>
      cases taken
      exact ⟨rfl, fun id => ⟨Nat.le_refl _, fun _ => rfl⟩⟩
    | succ place =>
      rw [List.getElem?_cons_succ] at taken
      cases done : world.tickNest nest now with
      | error crash =>
        rw [done] at taken
        cases taken
      | ok outcome =>
        rw [done] at taken
        obtain ⟨here, rises⟩ := ih taken
        refine ⟨here, fun id => ?_⟩
        exact ((rises_tickNest done id).mono Unshared.head).trans ((rises id).mono Unshared.tail)

/-- When all turns are over, so is the one of the spawner at a place, and its timer was looked at. -/
theorem ended_turnsOf {nest : Nest S T} (done : tickNests now nests world = .ok (after, ticked))
    (working : nests[place]? = some nest) :
    ∃ turn next later, (turnsOf now nests world)[place]? = some turn ∧
      turn.world.tickNest turn.nest turn.now = .ok (next, later) ∧ ticked[place]? = some later ∧
      ∀ id, Rises (Unshared (nests.map (·.spawner)) place id) (next.books.copyCount id)
        (after.books.copyCount id) := by
  induction nests generalizing world place ticked with
  | nil => cases working
  | cons first rest ih =>
    obtain ⟨⟨next, later⟩, here, done⟩ := bind_eq_ok done
    obtain ⟨⟨last, others⟩, there, done⟩ := bind_eq_ok done
    cases done
    rw [turnsOf, here]
    cases place with
    | zero =>
      refine ⟨_, next, later, rfl, here, rfl, fun id => (rises_tickNests there id).mono ?_⟩
      intro unshared nest member
      exact unshared.after_head nest.spawner (List.mem_map_of_mem member)
    | succ place =>
      obtain ⟨turn, past, timed, taken, ended, listed, rises⟩ := ih there working
      exact ⟨turn, past, timed, taken, ended, listed, fun id => (rises id).mono Unshared.tail⟩

/-- Spawners stay at their places. -/
theorem listed_tickNests (done : tickNests now nests world = .ok (after, ticked)) :
    ticked.map (·.spawner) = nests.map (·.spawner) := by
  induction nests generalizing world ticked with
  | nil =>
    cases done
    rfl
  | cons nest rest ih =>
    obtain ⟨⟨next, later⟩, first, done⟩ := bind_eq_ok done
    obtain ⟨⟨last, others⟩, second, done⟩ := bind_eq_ok done
    obtain ⟨⟨_, more⟩, -, first⟩ := bind_eq_ok first
    cases done
    cases first
    rw [List.map_cons, List.map_cons, ih second]

/-- The game is played on through all turns. -/
theorem scene_turnsOf {others : List Handle} (good : world.Sound others)
    (working : ∀ nest ∈ nests, nest.spawner ∈ world.scenery.spawners) :
    ∀ turn ∈ turnsOf now nests world, SameScene world turn.world := by
  induction nests generalizing world with
  | nil =>
    intro turn never
    cases never
  | cons nest rest ih =>
    intro turn member
    rw [turnsOf] at member
    rcases List.mem_cons.mp member with rfl | later
    · exact .refl world
    · cases done : world.tickNest nest now with
      | error crash =>
        rw [done] at later
        cases later
      | ok outcome =>
        rw [done] at later
        obtain ⟨course, -⟩ := course_tickNest good (working nest List.mem_cons_self) done
        refine course.scene.trans (ih (course.sound good) ?_ turn later)
        intro other there
        rw [scenery_ofSpawners course]
        exact working other (List.mem_cons_of_mem _ there)

theorem scene_turns {others : List Handle} (good : world.Sound others) :
    ∀ turn ∈ world.turns, SameScene world turn.world := by
  unfold turns
  split
  · rename_i nests clock working _
    refine scene_turnsOf good fun nest member => ?_
    rw [scenery, working, Option.getD_some]
    exact List.mem_map_of_mem member
  · intro turn never
    cases never

end World

end Arcade
