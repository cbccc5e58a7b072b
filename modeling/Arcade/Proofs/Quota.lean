import Arcade.Proofs.Chronicle
import Arcade.Proofs.Outcome
import Mathlib.Algebra.GroupWithZero.Nat

/-! What a spawner makes in a game, over all its turns. As long as its timer is not finished each firing
made a copy; the first firing that makes none finishes the timer. So a spawner never makes more copies
than it may, and one that shares its id with nobody makes all that it should. -/

namespace Arcade

variable {S T : Type} [Scalar S] [Scalar T] [Sampling S]

/-! ### All turns of a spawner -/

/-- The number of copies that a spawner makes of a number of firings. -/
def Spec.Spawner.upTo (spawner : Spec.Spawner S) (fired : Nat) : Nat :=
  spawner.maxCount.elim fired (min fired)

omit [Scalar S] [Scalar T] [Sampling S] in
theorem Spec.Spawner.upTo_of_le {spawner : Spec.Spawner S} {fired : Nat}
    (within : ∀ most, spawner.maxCount = some most → fired ≤ most) :
    spawner.upTo fired = fired := by
  cases limit : spawner.maxCount with
  | none => rw [upTo, limit, Option.elim_none]
  | some most => rw [upTo, limit, Option.elim_some, Nat.min_eq_left (within most limit)]

omit [Scalar S] [Scalar T] [Sampling S] in
theorem Spec.Spawner.upTo_of_ge {spawner : Spec.Spawner S} {fired most : Nat}
    (limit : spawner.maxCount = some most) (reached : most ≤ fired) :
    spawner.upTo fired = most := by
  rw [upTo, limit, Option.elim_some, Nat.min_eq_right reached]

omit [Scalar S] [Sampling S] in
/-- A timer that is finished stays so, and does not fire. -/
theorem Timer.poll_of_not_finished {timer : Timer T} {now : T}
    (going : (timer.poll now).1.finished = false) : timer.finished = false := by
  by_contra finished
  rw [Bool.not_eq_false] at finished
  rw [timer.poll_of_finished now finished, finished] at going
  cases going

/-- What a spawner makes in its turns. -/
structure Quota (alone : Prop) (spawner : Spec.Spawner S) (turns : List (Turn S T)) : Prop where
  own : ∀ turn ∈ turns, turn.nest.spawner = spawner
  /-- It never makes more copies than it may. -/
  most : ∀ most, spawner.maxCount = some most → (turns.flatMap Turn.made).length ≤ most
  /-- If nobody shares its id and its template makes an actor, it makes a copy of each firing, up to its
  number, and they are numbered in their order. -/
  exact : alone → (∃ look, spawner.template.appearance? = .ok (some look)) →
    (∀ turn ∈ turns, turn.Ended) → (turns.flatMap Turn.made).map (·.id) =
      (List.range (spawner.upTo (turns.map Turn.fired).sum)).map (World.copyId spawner.id)
  /-- After the first firing that makes nothing it does not fire any more. -/
  ceases : Ceases (turns.flatMap Turn.firings)
  /-- It is told at most once that its template makes no actor. -/
  once : (turns.flatMap Turn.told).Pairwise fun first second =>
    ¬ (first.Faults spawner.id ∧ second.Faults spawner.id)

/-- What is known of a spawner between its turns, by its timer and the number of copies that are counted
under its id. -/
structure Tally (alone : Prop) (spawner : Spec.Spawner S) (timer : Timer T) (count : Nat)
    (turns : List (Turn S T)) : Prop where
  own : ∀ turn ∈ turns, turn.nest.spawner = spawner
  within : (turns.flatMap Turn.made).length ≤ count
  most : ∀ most, spawner.maxCount = some most → (turns.flatMap Turn.made).length ≤ most
  numbered : alone → (turns.flatMap Turn.made).map (·.id) =
    (List.range count).map (World.copyId spawner.id)
  /-- A spawner that can make copies stops only when it has made all. -/
  even : alone → (∃ look, spawner.template.appearance? = .ok (some look)) →
    count = spawner.upTo (turns.map Turn.fired).sum ∧
      (timer.finished = false → count = (turns.map Turn.fired).sum)
  ceases : Ceases (turns.flatMap Turn.firings)
  going : timer.finished = false → ∀ firing ∈ turns.flatMap Turn.firings, firing.made ≠ []

namespace Tally

variable {alone : Prop} {spawner : Spec.Spawner S} {timer : Timer T} {count : Nat}
  {turns : List (Turn S T)} {turn : Turn S T}

theorem start (alone : Prop) (spawner : Spec.Spawner S) (timer : Timer T) :
    Tally alone spawner timer 0 [] where
  own _ never := absurd never List.not_mem_nil
  within := Nat.le_refl 0
  most _ _ := Nat.zero_le _
  numbered _ := rfl
  even _ _ := by
    exact ⟨(Spec.Spawner.upTo_of_le fun most _ => Nat.zero_le most).symm, fun _ => rfl⟩
  ceases := ceases_nil
  going _ _ never := absurd never List.not_mem_nil

theorem once_of_ceases (ceases : Ceases (turns.flatMap Turn.firings)) (id : String) :
    (turns.flatMap Turn.told).Pairwise fun first second => ¬ (first.Faults id ∧ second.Faults id) := by
  have told := ceases.once id
  rwa [List.flatMap_assoc] at told

theorem quota (tally : Tally alone spawner timer count turns) : Quota alone spawner turns where
  own := tally.own
  most := tally.most
  exact only able _ := by
    rw [← (tally.even only able).1]
    exact tally.numbered only
  ceases := tally.ceases
  once := once_of_ceases tally.ceases spawner.id

/-- A turn finds at least as many copies counted as the turn before left behind. -/
structure Meets (alone : Prop) (spawner : Spec.Spawner S) (timer : Timer T) (count : Nat)
    (turn : Turn S T) : Prop where
  own : turn.nest.spawner = spawner
  timer : turn.nest.timer = timer
  rises : Rises alone count (turn.world.books.copyCount spawner.id)

theorem Meets.burst (meets : Meets alone spawner timer count turn) :
    Burst spawner (turn.world.books.copyCount spawner.id) turn.firings := by
  rw [← meets.own]
  exact World.burst_firings _ _ _

omit [Scalar S] [Sampling S] in
/-- A timer that is finished does not fire. -/
theorem Meets.fired_of_finished (meets : Meets alone spawner timer count turn)
    (finished : timer.finished = true) : turn.fired = 0 := by
  rw [← meets.timer] at finished
  rw [Turn.fired, turn.nest.timer.poll_of_finished turn.now finished]

theorem Meets.firings_of_finished (meets : Meets alone spawner timer count turn)
    (finished : timer.finished = true) : turn.firings = [] := by
  rw [Turn.firings, meets.fired_of_finished finished]
  rfl

theorem own_append (tally : Tally alone spawner timer count turns)
    (meets : Meets alone spawner timer count turn) :
    ∀ other ∈ turns ++ [turn], other.nest.spawner = spawner := by
  intro other member
  rcases List.mem_append.mp member with old | new
  · exact tally.own other old
  · rw [List.mem_singleton.mp new]
    exact meets.own

theorem most_append (tally : Tally alone spawner timer count turns)
    (meets : Meets alone spawner timer count turn) (most : Nat)
    (limit : spawner.maxCount = some most) :
    ((turns ++ [turn]).flatMap Turn.made).length ≤ most := by
  rw [List.flatMap_append, List.flatMap_singleton, List.length_append]
  have before := tally.most most limit
  by_cases nothing : turn.made = []
  · rw [nothing]
    exact before
  · have within : turn.world.books.copyCount spawner.id + turn.made.length ≤ most :=
      meets.burst.most nothing most limit
    have counted := Nat.le_trans tally.within meets.rises.le
    omega

theorem ceases_append (tally : Tally alone spawner timer count turns)
    (meets : Meets alone spawner timer count turn) :
    Ceases ((turns ++ [turn]).flatMap Turn.firings) := by
  rw [List.flatMap_append, List.flatMap_singleton]
  cases finished : timer.finished with
  | true =>
    rw [meets.firings_of_finished finished, List.append_nil]
    exact tally.ceases
  | false => exact .append (tally.going finished) meets.burst.ceases

/-- What is known before a turn tells what is made in it, also when the game breaks down. -/
theorem quota_append (tally : Tally alone spawner timer count turns)
    (meets : Meets alone spawner timer count turn) (broken : ¬ turn.Ended) :
    Quota alone spawner (turns ++ [turn]) where
  own := tally.own_append meets
  most := tally.most_append meets
  exact _ _ ended := absurd (ended turn (List.mem_append_right _ List.mem_cons_self)) broken
  ceases := tally.ceases_append meets
  once := once_of_ceases (tally.ceases_append meets) spawner.id

/-- A spawner that can make copies makes one of each firing of its timer, or has made all. -/
theorem even_append (tally : Tally alone spawner timer count turns)
    (meets : Meets alone spawner timer count turn) {after : World S T} {more : Bool}
    (spawned : World.spawnMany turn.nest.spawner turn.fired turn.world = .ok (after, more))
    (only : alone) (able : ∃ look, spawner.template.appearance? = .ok (some look)) :
    count + turn.made.length = spawner.upTo ((turns.map Turn.fired).sum + turn.fired) ∧
      (timer.finished = false → more = true →
        count + turn.made.length = (turns.map Turn.fired).sum + turn.fired) := by
  obtain ⟨equal, unfinished⟩ := tally.even only able
  cases finished : timer.finished with
  | true =>
    have nothing : turn.made = [] := by
      rw [Turn.made, meets.firings_of_finished finished, List.flatMap_nil]
    rw [nothing, meets.fired_of_finished finished]
    exact ⟨equal, fun never => Bool.noConfusion never⟩
  | false =>
    have sum := unfinished finished
    have within (most : Nat) (limit : spawner.maxCount = some most) :
        count + turn.made.length ≤ most := by
      have all := tally.most_append meets most limit
      have size := congrArg List.length (tally.numbered only)
      rw [List.length_map, List.length_map, List.length_range] at size
      rwa [List.flatMap_append, List.flatMap_singleton, List.length_append, size] at all
    obtain ⟨-, counts, ⟨rfl, enough, -⟩ | ⟨rfl, few, why⟩⟩ := World.made_spawnMany spawned
    · change turn.made.length = turn.fired at enough
      rw [← sum, ← enough]
      exact ⟨(Spec.Spawner.upTo_of_le within).symm, fun _ _ => rfl⟩
    · change turn.made.length < turn.fired at few
      have counted : after.books.copyCount spawner.id = count + turn.made.length := by
        have here := counts spawner.id
        rw [congrArg Spec.Spawner.id meets.own, if_pos rfl, meets.rises.eq only] at here
        exact here
      rw [meets.own, counted] at why
      obtain ⟨look, appears⟩ := able
      rcases why with all | unable
      · obtain ⟨most, limit, reached⟩ := (Option.any_eq_true _ _).mp all
        have exactly : count + turn.made.length = most :=
          Nat.le_antisymm (within most limit) (of_decide_eq_true reached)
        rw [Spec.Spawner.upTo_of_ge limit (by omega)]
        exact ⟨exactly, fun _ never => Bool.noConfusion never⟩
      · exact absurd appears (unable look)

/-- What is known before a turn is known after it. -/
theorem advance (tally : Tally alone spawner timer count turns)
    (meets : Meets alone spawner timer count turn) {after : World S T} {nest : Nest S T}
    {later : Nat} (done : turn.world.tickNest turn.nest turn.now = .ok (after, nest))
    (rises : Rises alone (after.books.copyCount spawner.id) later) :
    Tally alone spawner nest.timer later (turns ++ [turn]) := by
  have counted := (World.made_tickNest done).2 spawner.id
  rw [meets.own, if_pos rfl] at counted
  change _ = _ + turn.made.length at counted
  have found := meets.rises.le
  have left := rises.le
  have exactly (only : alone) : later = count + turn.made.length := by
    rw [rises.eq only, counted, meets.rises.eq only]
  obtain ⟨⟨next, more⟩, spawned, done⟩ := bind_eq_ok done
  cases done
  obtain ⟨-, -, outcome⟩ := World.made_spawnMany spawned
  have going (finished : (if more then (turn.nest.timer.poll turn.now).1 else
      (turn.nest.timer.poll turn.now).1.cancel).finished = false) :
      more = true ∧ timer.finished = false := by
    cases more with
    | false => exact absurd finished (by simp [Timer.cancel])
    | true => exact ⟨rfl, meets.timer ▸ Timer.poll_of_not_finished finished⟩
  refine ⟨tally.own_append meets, ?_, tally.most_append meets, fun only => ?_,
    fun only able => ?_, tally.ceases_append meets, fun finished => ?_⟩
  · have within := tally.within
    rw [List.flatMap_append, List.flatMap_singleton, List.length_append]
    omega
  · have numbered := meets.burst.numbered
    rw [meets.rises.eq only] at numbered
    rw [List.flatMap_append, List.flatMap_singleton, List.map_append, tally.numbered only,
      exactly only]
    change _ ++ turn.made.map (·.id) = _
    rw [Turn.made, numbered, List.range'_eq_map_range, List.range_add, List.map_append]
  · rw [exactly only, List.map_append, List.sum_append, List.map_singleton, List.sum_singleton]
    obtain ⟨equal, unfinished⟩ := tally.even_append meets spawned only able
    exact ⟨equal, fun finished => unfinished (going finished).2 (going finished).1⟩
  · obtain ⟨rfl, unfinished⟩ := going finished
    rw [List.flatMap_append, List.flatMap_singleton]
    intro firing member
    rcases List.mem_append.mp member with old | new
    · exact tally.going unfinished firing old
    · rcases outcome with ⟨-, -, each⟩ | ⟨never, -⟩
      · exact each firing new
      · cases never

/-- What is known before a turn tells what is made in it. -/
theorem quota_turn (tally : Tally alone spawner timer count turns)
    (meets : Meets alone spawner timer count turn) : Quota alone spawner (turns ++ [turn]) := by
  cases done : turn.world.tickNest turn.nest turn.now with
  | ok outcome => exact (tally.advance meets done ⟨Nat.le_refl _, fun _ => rfl⟩).quota
  | error crash =>
    refine tally.quota_append meets ?_
    rw [Turn.Ended, done]
    exact Bool.noConfusion

end Tally

/-! ### A game -/

/-- The scene that is played. -/
def World.scene? (world : World S T) : Option (Spec.Scene S) :=
  world.playing.bind fun session => world.spec.bind fun spec => spec.scene? session.scene

/-- The turns of the spawner at a place are known, up to now. -/
structure Kept (place : Nat) (spawners : List (Spec.Spawner S)) (turns : List (Turn S T))
    (nests : List (Nest S T)) (books : Books S T) : Prop where
  working : books.nests = some nests
  listed : nests.map (·.spawner) = spawners
  absent : nests[place]? = none → turns = []
  tally : ∀ nest, nests[place]? = some nest →
    Tally (Unshared spawners place nest.spawner.id) nest.spawner nest.timer
      (books.copyCount nest.spawner.id) turns

/-- The turns of the spawner at a place of a scene, of which there are none if there is no spawner. -/
structure Kept.Told (place : Nat) (spawners : List (Spec.Spawner S)) (turns : List (Turn S T)) :
    Prop where
  absent : spawners[place]? = none → turns = []
  quota : ∀ spawner, spawners[place]? = some spawner →
    Quota (Unshared spawners place spawner.id) spawner turns

namespace Kept

variable {place : Nat} {spawners : List (Spec.Spawner S)} {turns : List (Turn S T)}
  {nests : List (Nest S T)} {books : Books S T} {world after : World S T}

theorem of_same (kept : Kept place spawners turns nests books) {later : Books S T}
    (working : later.nests = books.nests) (copies : later.copies = books.copies) :
    Kept place spawners turns nests later where
  working := working.trans kept.working
  listed := kept.listed
  absent := kept.absent
  tally nest here := by
    have counted : later.copyCount nest.spawner.id = books.copyCount nest.spawner.id := by
      rw [Books.copyCount, copies, Books.copyCount]
    rw [counted]
    exact kept.tally nest here

theorem start {settings : Spec.Settings S} (opened : books.Opened settings spawners) :
    Kept place spawners [] (spawners.map fun spawner => .start spawner 0) books where
  working := opened.nests
  listed := by
    rw [List.map_map]
    exact List.map_id' _
  absent _ := rfl
  tally nest _ := by
    have none : books.copyCount nest.spawner.id = 0 := by
      rw [Books.copyCount, opened.copies, Index.get?_empty, Option.getD_none]
    rw [none]
    exact .start _ _ _

/-- The spawner of a turn is met as the turn before left it. -/
theorem meets (kept : Kept place spawners turns nests world.books) {now : T} {turn : Turn S T}
    (taken : (World.turnsOf now nests world)[place]? = some turn) :
    nests[place]? = some turn.nest ∧
      Tally.Meets (Unshared spawners place turn.nest.spawner.id) turn.nest.spawner turn.nest.timer
        (world.books.copyCount turn.nest.spawner.id) turn := by
  obtain ⟨here, rises⟩ := World.finds_turnsOf taken
  refine ⟨here, rfl, rfl, ?_⟩
  rw [← kept.listed]
  exact rises _

theorem told (kept : Kept place spawners turns nests books) : Told place spawners turns where
  absent nobody := by
    refine kept.absent ?_
    rw [← kept.listed, List.getElem?_map, Option.map_eq_none_iff] at nobody
    exact nobody
  quota spawner there := by
    rw [← kept.listed, List.getElem?_map] at there
    obtain ⟨nest, here, rfl⟩ := Option.map_eq_some_iff.mp there
    exact (kept.tally nest here).quota

/-- What is known of the turns so far tells of the next one. -/
theorem told_turns (kept : Kept place spawners turns nests world.books) :
    Told place spawners (turns ++ world.turns[place]?.toList) := by
  have nothing : Told place spawners (turns ++ []) := by
    rw [List.append_nil]
    exact kept.told
  cases taken : world.turns[place]? with
  | none => exact nothing
  | some turn =>
    unfold World.turns at taken
    split at taken
    · rename_i found clock working _
      have same : found = nests := Option.some.inj (working.symm.trans kept.working)
      rw [same] at taken
      obtain ⟨here, meets⟩ := kept.meets taken
      have there : spawners[place]? = some turn.nest.spawner := by
        rw [← kept.listed, List.getElem?_map, here, Option.map_some]
      constructor
      · intro nobody
        rw [there] at nobody
        cases nobody
      · intro spawner named
        cases there.symm.trans named
        exact (kept.tally turn.nest here).quota_turn meets
    · cases taken

/-- When all spawners had their turns, as much is known as before. -/
theorem tickSpawners (kept : Kept place spawners turns nests world.books)
    (done : world.tickSpawners = .ok after) :
    ∃ ticked, Kept place spawners (turns ++ world.turns[place]?.toList) ticked after.books := by
  unfold World.tickSpawners at done
  split at done
  · rename_i found clock working timed
    have same : found = nests := Option.some.inj (working.symm.trans kept.working)
    obtain ⟨⟨last, ticked⟩, made, done⟩ := bind_eq_ok done
    cases done
    rw [same] at working made
    have turned : world.turns = World.turnsOf clock.now nests world := by
      simp only [World.turns, working, timed]
    have listed := World.listed_tickNests made
    have placed (place : Nat) : (ticked[place]?).map (·.spawner) = (nests[place]?).map (·.spawner) := by
      rw [← List.getElem?_map, ← List.getElem?_map, listed]
    rw [turned]
    refine ⟨ticked, rfl, listed.trans kept.listed, fun nobody => ?_, fun later there => ?_⟩
    · have absent : nests[place]? = none := by
        rw [← Option.map_eq_none_iff, ← placed, nobody, Option.map_none]
      have idle : (World.turnsOf clock.now nests world)[place]? = none := by
        rw [Option.eq_none_iff_forall_ne_some]
        intro turn taken
        rw [(World.finds_turnsOf taken).1] at absent
        cases absent
      rw [kept.absent absent, idle]
      rfl
    · have here := placed place
      rw [there, Option.map_some] at here
      obtain ⟨nest, known, own⟩ := Option.map_eq_some_iff.mp here.symm
      obtain ⟨turn, next, timed, taken, ended, listed, rises⟩ := World.ended_turnsOf made known
      obtain ⟨found, meets⟩ := kept.meets taken
      cases known.symm.trans found
      cases listed.symm.trans there
      have further := rises later.spawner.id
      rw [kept.listed] at further
      rw [taken]
      rw [← own] at further ⊢
      exact (kept.tally _ found).advance meets ended further
  · rename_i idle
    cases done
    have nothing : world.turns = [] := by
      unfold World.turns
      split
      · rename_i working timed
        exact (idle _ _ working timed).elim
      · rfl
    rw [nothing]
    refine ⟨nests, ?_⟩
    rw [List.getElem?_nil, Option.toList_none, List.append_nil]
    exact kept

end Kept

namespace World

variable [Circular S] [Rounding T S] {world after : World S T} {others : List Handle}
  {session : Session} {keyboard : Option (List Key)} {delta : T}

omit [Scalar S] [Scalar T] [Sampling S] [Circular S] [Rounding T S] in
theorem SameScene.scene? (same : SameScene world after) : after.scene? = world.scene? := by
  rw [World.scene?, World.scene?, same.playing, same.spec]

/-- The other parts of a frame leave spawners alone, and what is counted under their ids. -/
theorem same_runPhases {phases : List Phase} (apart : Phase.spawners ∉ phases)
    (done : world.runPhases keyboard delta phases = .ok after) :
    after.books.nests = world.books.nests ∧ after.books.copies = world.books.copies := by
  induction phases generalizing world with
  | nil =>
    cases done
    exact ⟨rfl, rfl⟩
  | cons phase rest ih =>
    obtain ⟨next, first, done⟩ := bind_eq_ok done
    obtain ⟨other, elsewhere⟩ := not_or.mp (mt List.mem_cons.mpr apart)
    have same : (next.books.nests, next.books.copies) =
        (world.books.nests, world.books.copies) := by
      refine (runs_runPhase first).same (fun books => (books.nests, books.copies)) ?_
      intro books entry allowed
      cases phase with
      | spawners => exact absurd rfl other
      | clock =>
        cases allowed
        rfl
      | _ => cases entry <;> first | exact allowed.elim | simp only [Books.enter]
    obtain ⟨nests, copies⟩ := ih elsewhere done
    exact ⟨nests.trans (congrArg Prod.fst same), copies.trans (congrArg Prod.snd same)⟩

end World

/-- The turn that the spawner at a place takes in a frame. -/
def World.turnAt [Circular S] [Rounding T S] (place : Nat) (world : World S T)
    (keyboard : Option (List Key)) (delta : T) : List (Turn S T) :=
  match world.runPhases keyboard delta Phase.spawners.earlier with
  | .ok found => found.turns[place]?.toList
  | .error _ => []

/-- What holds of a game: its scene, and the turns of the spawner at a place up to now. -/
structure Worked (place : Nat) (scene : Spec.Scene S) (turns : List (Turn S T)) (world : World S T) :
    Prop where
  now : world.scene? = some scene
  past : ∀ turn ∈ turns, turn.world.scene? = some scene
  kept : ∃ nests, Kept place scene.spawners turns nests world.books

namespace Worked

variable [Circular S] [Rounding T S] {place : Nat} {scene : Spec.Scene S}
  {turns : List (Turn S T)} {world after : World S T} {others : List Handle}
  {session : Session} {keyboard : Option (List Key)} {delta : T}

omit [Circular S] [Rounding T S] in
theorem of_same (worked : Worked place scene turns world) (scenes : World.SameScene world after)
    (nests : after.books.nests = world.books.nests) (copies : after.books.copies = world.books.copies) :
    Worked place scene turns after := by
  obtain ⟨here, there, working, kept⟩ := worked
  exact ⟨scenes.scene?.trans here, there, working, kept.of_same nests copies⟩

theorem start (lived : world.Lived others) {spec : Spec S} (valid : spec.validate = .ok ())
    {options : StartOptions} (chosen : spec.choose options.scene = .ok scene) :
    Worked place scene [] (world.playScene spec scene options.seed).2 := by
  refine ⟨?_, fun _ never => absurd never List.not_mem_nil, _,
    .start (World.opened_playScene world spec scene options.seed)⟩
  have ready : (world.tearDown.setUp spec options.seed).Sound others :=
    (World.safe_tearDown world others lived.sound).1
  have built : ((world.tearDown.setUp spec options.seed).build scene).spec = some spec :=
    (World.course_build ready scene).scene.spec
  have begun := (World.untouched_begin world spec scene options.seed).scene.scene?
  refine begun.trans ?_
  rw [World.scene?, Option.bind_some, built, Option.bind_some]
  exact World.scene?_name valid (World.mem_of_choose chosen)

/-- It comes to the spawners of a game that is played as it was before the frame. -/
theorem reach (worked : Worked place scene turns world) (lived : world.Lived others)
    {found : World S T}
    (reached : world.runPhases keyboard delta Phase.spawners.earlier = .ok found) :
    Worked place scene turns found := by
  obtain ⟨nests, copies⟩ := World.same_runPhases (by decide) reached
  exact worked.of_same (World.scene_runPhases lived.sound reached) nests copies

omit [Circular S] [Rounding T S] in
theorem past_turns (worked : Worked place scene turns world) (good : world.Sound others) :
    ∀ turn ∈ turns ++ world.turns[place]?.toList, turn.world.scene? = some scene := by
  intro turn member
  rcases List.mem_append.mp member with old | new
  · exact worked.past turn old
  · rw [← worked.now]
    refine (World.scene_turns good turn ?_).scene?
    rw [Option.mem_toList] at new
    exact List.mem_of_getElem? new

end Worked

/-- The turns of the spawner at a place of a scene are all in that scene, and what is made in them is
known. -/
def Accounted (place : Nat) (turns : List (Turn S T)) : Prop :=
  ∃ scene, (∀ turn ∈ turns, turn.world.scene? = some scene) ∧
    Kept.Told place scene.spawners turns

variable [Circular S] [Rounding T S]

/-- The turns of a spawner are accounted for as long as the game is played. -/
theorem saga_turnAt (place : Nat) (session : Session) :
    Saga (World.turnAt place) session
      (fun turns (world : World S T) => ∃ scene, Worked place scene turns world)
      (Accounted place) where
  blank := ⟨⟨"", [], none⟩, fun _ never => absurd never List.not_mem_nil, fun _ => rfl,
    fun _ never => absurd never (by simp [Spec.Scene.spawners, Spec.Logic.empty])⟩
  start lived valid chosen _ := ⟨_, Worked.start lived valid chosen⟩
  camera {turns world} handles worked := by
    obtain ⟨scene, worked⟩ := worked
    exact ⟨scene, worked.now, worked.past, worked.kept⟩
  draw {_ _ world after _} lived worked done := by
    obtain ⟨scene, worked⟩ := worked
    have same := World.books_draw done
    exact ⟨scene, worked.of_same (World.course_draw lived.sound done).scene
      (congrArg Books.nests same) (congrArg Books.copies same)⟩
  frame {turns _ world} keyboard delta lived playing worked := by
    obtain ⟨scene, worked⟩ := worked
    rw [World.turnAt]
    split
    · rename_i found reached
      have there := worked.reach lived reached
      obtain ⟨nests, kept⟩ := there.kept
      have sound := (World.Lived.phases lived playing reached).1
      exact ⟨scene, there.past_turns (World.Lived.sound sound), kept.told_turns⟩
    · obtain ⟨nests, kept⟩ := worked.kept
      rw [List.append_nil]
      exact ⟨scene, worked.past, kept.told⟩
  step {turns others world after keyboard delta} lived playing worked done := by
    obtain ⟨scene, worked⟩ := worked
    obtain ⟨rest, order, apart⟩ : ∃ rest, Phase.order = Phase.spawners.earlier ++ .spawners :: rest ∧
        Phase.spawners ∉ rest :=
      ⟨[.timers, .movement, .contacts, .dispatch, .cleanUp], rfl, by decide⟩
    rw [World.step, playing, order, World.runPhases_append_eq_ok_iff] at done
    obtain ⟨found, reached, done⟩ := done
    obtain ⟨next, ticked, done⟩ := bind_eq_ok done
    have there := worked.reach lived reached
    have sound := (World.Lived.phases lived playing reached).1
    have went := World.course_tickSpawners (World.Lived.sound sound) ticked
    have still := World.scene_runPhases (went.sound (World.Lived.sound sound)) done
    obtain ⟨nests, copies⟩ := World.same_runPhases apart done
    have past := there.past_turns (World.Lived.sound sound)
    obtain ⟨_, kept⟩ := there.kept
    have turned : Worked place scene (turns ++ found.turns[place]?.toList) next :=
      ⟨went.scene.scene?.trans there.now, past, kept.tickSpawners ticked⟩
    have turn : World.turnAt place world keyboard delta = found.turns[place]?.toList := by
      rw [World.turnAt, reached]
    rw [turn]
    exact ⟨scene, turned.of_same still nests copies⟩

/-- In a frame the spawners take their turns one after the other, and then their clocks are set. Nothing
else is done in this part of the frame. -/
def Frame.Spawns (frame : Frame S T) : Prop :=
  ∀ found after,
    frame.world.runPhases frame.keyboard frame.delta Phase.spawners.earlier = .ok found →
    found.runPhase frame.keyboard frame.delta .spawners = .ok after →
    ∃ last nests, Turn.Linked found found.turns last nests ∧ after = { last with nests := some nests }

theorem World.Lived.spawns {frame : Frame S T} {others : List Handle} {session : Session}
    (lived : frame.world.Lived others) (playing : frame.world.playing = some session) :
    frame.Spawns := by
  intro found after reached done
  obtain ⟨lives, still⟩ := World.Lived.phases lived playing reached
  obtain ⟨nests, working⟩ := Option.isSome_iff_exists.mp (World.Lived.hasPart lives still .nests)
  obtain ⟨clock, running⟩ := Option.isSome_iff_exists.mp (World.Lived.hasPart lives still .clock)
  exact World.linked_turns (World.Lived.sound lives) working running done

/-- Whatever is done to a cabinet, in each frame of a game the spawners take their turns: each firing in
them starts from what the one before it left, and what there is more of afterwards are the actors that
were made and what was told, a diagnostic where a template makes no actor. Over all these turns a spawner
never makes more copies than it may, also if others share its id and its copies are gone. If nobody
shares its id and its template makes an actor, it has made a copy of each firing of its timer, up to its
number, and they are numbered from zero. And after the first firing that makes nothing, as all copies are
made or the template makes no actor, there is no other firing in that game, and no other diagnostic of
the template. -/
theorem Cabinet.keeps_quota (entropy : Entropy) (watch : Option Watch) (pictures : Option Bool)
    (operations : List (Operation S T)) (session : Session) (place : Nat) :
    let frames := (new entropy watch (pictures.map Screen.start)).frames session operations
    let turns := frames.flatMap fun frame =>
      World.turnAt place frame.world frame.keyboard frame.delta
    (∀ frame ∈ frames, frame.Spawns) ∧
    ∃ scene : Spec.Scene S, (∀ turn ∈ turns, turn.world.scene? = some scene) ∧
      (scene.spawners[place]? = none → turns = []) ∧
      ∀ spawner, scene.spawners[place]? = some spawner →
        Quota (Unshared scene.spawners place spawner.id) spawner turns := by
  intro frames turns
  have saga := saga_turnAt (S := S) (T := T) place session
  constructor
  · intro frame framed
    obtain ⟨-, others, lived, playing, -⟩ := saga.holds_of_frame_new framed
    exact World.Lived.spawns lived playing
  · obtain ⟨scene, scenes, told⟩ := saga.chronicle_new entropy watch pictures operations
    rw [chronicle_eq_flatMap] at scenes told
    exact ⟨scene, scenes, told.absent, told.quota⟩

namespace Sample

/-- A game in which coins are made, up to a number, and in which there is a spawner of a group. -/
def minting (most : Option Nat) : Spec Float32 :=
  { spec with
    scenes := [{ scene with
      logic := some {
        onCollision := none
        onOverlap := none
        timers := none
        spawners := some [⟨"mint", walker "coin", 10, most, "corner", none⟩,
          ⟨"purse", .plain "coins" .group 0 0, 10, none, "corner", none⟩]
        actions := none } }] }

/-- Three coins may be made, and the game is played for three frames. -/
def coining : List (Operation Float32 Float) :=
  [.start (minting (some 3)) .default, .step none 25, .step none 20, .step none 25]

end Sample

/-- In the second frame the timer of the mint fires twice, and only one coin is left. That a group is no
actor is told when the other spawner fires first, and never again. -/
theorem Cabinet.keeps_quota_mint :
    let frames := (new Sample.entropy none (Option.map Screen.start none) :
      Cabinet Float32 Float).frames ⟨1, "main", "Coins"⟩ Sample.coining
    let turns (place : Nat) := frames.flatMap fun frame =>
      World.turnAt place frame.world frame.keyboard frame.delta
    (turns 0).map (fun turn => (turn.fired, turn.made.map (·.id))) =
      [(2, ["mint_spawned_0", "mint_spawned_1"]), (2, ["mint_spawned_2"]), (0, [])] ∧
    (turns 1).map (fun turn => (turn.fired, turn.told)) =
      [(2, [.diagnostic
        "spawner 'purse' cannot instantiate its template: group templates have no entity"]),
        (0, []), (0, [])] ∧
    (∀ frame ∈ frames, frame.Spawns) ∧
    ∀ place < 2, ∃ (scene : Spec.Scene Float32) (spawner : Spec.Spawner Float32),
      scene.spawners[place]? = some spawner ∧
        Quota (Unshared scene.spawners place spawner.id) spawner (turns place) := by
  intro frames turns
  have coins : (turns 0).map (fun turn => (turn.fired, turn.made.map (·.id))) =
      [(2, ["mint_spawned_0", "mint_spawned_1"]), (2, ["mint_spawned_2"]), (0, [])] := by
    decide +kernel
  have groups : (turns 1).map (fun turn => (turn.fired, turn.told)) =
      [(2, [.diagnostic
        "spawner 'purse' cannot instantiate its template: group templates have no entity"]),
        (0, []), (0, [])] := by
    decide +kernel
  refine ⟨coins, groups, ?_, fun place within => ?_⟩
  · exact (keeps_quota Sample.entropy none none Sample.coining ⟨1, "main", "Coins"⟩ 0).1
  · have played : turns place ≠ [] := by
      intro never
      rcases Nat.le_one_iff_eq_zero_or_eq_one.mp (Nat.le_of_lt_succ within) with rfl | rfl
      · rw [never] at coins
        cases coins
      · rw [never] at groups
        cases groups
    obtain ⟨-, scene, -, absent, quota⟩ :=
      keeps_quota Sample.entropy none none Sample.coining ⟨1, "main", "Coins"⟩ place
    obtain ⟨spawner, declared⟩ :=
      Option.ne_none_iff_exists'.mp fun nobody => played (absent nobody)
    exact ⟨scene, spawner, declared, quota spawner declared⟩

end Arcade
