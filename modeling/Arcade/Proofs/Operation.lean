import Arcade.Proofs.Course

/-! Each operation on a world is a course of elementary changes: what rules do, what happens in the
parts of a frame, how a scene is built and how it is shown. What may be done on each of them is said
first. The search for contacts and their dispatch are courses of the world in which the contacts
already are what they will be. -/

namespace Arcade

/-! ### What may be done -/

/-- The spawners of a scene. -/
def Spec.Scene.spawners (scene : Spec.Scene S) : List (Spec.Spawner S) :=
  (scene.logic.getD .empty).spawners.getD []

namespace Deed

variable {S T : Type}

def OfNothing (_ : World S T) (_ : Deed S) : Prop := False

/-- Shots are asked for. -/
def OfControls (world : World S T) : Deed S → Prop
  | .arrange scenery => scenery = { world.scenery with shots := scenery.shots }
  | .birth .. | .death _ | .note | .record _ => False

/-- A shot is a copy of what a living actor shoots. -/
def OfShots (world : World S T) : Deed S → Prop
  | .birth blueprint _ group => group = some World.projectileGroup ∧
      ∃ handle who, world.roster.who? handle = some who ∧ who.weapon = some blueprint
  | .note => True
  | .arrange scenery => scenery = { world.scenery with shots := [] }
  | .death _ | .record _ => False

def OfBehaviors (_ : World S T) : Deed S → Prop
  | .record _ => True
  | .birth .. | .death _ | .note | .arrange _ => False

/-- What a spawner at work makes is in the group of its template. -/
def OfSpawners (world : World S T) : Deed S → Prop
  | .birth blueprint _ group => ∃ spawner ∈ world.scenery.spawners,
      blueprint = spawner.template ∧ group = some spawner.template.id
  | .note => True
  | .death _ | .record _ | .arrange _ => False

/-- Rules make a banner, which is in no group. -/
def OfRules [Scalar S] (_ : World S T) : Deed S → Prop
  | .birth blueprint id group =>
      (∃ center, blueprint = World.banner center) ∧ id = World.gameOverTextId ∧ group = none
  | .death _ | .note => True
  | .record _ | .arrange _ => False

/-- One rule removes nobody but its target. -/
def OfRule [Scalar S] (target : Option Handle) (world : World S T) (deed : Deed S) : Prop :=
  OfRules world deed ∧ ∀ handle, deed = .death handle → target = some handle

def OfRemoval (_ : World S T) : Deed S → Prop
  | .death _ => True
  | .birth .. | .note | .record _ | .arrange _ => False

/-- The objects of a scene come under their own ids, and in no group; only its spawners are set to
work. -/
def OfBuilding (scene : Spec.Scene S) (world : World S T) : Deed S → Prop
  | .birth blueprint id group => blueprint ∈ scene.objects ∧ id = blueprint.id ∧ group = none
  | .note => True
  | .arrange scenery => scenery = { world.scenery with spawners := scenery.spawners } ∧
      ∀ spawner ∈ scenery.spawners, spawner ∈ world.scenery.spawners ∨ spawner ∈ scene.spawners
  | .death _ | .record _ => False

end Deed

/-- What may be done in a part of a frame. -/
def Phase.permits [Scalar S] : Phase → World S T → Deed S → Prop
  | .controls => Deed.OfControls
  | .shots => Deed.OfShots
  | .behaviors => Deed.OfBehaviors
  | .spawners => Deed.OfSpawners
  | .timers | .dispatch => Deed.OfRules
  | .cleanUp => Deed.OfRemoval
  | .clock | .movement | .contacts => Deed.OfNothing

/-- What may be done in some part of a frame. -/
def Deed.OfFrame [Scalar S] (world : World S T) (deed : Deed S) : Prop :=
  ∃ phase : Phase, phase.permits world deed

namespace World

variable {S T : Type} {world after : World S T} {others : List Handle}

/-! ### Changes that rules make -/

theorem quiet_board (world : World S T) (board : Board) :
    Quiet world { world with board := some board } :=
  quiet_of_backbone rfl fun part there => by cases part <;> first | exact there | rfl

theorem quiet_show (world : World S T) (id text : String) :
    Quiet world ((world.setText? id text).getD world) := by
  cases changed : world.setText? id text with
  | none => exact .refl world
  | some shown => exact quiet_setText changed

theorem quiet_addPoints (world : World S T) (points : Int) :
    Quiet world (world.addPoints points) :=
  ((quiet_board world _).trans (quiet_show _ _ _)).trans (quiet_emit _ _ rfl)

theorem quiet_pause (world : World S T) :
    Quiet world { world with arena := world.arena.map Arena.pause } :=
  quiet_of_backbone
    (by
      simp only [backbone, scenery, Option.map_map, Function.comp_def]
      rfl)
    fun part there => by cases part <;> simpa [has] using there

theorem quiet_warn (world : World S T) (site : RuleSite) : Quiet world (world.warn site) := by
  cases site with
  | interaction index =>
    exact quiet_of_backbone rfl fun part there => by cases part <;> simpa [has, warn] using there
  | timer index =>
    exact quiet_of_backbone rfl fun part there => by cases part <;> simpa [has, warn] using there

theorem course_destroyTarget {may : World S T → Deed S → Prop} (good : world.Sound others)
    {target : Option Handle} (allowed : ∀ handle, target = some handle → may world (.death handle)) :
    Course may world (world.destroyTarget target) := by
  cases target with
  | none => exact .refl world
  | some handle => exact .destroy good (allowed handle rfl)

/-! ### Parts of a scene -/

theorem arranged_shots (world : World S T) (shots : List (Shot S)) :
    Arranged world { world with shots := some shots } where
  names := ⟨rfl, List.Perm.refl _, rfl, rfl, rfl⟩
  scene := ⟨rfl, rfl, rfl, rfl, fun part there => by cases part <;> first | exact there | rfl⟩
  contacts := rfl
  traffic := rfl

theorem quiet_alarms (world : World S T) (alarms : List (Alarm T)) :
    Quiet world { world with alarms := some alarms } :=
  quiet_of_backbone rfl fun part there => by cases part <;> first | exact there | rfl

/-- The clocks of spawners at work may change. -/
theorem quiet_nests {nests : List (Nest S T)}
    (same : nests.map (·.spawner) = (world.nests.getD []).map (·.spawner)) :
    Quiet world { world with nests := some nests } :=
  quiet_of_backbone
    (by
      simp only [backbone, scenery, traffic, Option.getD_some, same])
    fun part there => by cases part <;> first | exact there | rfl

theorem quiet_random (world : World S T) (random : Random) :
    Quiet world { world with random := some random } :=
  quiet_of_backbone rfl fun part there => by cases part <;> first | exact there | rfl

/-! ### Rules at work -/

variable [Scalar S]

theorem course_endGame (good : world.Sound others) (target : Option Handle) :
    Course (Deed.OfRule target) world world.endGame := by
  simp only [endGame]
  split
  · exact .quiet (quiet_board world _)
  · have ended := quiet_board world ⟨(world.board.getD .start).score, true⟩
    have sound := good.of_sameNames ended.names
    refine Course.trans (.trans (.quiet ended) ?_)
      (.quiet ((quiet_pause _).trans (quiet_emit _ _ rfl)))
    split
    · rename_i made
      exact .create sound ⟨⟨⟨_, rfl⟩, rfl, rfl⟩, nofun⟩ ⟨trivial, nofun⟩ made
    · exact .refl _

theorem course_execute (good : world.Sound others) (effect : Spec.Effect)
    (target : Option Handle) : Course (Deed.OfRule target) world (world.execute effect target) := by
  have removed {world : World S T} (sound : world.Sound others) :
      Course (Deed.OfRule target) world (world.destroyTarget target) := by
    refine course_destroyTarget sound (fun handle meant => ⟨trivial, fun other same => ?_⟩)
    cases same
    exact meant
  cases effect with
  | updateScore points =>
    have counted := quiet_addPoints world points
    exact .trans (.quiet counted) (removed (good.of_sameNames counted.names))
  | gameOver => exact course_endGame good target
  | destroy => exact removed good
  | updateText id text =>
    simp only [execute]
    split
    · rename_i changed
      exact .quiet ((quiet_setText changed).trans (quiet_emit _ _ rfl))
    · exact .refl world

theorem course_rule (good : world.Sound others) (site : RuleSite) (target : Option Handle) :
    Course (Deed.OfRule target) world (world.fire site target) := by
  unfold fire
  split
  · exact .refl world
  · split
    · exact .quiet (quiet_warn world site)
    · split
      · exact course_execute good _ target
      · exact .refl world

theorem course_fire (good : world.Sound others) (site : RuleSite) (target : Option Handle) :
    Course Deed.OfRules world (world.fire site target) :=
  (course_rule good site target).mono fun _ _ => And.left

/-! ### The parts of a frame -/

theorem course_shootOne (good : world.Sound others) (shot : Shot S) :
    Course Deed.OfShots world (world.shootOne shot) := by
  simp only [shootOne]
  split
  · exact .refl world
  · rename_i template armed
    obtain ⟨actor, found, weapon⟩ := Option.bind_eq_some_iff.mp armed
    have counted : Course Deed.OfShots world
        (world.withRegistry fun registry => registry.countShot shot.ownerId) :=
      .withRegistry trivial (Registry.noted_countShot _ _)
    have sound := counted.sound good
    refine counted.trans ?_
    split
    · rename_i made
      refine .copy sound ⟨rfl, shot.owner, actor.identity, ?_, weapon⟩ made
      exact congrArg (Option.map Actor.identity) found
    · rename_i made
      exact .createGroup trivial made
    · exact .quiet (quiet_report _ _)

theorem course_fireShots (good : world.Sound others) :
    Course Deed.OfShots world world.fireShots := by
  unfold fireShots
  split
  · exact .refl world
  · rename_i shots _
    have emptied := arranged_shots world []
    have begun : Course Deed.OfShots world { world with shots := some [] } := .arrange rfl emptied
    refine begun.trans (Course.foldl ?_ (good.of_sameNames emptied.names) shots)
    intro world shot sound
    exact course_shootOne sound shot

theorem course_cleanUp (good : world.Sound others) :
    Course Deed.OfRemoval world world.cleanUp := by
  unfold cleanUp
  split
  · exact .refl world
  · refine Course.foldl ?_ good _
    intro world handle sound
    exact .destroy sound trivial

theorem keeps_integrated (arena : Arena S) (seconds : S) :
    Actor.Keeps (T := T) (Actor.integrated arena seconds) := by
  intro actor
  unfold Actor.integrated
  split
  · exact ⟨rfl, rfl⟩
  · split <;> exact ⟨rfl, rfl⟩

/-! ### Contacts -/

theorem keeps_pushed (push : Vec S) :
    Actor.Keeps (T := T) fun actor : Actor S T => actor.pushed push := by
  intro actor
  unfold Actor.pushed
  split <;> exact ⟨rfl, rfl⟩

/-- Pushing actors apart changes no names. -/
theorem alike_parted (roster : Roster S T) (kind : Contact.Kind) (first second : Actor S T) :
    roster.Alike (parted roster kind first second) := by
  unfold parted
  split
  · split
    · exact (Roster.alike_modify (keeps_pushed _) _).trans
        (Roster.alike_modify (keeps_pushed _) _)
    · exact .refl roster
  · exact .refl roster

theorem alike_meet (kind : Contact.Kind) (index : Nat) (state : Roster S T × List Contact)
    (pair : Handle × Handle) : state.1.Alike (meet kind index state pair).1 := by
  simp only [meet]
  split
  · split
    · exact alike_parted _ _ _ _
    · exact .refl state.1
  · exact .refl state.1

omit [Scalar S] in
theorem alike_foldl {α : Type} {change : Roster S T × List Contact → α → Roster S T × List Contact}
    (each : ∀ (state : Roster S T × List Contact) (item : α),
      state.1.Alike (change state item).1)
    (state : Roster S T × List Contact) (items : List α) :
    state.1.Alike (items.foldl change state).1 := by
  induction items generalizing state with
  | nil => exact .refl state.1
  | cons item rest ih => exact (each state item).trans (ih (change state item))

theorem alike_detectBinding (registry : Registry S T) (state : Roster S T × List Contact)
    (entry : Binding × Nat) : state.1.Alike (detectBinding registry state entry).1 :=
  alike_foldl (alike_meet _ _) state _

/-- The search for contacts changes no names. -/
theorem quiet_detect (world : World S T) :
    Quiet { world with contacts := world.detect.contacts } world.detect := by
  unfold detect
  split
  · split
    · rename_i registry bindings contacts _ _ _ _ _
      exact quiet_roster (alike_foldl (alike_detectBinding registry) (world.roster, contacts) _)
    · exact .refl world
  · exact .refl world

theorem isSome_detect (world : World S T) (there : world.contacts.isSome = true) :
    world.detect.contacts.isSome = true := by
  unfold detect
  split
  · split
    · rfl
    · exact there
  · exact there

theorem course_dispatchOne (good : world.Sound others) (contact : Contact) :
    Course Deed.OfRules world (world.dispatchOne contact) := by
  unfold dispatchOne
  split
  · exact course_fire good _ _
  · exact .refl world

theorem course_dispatchAll (good : world.Sound others) (contacts : List Contact) :
    Course Deed.OfRules { world with contacts := some [] }
      (contacts.foldl dispatchOne { world with contacts := some [] }) := by
  have emptied : World.Sound { world with contacts := some [] } others := good
  exact Course.foldl (fun world contact sound => course_dispatchOne sound contact) emptied contacts

theorem course_dispatch (good : world.Sound others) :
    Course Deed.OfRules { world with contacts := world.dispatch.contacts } world.dispatch := by
  unfold dispatch
  split
  · exact .refl world
  · rename_i contacts _
    have course := course_dispatchAll good (byBinding contacts)
    rw [course.contacts]
    exact course

/-- When contacts are dispatched none is left over. -/
theorem contacts_dispatch (good : world.Sound others) :
    world.dispatch.contacts = world.contacts.map fun _ => [] := by
  unfold dispatch
  split
  · rename_i nothing
    rw [nothing]
    rfl
  · rename_i contacts found
    rw [(course_dispatchAll good (byBinding contacts)).contacts, found]
    rfl

/-! ### Clocks, controls and bodies -/

variable [Scalar T]

omit [Scalar S] in
theorem quiet_advanceClock (world : World S T) (delta : T) :
    Quiet world (world.advanceClock delta) :=
  quiet_of_backbone rfl fun part there => by cases part <;> simpa [has, advanceClock] using there

theorem keeps_driven (pressed : List Key) (now : T) :
    Actor.Keeps (S := S) (driven pressed now) := by
  intro actor
  unfold driven
  split
  · rename_i body controls _ bound
    split
    · refine ⟨rfl, ?_⟩
      simp only [Actor.identity, Actor.weapon?, bound, Option.bind_some]
    · exact ⟨rfl, rfl⟩
  · exact ⟨rfl, rfl⟩

theorem course_driveControls (world : World S T) (keyboard : Option (List Key)) :
    Course Deed.OfControls world (world.driveControls keyboard) := by
  unfold driveControls
  split
  · exact .trans (.quiet (quiet_roster (Roster.alike_map (keeps_driven _ _))))
      (.arrange rfl (arranged_shots _ _))
  · exact .refl world

theorem course_tickTimers (good : world.Sound others) :
    Course Deed.OfRules world world.tickTimers := by
  unfold tickTimers
  split
  · rename_i clock alarms _ _
    have read := quiet_alarms world ((pollAlarms clock.now alarms).map (·.1))
    refine .trans (.quiet read) ?_
    refine Course.foldl ?_ (good.of_sameNames read.names) _
    intro world index sound
    exact course_fire sound (.timer index) none
  · exact .refl world

theorem quiet_integrate [Rounding T S] (world : World S T) : Quiet world world.integrate := by
  unfold integrate
  split
  · split
    · exact quiet_roster (Roster.alike_map (keeps_integrated _ _))
    · exact .refl world
  · exact .refl world

/-! ### Behaviors -/

section

variable [Circular S] [Sampling S] [Rounding T S]

omit [Scalar S] [Scalar T] [Circular S] [Sampling S] [Rounding T S] in
theorem keeps_withVelocity (velocity : Vec S) :
    Actor.Keeps (T := T) fun actor : Actor S T => actor.withVelocity velocity := by
  intro actor
  simp only [Actor.withVelocity]
  split <;> exact ⟨rfl, rfl⟩

/-- The behaviors that ids have. -/
def behaviors (world : World S T) : Index Assignment := (world.registry.getD .empty).behaviors

/-- A behavior that is assigned steers its actor and remembers; no behavior changes by it. -/
theorem course_steer {entry : String × Assignment}
    (behaves : world.behaviors.contains entry.1 = true) :
    Course Deed.OfBehaviors world (world.steer entry) ∧
      (world.steer entry).behaviors = world.behaviors := by
  simp only [steer]
  split
  · exact ⟨.refl world, rfl⟩
  · rename_i handle steering _
    have steered : Quiet world { world with
        roster := world.roster.modify handle (·.withVelocity steering.velocity)
        random := some steering.random } :=
      (quiet_roster (Roster.alike_modify (keeps_withVelocity _) handle)).trans (quiet_random _ _)
    split
    · refine ⟨.trans (.quiet steered) (.record trivial ?_ _), rfl⟩
      exact behaves
    · exact ⟨.quiet steered, rfl⟩

theorem course_runBehaviors (good : world.Sound others) :
    Course Deed.OfBehaviors world world.runBehaviors := by
  unfold runBehaviors
  split
  · rename_i registry names
    refine Course.foldl_keeping (fun later => later.behaviors = registry.behaviors) ?_ good ?_
    · intro later _ same entry member
      have listed := (registry.behaviors.mem_entries_iff entry.1 entry.2).mp member
      have behaves : later.behaviors.contains entry.1 = true := by
        rw [same, Index.contains, listed]
        rfl
      obtain ⟨course, kept⟩ := course_steer behaves
      exact ⟨course, kept.trans same⟩
    · rw [behaviors, names]
      rfl
  · exact .refl world

end

/-! ### Spawners -/

section

variable [Sampling S]

/-- What a firing of a spawner comes to: nothing, as all copies are made; a copy, at a place that is
drawn; or only what is told of a template that makes no actor. False tells that the spawner is done. -/
inductive Spawned (world : World S T) (spawner : Spec.Spawner S) : World S T → Bool → Prop where
  | spent (all : exhausted spawner ((world.registry.getD .empty).copyCount spawner.id) = true) :
    Spawned world spawner world false
  | copy {random : Random} {place : Vec S} {handle : Handle} {made : World S T}
    (left : exhausted spawner ((world.registry.getD .empty).copyCount spawner.id) = false)
    (created : create { world with random := some random } spawner.template
      (copyId spawner.id ((world.registry.getD .empty).copyCount spawner.id)) place =
        .ok (.actor handle, made)) :
    Spawned world spawner ((made.adopt handle spawner.template.id).withRegistry
      fun registry => registry.countCopy spawner.id) true
  | group {random : Random} {place : Vec S} {name : String} {made : World S T}
    (left : exhausted spawner ((world.registry.getD .empty).copyCount spawner.id) = false)
    (created : create { world with random := some random } spawner.template
      (copyId spawner.id ((world.registry.getD .empty).copyCount spawner.id)) place =
        .ok (.group name, made)) :
    Spawned world spawner
      (made.report (.templateNotSpawnable spawner.id "group templates have no entity")) false
  | fault {random : Random} {place : Vec S} {error : BuildError}
    (left : exhausted spawner ((world.registry.getD .empty).copyCount spawner.id) = false)
    (created : create { world with random := some random } spawner.template
      (copyId spawner.id ((world.registry.getD .empty).copyCount spawner.id)) place = .error error) :
    Spawned world spawner (report { world with random := some random }
      (.templateNotSpawnable spawner.id error.message)) false

omit [Scalar T] in
/-- Nothing but the random numbers changes when a place is drawn. -/
theorem drawPlace_eq {spawner : Spec.Spawner S} {place : Vec S}
    (drawn : world.drawPlace spawner = .ok (place, after)) :
    ∃ random, after = { world with random := some random } := by
  obtain ⟨⟨place, random⟩, -, done⟩ := bind_eq_ok drawn
  cases done
  exact ⟨random, rfl⟩

omit [Scalar T] in
theorem spawned_of_spawnOne {spawner : Spec.Spawner S} {more : Bool}
    (done : world.spawnOne spawner = .ok (after, more)) : Spawned world spawner after more := by
  simp only [spawnOne] at done
  split at done
  · rename_i all
    cases done
    exact .spent all
  · rename_i left
    have left := Bool.eq_false_iff.mpr left
    obtain ⟨⟨place, drawn⟩, placed, done⟩ := bind_eq_ok done
    obtain ⟨random, rfl⟩ := drawPlace_eq placed
    simp only at done
    split at done
    · rename_i created
      cases done
      exact .copy left created
    · rename_i created
      cases done
      exact .group left created
    · rename_i created
      cases done
      exact .fault left created

omit [Scalar T] in
theorem course_spawnOne (good : world.Sound others) {spawner : Spec.Spawner S} {more : Bool}
    (working : spawner ∈ world.scenery.spawners)
    (done : world.spawnOne spawner = .ok (after, more)) :
    Course Deed.OfSpawners world after := by
  have quiet (random : Random) : Course Deed.OfSpawners world { world with random := some random } :=
    .quiet (quiet_random world random)
  have sound (random : Random) : World.Sound { world with random := some random } others := good
  cases spawned_of_spawnOne done with
  | spent => exact .refl world
  | @copy random _ _ _ _ created =>
    exact (quiet random).trans (.trans (.copy (sound random) ⟨spawner, working, rfl, rfl⟩ created)
      (.withRegistry trivial (Registry.noted_countCopy _ _)))
  | @group random _ _ _ _ created =>
    exact (quiet random).trans (.trans (.createGroup trivial created) (.quiet (quiet_report _ _)))
  | @fault random => exact (quiet random).trans (.quiet (quiet_report _ _))

omit [Scalar S] [Scalar T] [Sampling S] in
/-- Spawners stay at work while copies are made. -/
theorem scenery_ofSpawners (course : Course Deed.OfSpawners world after) :
    after.scenery = world.scenery :=
  course.scenery id fun _ _ allowed => allowed.elim

omit [Scalar T] in
theorem course_spawnMany (good : world.Sound others) {spawner : Spec.Spawner S} {number : Nat}
    {more : Bool} (working : spawner ∈ world.scenery.spawners)
    (done : spawnMany spawner number world = .ok (after, more)) :
    Course Deed.OfSpawners world after := by
  induction number generalizing world with
  | zero =>
    cases done
    exact .refl _
  | succ rest ih =>
    obtain ⟨⟨next, more⟩, first, done⟩ := bind_eq_ok done
    have course := course_spawnOne good working first
    simp only at done
    split at done
    · rw [← scenery_ofSpawners course] at working
      exact course.trans (ih (course.sound good) working done)
    · cases done
      exact course

theorem course_tickNest (good : world.Sound others) {nest later : Nest S T} {now : T}
    (working : nest.spawner ∈ world.scenery.spawners)
    (done : world.tickNest nest now = .ok (after, later)) :
    Course Deed.OfSpawners world after ∧ later.spawner = nest.spawner := by
  obtain ⟨⟨next, more⟩, spawned, done⟩ := bind_eq_ok done
  cases done
  exact ⟨course_spawnMany good working spawned, rfl⟩

theorem course_tickNests (good : world.Sound others) {now : T} {nests later : List (Nest S T)}
    (working : ∀ nest ∈ nests, nest.spawner ∈ world.scenery.spawners)
    (done : tickNests now nests world = .ok (after, later)) :
    Course Deed.OfSpawners world after ∧ later.map (·.spawner) = nests.map (·.spawner) := by
  induction nests generalizing world later with
  | nil =>
    cases done
    exact ⟨.refl _, rfl⟩
  | cons nest rest ih =>
    obtain ⟨⟨next, ticked⟩, first, done⟩ := bind_eq_ok done
    obtain ⟨⟨last, others⟩, second, done⟩ := bind_eq_ok done
    cases done
    obtain ⟨course, same⟩ := course_tickNest good (working nest List.mem_cons_self) first
    have still : ∀ nest ∈ rest, nest.spawner ∈ next.scenery.spawners := by
      intro other member
      rw [scenery_ofSpawners course]
      exact working other (List.mem_cons_of_mem _ member)
    obtain ⟨courses, sames⟩ := ih (course.sound good) still second
    exact ⟨course.trans courses, by rw [List.map_cons, List.map_cons, same, sames]⟩

theorem course_tickSpawners (good : world.Sound others) (done : world.tickSpawners = .ok after) :
    Course Deed.OfSpawners world after := by
  unfold tickSpawners at done
  split at done
  · rename_i nests clock working _
    obtain ⟨⟨last, ticked⟩, made, done⟩ := bind_eq_ok done
    cases done
    have spawners : world.scenery.spawners = nests.map (·.spawner) := by
      rw [scenery, working, Option.getD_some]
    obtain ⟨course, same⟩ := course_tickNests good
      (fun nest member => spawners ▸ List.mem_map_of_mem member) made
    refine .trans course (.quiet (quiet_nests ?_))
    have still := congrArg Scenery.spawners (scenery_ofSpawners course)
    rw [same, ← spawners]
    exact still.symm
  · cases done
    exact .refl world

end

/-! ### A part of a frame -/

/-- The parts of a frame besides the search for contacts and their dispatch are courses. -/
theorem course_runPhase_of_ne [Circular S] [Sampling S] [Rounding T S] (good : world.Sound others)
    {keyboard : Option (List Key)} {delta : T} {phase : Phase} (search : phase ≠ .contacts)
    (serve : phase ≠ .dispatch) (done : world.runPhase keyboard delta phase = .ok after) :
    Course phase.permits world after := by
  cases phase with
  | clock =>
    cases done
    exact .quiet (quiet_advanceClock world delta)
  | controls =>
    cases done
    exact course_driveControls world keyboard
  | shots =>
    cases done
    exact course_fireShots good
  | behaviors =>
    cases done
    exact course_runBehaviors good
  | spawners => exact course_tickSpawners good done
  | timers =>
    cases done
    exact course_tickTimers good
  | movement =>
    cases done
    exact .quiet (quiet_integrate world)
  | contacts => exact absurd rfl search
  | dispatch => exact absurd rfl serve
  | cleanUp =>
    cases done
    exact course_cleanUp good

/-- A part of a frame is a course of the world in which the contacts already are what they will
be, and the list of contacts stays in place. -/
theorem course_runPhase [Circular S] [Sampling S] [Rounding T S] (good : world.Sound others)
    {keyboard : Option (List Key)} {delta : T} {phase : Phase}
    (done : world.runPhase keyboard delta phase = .ok after) :
    Course phase.permits { world with contacts := after.contacts } after ∧
      (world.contacts.isSome = true → after.contacts.isSome = true) := by
  by_cases search : phase = .contacts
  · subst search
    cases done
    exact ⟨.quiet (quiet_detect world), isSome_detect world⟩
  · by_cases serve : phase = .dispatch
    · subst serve
      cases done
      refine ⟨course_dispatch good, fun there => ?_⟩
      rw [contacts_dispatch good, Option.isSome_map, there]
    · have course := course_runPhase_of_ne good search serve done
      rw [course.contacts]
      exact ⟨course, id⟩

omit [Scalar S] [Scalar T] in
/-- Parts of a frame run up to a world, and the others go on from it. -/
theorem runPhases_append_eq_ok_iff [Scalar S] [Scalar T] [Circular S] [Sampling S] [Rounding T S]
    {keyboard : Option (List Key)} {delta : T} {first rest : List Phase} :
    world.runPhases keyboard delta (first ++ rest) = .ok after ↔
      ∃ middle, world.runPhases keyboard delta first = .ok middle ∧
        middle.runPhases keyboard delta rest = .ok after := by
  rw [runPhases, List.foldlM_append]
  exact bind_eq_ok_iff

/-- The game is played on to the end of a part of a frame. -/
theorem scene_runPhase [Circular S] [Sampling S] [Rounding T S] (good : world.Sound others)
    {keyboard : Option (List Key)} {delta : T} {phase : Phase}
    (done : world.runPhase keyboard delta phase = .ok after) : SameScene world after := by
  obtain ⟨course, contacts⟩ := course_runPhase good done
  have same : SameScene world { world with contacts := after.contacts } := by
    refine ⟨rfl, rfl, rfl, rfl, ?_⟩
    intro part there
    cases part with
    | contacts => exact contacts there
    | _ => exact there
  exact same.trans course.scene

/-! ### Building a scene -/

omit [Scalar T] in
theorem course_placeObject (good : world.Sound others) {scene : Spec.Scene S}
    {object : Spec.Blueprint S} (declared : object ∈ scene.objects) :
    Course (Deed.OfBuilding scene) world (world.placeObject object) := by
  unfold placeObject
  split
  · rename_i made
    exact .create good ⟨declared, rfl, rfl⟩ trivial made
  · exact .quiet (quiet_report _ _)

omit [Scalar S] [Scalar T] in
theorem quiet_placeInteraction (kind : Contact.Kind) (world : World S T) (line : String) :
    Quiet world (world.placeInteraction kind line) := by
  unfold placeInteraction
  split
  · exact quiet_of_backbone rfl fun part there => by cases part <;> simpa [has] using there
  · exact quiet_report _ _

omit [Scalar S] [Scalar T] in
theorem arranged_mapNests (world : World S T) (change : List (Nest S T) → List (Nest S T)) :
    Arranged world { world with nests := world.nests.map change } where
  names := ⟨rfl, List.Perm.refl _, rfl, rfl, rfl⟩
  scene := ⟨rfl, rfl, rfl, rfl, fun part there => by cases part <;> simpa [has] using there⟩
  contacts := rfl
  traffic := rfl

omit [Scalar S] in
theorem course_placeSpawner (world : World S T) {scene : Spec.Scene S}
    {spawner : Spec.Spawner S} (declared : spawner ∈ scene.spawners) :
    Course (Deed.OfBuilding scene) world (world.placeSpawner spawner) := by
  have grouped := Registry.noted_ensureGroup (world.registry.getD .empty) spawner.template.id
  refine .trans (.note trivial grouped) (.arrange ⟨rfl, ?_⟩ (arranged_mapNests _ _))
  intro other member
  change other ∈ ((world.nests.map (· ++ [.start spawner 0])).getD []).map (·.spawner) at member
  cases working : world.nests with
  | none =>
    rw [working] at member
    cases member
  | some nests =>
    rw [working, Option.map_some, Option.getD_some, List.map_append] at member
    rcases List.mem_append.mp member with old | new
    · exact .inl old
    · rw [List.mem_singleton.mp new]
      exact .inr declared

omit [Scalar S] in
theorem quiet_placeTimer (world : World S T) (line : String) :
    Quiet world (world.placeTimer line) := by
  unfold placeTimer
  split
  · exact quiet_of_backbone rfl fun part there => by cases part <;> simpa [has] using there
  · exact quiet_report _ _

omit [Scalar S] [Scalar T] in
/-- The group of shots is there when something shoots. -/
theorem course_groupShots (world : World S T) (scene : Spec.Scene S) :
    Course (Deed.OfBuilding scene) world (if scene.objects.any shoots then
      world.withRegistry fun registry => registry.ensureGroup projectileGroup else world) := by
  split
  · exact .note trivial (Registry.noted_ensureGroup _ _)
  · exact .refl world

/-- The actions of a scene. -/
def actionsOf (scene : Spec.Scene S) : Index Spec.Effect :=
  libraryOf ((scene.logic.getD .empty).actions.getD [])

/-- Building a scene is a course, once its actions are known. -/
theorem course_build (good : world.Sound others) (scene : Spec.Scene S) :
    Course (Deed.OfBuilding scene) { world with library := some (actionsOf scene) }
      (world.build scene) := by
  let logic := scene.logic.getD .empty
  have known : World.Sound { world with library := some (actionsOf scene) } others := good
  have objects : Course (Deed.OfBuilding scene) { world with library := some (actionsOf scene) }
      (scene.objects.foldl placeObject { world with library := some (actionsOf scene) }) :=
    Course.foldl_mem (fun _ _ declared sound => course_placeObject sound declared) known
  have spawners := objects.trans (Course.foldl_mem
    (fun world (spawner : Spec.Spawner S) (declared : spawner ∈ scene.spawners) _ =>
      course_placeSpawner world declared)
    (objects.sound known))
  have shots := spawners.trans (course_groupShots _ scene)
  have collisions := shots.trans (Course.foldl
    (fun world line _ => .quiet (quiet_placeInteraction .collision world line)) (shots.sound known)
    (logic.onCollision.getD []))
  have overlaps := collisions.trans (Course.foldl
    (fun world line _ => .quiet (quiet_placeInteraction .overlap world line))
    (collisions.sound known) (logic.onOverlap.getD []))
  exact overlaps.trans (Course.foldl
    (fun world line _ => .quiet (quiet_placeTimer world line)) (overlaps.sound known) _)

/-! ### Showing a world -/

omit [Scalar T] in
theorem keeps_synced (extent : Vec S) : Actor.Keeps (T := T) (synced extent) :=
  fun _ => ⟨rfl, rfl⟩

omit [Scalar T] in
theorem course_draw (good : world.Sound others) {pictures : Bool}
    (done : world.draw pictures = .ok after) : Course Deed.OfNothing world after := by
  unfold draw at done
  split at done
  · cases done
  · cases done
    refine .trans ?_ (.quiet (quiet_roster (Roster.alike_map (keeps_synced _))))
    refine Course.foldl ?_ good _
    intro later handle sound
    refine .quiet (quiet_update sound ?_ handle)
    exact fun _ => ⟨rfl, rfl⟩

end World

end Arcade
