import Arcade.Proofs.Consumption
import Arcade.Proofs.Copying

/-! Where the actors of a world are. Only movement and the search for contacts put anybody elsewhere, and
both do nothing while the arena does not run. All else makes actors, removes them, or changes what
they are; whoever stays stays in place. -/

namespace Arcade.World

variable {S T : Type} {before middle after world : World S T} {others : List Handle}
  {handle : Handle}

/-- Where an actor is. -/
def place? (world : World S T) (handle : Handle) : Option (Vec S) :=
  (world.roster.find? handle).map (·.position)

/-- Everybody stays, and stays in place. -/
def Placed (before after : World S T) : Prop :=
  ∀ handle place, before.place? handle = some place → after.place? handle = some place

/-- Whoever is not gone for good is where it was. -/
def Still (others : List Handle) (before after : World S T) : Prop :=
  ∀ handle place, before.place? handle = some place →
    after.place? handle = some place ∨ after.Spent others handle

theorem Placed.trans (first : Placed before middle) (second : Placed middle after) :
    Placed before after :=
  fun handle place here => second handle place (first handle place here)

theorem Placed.still (placed : Placed before after) : Still others before after :=
  fun handle place here => .inl (placed handle place here)

theorem Still.trans (first : Still others before middle) (second : Still others middle after)
    (spent : ∀ handle, middle.Spent others handle → after.Spent others handle) :
    Still others before after := by
  intro handle place here
  rcases first handle place here with there | gone
  · exact second handle place there
  · exact .inr (spent handle gone)

theorem placed_of_roster (same : after.roster = before.roster) : Placed before after := by
  intro handle place here
  rw [place?, same]
  exact here

/-! ### Changes of actors -/

/-- An actor that is changed stays where it is. -/
theorem placed_update (sound : world.Sound others) {change : Actor S T → Actor S T}
    (keeps : ∀ actor, (change actor).handle = actor.handle ∧
      (change actor).position = actor.position) (handle : Handle) :
    Placed world { world with roster := world.roster.update handle change } := by
  intro other place here
  obtain ⟨actor, found, there⟩ := Option.map_eq_some_iff.mp here
  rw [place?, Roster.find?_update sound.distinct fun actor => (keeps actor).1, found]
  split
  · exact congrArg some ((keeps actor).2.trans there)
  · exact congrArg some there

theorem placed_map {change : Actor S T → Actor S T}
    (keeps : ∀ actor, (change actor).handle = actor.handle ∧
      (change actor).position = actor.position) :
    Placed world { world with roster := world.roster.map change } := by
  intro other place here
  obtain ⟨actor, found, there⟩ := Option.map_eq_some_iff.mp here
  rw [place?, Roster.find?_map fun actor => (keeps actor).1, found]
  exact congrArg some ((keeps actor).2.trans there)

theorem placed_modify {change : Actor S T → Actor S T}
    (keeps : ∀ actor, (change actor).handle = actor.handle ∧
      (change actor).position = actor.position) (handle : Handle) :
    Placed world { world with roster := world.roster.modify handle change } := by
  intro other place here
  obtain ⟨actor, found, there⟩ := Option.map_eq_some_iff.mp here
  rw [place?, Roster.find?_modify fun actor => (keeps actor).1, found]
  split
  · exact congrArg some ((keeps actor).2.trans there)
  · exact congrArg some there

theorem placed_setText {id text : String} (changed : world.setText? id text = some after) :
    Placed world after := by
  simp only [setText?, Option.bind_eq_bind, Option.bind_eq_some_iff] at changed
  obtain ⟨handle, -, actor, -, changed⟩ := changed
  split at changed
  · cases changed
    refine placed_modify ?_ handle
    exact fun _ => ⟨rfl, rfl⟩
  · cases changed

theorem placed_adopt (sound : world.Sound others) (handle : Handle) (group : String) :
    Placed world (world.adopt handle group) := by
  unfold adopt
  split
  · exact placed_of_roster rfl
  · let mark : Actor S T → Actor S T := fun actor =>
      { actor with group := some group, transient := true }
    have marked : Placed world { world with roster := world.roster.update handle mark } := by
      refine placed_update sound ?_ handle
      exact fun _ => ⟨rfl, rfl⟩
    exact marked.trans (placed_of_roster rfl)

theorem placed_emit (world : World S T) (signal : Signal) (source : Option Handle) :
    Placed world (world.emit signal source) :=
  placed_of_roster (by simp only [emit])

theorem placed_report (world : World S T) (error : BuildError) :
    Placed world (world.report error) :=
  placed_of_roster (by simp only [report, emit])

/-- Whoever is removed is gone for good, and the others stay in place. -/
theorem still_destroy (good : world.Sound others) (handle : Handle) :
    Still others world (world.destroy handle) := by
  intro other place here
  cases found : world.roster.find? handle with
  | none =>
    rw [destroy, found]
    exact .inl here
  | some actor =>
    have removed := removed_destroy good found
    by_cases hit : other = handle
    · subst hit
      exact .inr (removed.spent_self good)
    · left
      have roster : (world.destroy handle).roster = world.roster.remove handle := by
        rw [destroy, found]
        cases world.registry <;> rfl
      rw [place?, roster, Roster.find?_remove good.distinct, if_neg (Ne.symm hit)]
      exact here

/-- A sequence of changes, each of which leaves the others in place. -/
theorem still_foldl {α : Type} {may : World S T → Deed S → Prop} {change : World S T → α → World S T}
    (course : ∀ (world : World S T) (item : α), world.Sound others →
      Course may world (change world item))
    (each : ∀ (world : World S T) (item : α), world.Sound others →
      Still others world (change world item))
    (good : world.Sound others) (items : List α) :
    Still others world (items.foldl change world) := by
  induction items generalizing world with
  | nil => exact (placed_of_roster rfl).still
  | cons item rest ih =>
    have sound := (course world item good).sound good
    refine (each world item good).trans (ih sound) ?_
    intro handle gone
    exact (Course.foldl course sound rest).spent gone

/-! ### Making -/

theorem placed_appear (good : world.Sound others) (blueprint : Spec.Blueprint S) (id : String)
    (position : Vec S) (look : Appearance S) :
    Placed world (world.appear blueprint id position look).2 := by
  have fresh : world.handles.take.1 ∉ world.roster.handles := by
    intro member
    exact Handles.Sound.take_not_mem good (List.mem_append_left _ member)
  let bare : Actor S T := bareActor world.handles.take.1 id position look
  let added : World S T := { world with roster := world.roster.add bare }
  have distinct : added.roster.handles.Nodup :=
    (Roster.handles_add_perm world.roster bare).nodup_iff.mpr
      (List.nodup_cons.mpr ⟨fresh, good.distinct⟩)
  have there : Placed world added := by
    intro other place here
    have different : bare.handle ≠ other := by
      rintro rfl
      have absent : world.roster.find? bare.handle = none := Roster.find?_eq_none_iff.mpr fresh
      rw [place?, absent] at here
      cases here
    rw [place?, Roster.find?_add good.distinct fresh, if_neg different]
    exact here
  simp only [appear]
  split
  · rename_i text _
    let written : Actor S T → Actor S T := fun actor => { actor with text := some text }
    have shown : Placed added { added with
        roster := added.roster.update world.handles.take.1 written } := by
      intro other place here
      obtain ⟨actor, found, stands⟩ := Option.map_eq_some_iff.mp here
      have keeps : ∀ actor, (written actor).handle = actor.handle := fun _ => rfl
      rw [place?, Roster.find?_update distinct keeps, found]
      split <;> exact congrArg some stands
    exact there.trans shown
  · exact there

variable [Scalar S]

theorem placed_embody (good : world.Sound others) (handle : Handle)
    (body : Option (Spec.Body S)) : Placed world (world.embody handle body) := by
  unfold embody
  split
  · refine placed_update good ?_ handle
    exact fun _ => ⟨rfl, rfl⟩
  · exact placed_of_roster rfl

theorem placed_attach (good : world.Sound others) (handle : Handle)
    (controls : Option (Spec.Controls S (Spec.Blueprint S))) :
    Placed world (world.attach handle controls) := by
  unfold attach
  split
  · have updated (bound : Controls S T) : Placed world { world with
        roster := world.roster.update handle fun actor => { actor with controls := some bound } } := by
      refine placed_update good ?_ handle
      exact fun _ => ⟨rfl, rfl⟩
    exact (updated _).trans (placed_of_roster rfl)
  · exact placed_of_roster rfl

omit [Scalar S] in
theorem placed_enter (world : World S T) (id : String) (handle : Handle) :
    Placed world (world.enter id handle) := by
  have registered : Placed world
      (world.withRegistry fun registry => registry.register id handle) := placed_of_roster rfl
  simp only [enter]
  split
  · exact registered.trans (placed_report _ _)
  · exact registered

omit [Scalar S] in
theorem placed_instruct (world : World S T) (id : String) (blueprint : Spec.Blueprint S) :
    Placed world (world.instruct id blueprint) := by
  unfold instruct
  split <;> exact placed_of_roster rfl

theorem placed_create (good : before.Sound others) {blueprint : Spec.Blueprint S} {id : String}
    {position : Vec S} {created : Created}
    (made : before.create blueprint id position = .ok (created, after)) : Placed before after := by
  unfold create at made
  split at made
  · cases made
  · split at made
    · simp only [Except.ok.injEq, Prod.mk.injEq] at made
      obtain ⟨-, rfl⟩ := made
      exact placed_of_roster rfl
    · rename_i look _
      simp only [Except.ok.injEq, Prod.mk.injEq] at made
      obtain ⟨-, rfl⟩ := made
      have appeared := made_appear good blueprint id position look
      have arrived := placed_appear good blueprint id position look
      generalize before.appear blueprint id position look = arrival at appeared arrived ⊢
      obtain ⟨newcomer, world⟩ := arrival
      have entered := made_enter appeared id
      have named : Placed world (world.enter id newcomer) := placed_enter world id newcomer
      have embodied :=
        entered.quiet (quiet_embody (entered.sound good) newcomer blueprint.body)
      exact (((arrived.trans named).trans (placed_embody (entered.sound good) _ _)).trans
        (placed_attach (embodied.sound good) _ _)).trans (placed_instruct _ id blueprint)

/-- A copy is made and adopted while the others stay in place. -/
theorem placed_copy (good : before.Sound others) {blueprint : Spec.Blueprint S} {id : String}
    {position : Vec S} (made : before.create blueprint id position = .ok (.actor handle, middle))
    (group : String) : Placed before (middle.adopt handle group) :=
  (placed_create good made).trans (placed_adopt ((made_create good made).sound good) handle group)

/-! ### Rules -/

omit [Scalar S] in
theorem placed_addPoints (world : World S T) (points : Int) :
    Placed world (world.addPoints points) := by
  have shown (world : World S T) (id text : String) :
      Placed world ((world.setText? id text).getD world) := by
    cases changed : world.setText? id text with
    | none => exact placed_of_roster rfl
    | some after => exact placed_setText changed
  have counted : Placed world { world with
      board := some { world.board.getD .start with
        score := (world.board.getD .start).score + points } } := placed_of_roster rfl
  exact (counted.trans (shown _ _ _)).trans (placed_emit _ _ _)

theorem placed_endGame (good : world.Sound others) : Placed world world.endGame := by
  simp only [endGame]
  split
  · exact placed_of_roster rfl
  · have closed : Placed world
        { world with board := some ⟨(world.board.getD .start).score, true⟩ } :=
      placed_of_roster rfl
    have paused (world : World S T) :
        Placed world { world with arena := world.arena.map Arena.pause } := placed_of_roster rfl
    refine (closed.trans (Placed.trans ?_ (paused _))).trans (placed_emit _ _ _)
    split
    · rename_i made
      exact placed_create good made
    · exact placed_of_roster rfl

omit [Scalar S] in
theorem still_destroyTarget (good : world.Sound others) (target : Option Handle) :
    Still others world (world.destroyTarget target) := by
  cases target with
  | none => exact (placed_of_roster rfl).still
  | some handle => exact still_destroy good handle

theorem still_execute (good : world.Sound others) (effect : Spec.Effect)
    (target : Option Handle) : Still others world (world.execute effect target) := by
  cases effect with
  | updateScore points =>
    have sound := good.of_sameNames (quiet_addPoints world points).names
    refine (placed_addPoints world points).still.trans (still_destroyTarget sound target) ?_
    intro handle gone
    have course : Course Deed.OfRules (world.addPoints points)
        ((world.addPoints points).destroyTarget target) :=
      course_destroyTarget sound fun _ _ => trivial
    exact course.spent gone
  | gameOver => exact (placed_endGame good).still
  | destroy => exact still_destroyTarget good target
  | updateText id text =>
    simp only [execute]
    split
    · rename_i changed
      exact ((placed_setText changed).trans (placed_emit _ _ _)).still
    · exact (placed_of_roster rfl).still

theorem still_fire (good : world.Sound others) (site : RuleSite) (target : Option Handle) :
    Still others world (world.fire site target) := by
  unfold fire
  split
  · exact (placed_of_roster rfl).still
  · split
    · exact (placed_of_roster (by cases site <;> rfl)).still
    · split
      · exact still_execute good _ target
      · exact (placed_of_roster rfl).still

/-! ### The parts of a frame -/

theorem still_dispatch (good : world.Sound others) : Still others world world.dispatch := by
  unfold dispatch
  split
  · exact (placed_of_roster rfl).still
  · rename_i contacts _
    have emptied : World.Sound { world with contacts := some [] } others := good
    refine still_foldl (fun world contact sound => course_dispatchOne sound contact) ?_ emptied _
    intro later contact sound
    unfold dispatchOne
    split
    · exact still_fire sound _ _
    · exact (placed_of_roster rfl).still

theorem placed_shootOne (good : world.Sound others) (shot : Shot S) :
    Placed world (world.shootOne shot) := by
  simp only [shootOne]
  split
  · exact placed_of_roster rfl
  · have counted : Placed world
        (world.withRegistry fun registry => registry.countShot shot.ownerId) :=
      placed_of_roster rfl
    have sound : World.Sound
        (world.withRegistry fun registry => registry.countShot shot.ownerId) others := good
    refine counted.trans ?_
    split
    · rename_i made
      exact placed_copy sound made _
    · rename_i made
      exact placed_create sound made
    · exact placed_report _ _

theorem still_fireShots (good : world.Sound others) : Still others world world.fireShots := by
  unfold fireShots
  split
  · exact (placed_of_roster rfl).still
  · have emptied : World.Sound { world with shots := some [] } others := good
    exact still_foldl (fun world shot sound => course_shootOne sound shot)
      (fun world shot sound => (placed_shootOne sound shot).still) emptied _

theorem still_cleanUp (good : world.Sound others) : Still others world world.cleanUp := by
  unfold cleanUp
  split
  · exact (placed_of_roster rfl).still
  · exact still_foldl (fun world handle sound => course_destroy sound handle)
      (fun world handle sound => still_destroy sound handle) good _

variable [Scalar T]

theorem placed_driveControls (world : World S T) (keyboard : Option (List Key)) :
    Placed world (world.driveControls keyboard) := by
  unfold driveControls
  split
  · rename_i pressed clock shots _ _
    have driven : Placed world
        { world with roster := world.roster.map (driven pressed clock.now) } := by
      refine placed_map ?_
      intro actor
      refine ⟨(keeps_driven pressed clock.now actor).1, ?_⟩
      unfold driven
      split
      · split <;> rfl
      · rfl
    exact driven.trans (placed_of_roster rfl)
  · exact placed_of_roster rfl

theorem still_tickTimers (good : world.Sound others) : Still others world world.tickTimers := by
  unfold tickTimers
  split
  · rename_i clock alarms _ _
    have read : World.Sound
        { world with alarms := some ((pollAlarms clock.now alarms).map (·.1)) } others := good
    exact still_foldl (fun world index sound => course_fire sound (.timer index) none)
      (fun world index sound => still_fire sound (.timer index) none) read _
  · exact (placed_of_roster rfl).still

section

variable [Circular S] [Sampling S] [Rounding T S]

theorem placed_steer (world : World S T) (entry : String × Assignment) :
    Placed world (world.steer entry) := by
  simp only [steer]
  split
  · exact placed_of_roster rfl
  · rename_i handle steering _
    have steered : Placed world { world with
        roster := world.roster.modify handle (·.withVelocity steering.velocity) } := by
      refine placed_modify ?_ handle
      intro actor
      simp only [Actor.withVelocity]
      split <;> exact ⟨rfl, rfl⟩
    split
    · exact steered.trans (placed_of_roster rfl)
    · exact steered.trans (placed_of_roster rfl)

theorem placed_runBehaviors (world : World S T) : Placed world world.runBehaviors := by
  unfold runBehaviors
  split
  · rename_i registry _
    have steered (entries : List (String × Assignment)) (world : World S T) :
        Placed world (entries.foldl steer world) := by
      induction entries generalizing world with
      | nil => exact placed_of_roster rfl
      | cons entry rest ih => exact (placed_steer world entry).trans (ih _)
    exact steered _ world
  · exact placed_of_roster rfl

end

variable [Sampling S]

omit [Scalar T] in
theorem placed_spawnOne (good : world.Sound others) {spawner : Spec.Spawner S} {more : Bool}
    (done : world.spawnOne spawner = .ok (after, more)) : Placed world after := by
  have drawn (random : Random) : Placed world { world with random := some random } :=
    placed_of_roster rfl
  have sound (random : Random) : World.Sound { world with random := some random } others := good
  cases spawned_of_spawnOne done with
  | spent => exact placed_of_roster rfl
  | @copy random _ _ _ _ created =>
    exact (drawn random).trans ((placed_copy (sound random) created _).trans (placed_of_roster rfl))
  | @group random _ _ _ _ created =>
    exact (drawn random).trans ((placed_create (sound random) created).trans (placed_report _ _))
  | @fault random => exact (drawn random).trans (placed_report _ _)

omit [Scalar T] in
theorem placed_spawnMany (good : world.Sound others) {spawner : Spec.Spawner S} {number : Nat}
    {more : Bool} (working : spawner ∈ world.scenery.spawners)
    (done : spawnMany spawner number world = .ok (after, more)) : Placed world after := by
  induction number generalizing world with
  | zero =>
    cases done
    exact placed_of_roster rfl
  | succ rest ih =>
    obtain ⟨⟨next, again⟩, first, done⟩ := bind_eq_ok done
    have course := course_spawnOne good working first
    have placed := placed_spawnOne good first
    cases again with
    | true =>
      rw [← scenery_ofSpawners course] at working
      exact placed.trans (ih (course.sound good) working done)
    | false =>
      cases done
      exact placed

theorem placed_tickNests (good : world.Sound others) {now : T} {nests later : List (Nest S T)}
    (working : ∀ nest ∈ nests, nest.spawner ∈ world.scenery.spawners)
    (done : tickNests now nests world = .ok (after, later)) : Placed world after := by
  induction nests generalizing world later with
  | nil =>
    cases done
    exact placed_of_roster rfl
  | cons nest rest ih =>
    obtain ⟨⟨next, ticked⟩, first, done⟩ := bind_eq_ok done
    obtain ⟨⟨last, others⟩, second, done⟩ := bind_eq_ok done
    cases done
    obtain ⟨course, -⟩ := course_tickNest good (working nest List.mem_cons_self) first
    obtain ⟨⟨spawned, more⟩, made, ended⟩ := bind_eq_ok first
    cases ended
    have still : ∀ nest ∈ rest, nest.spawner ∈ next.scenery.spawners := by
      intro other member
      rw [scenery_ofSpawners course]
      exact working other (List.mem_cons_of_mem _ member)
    exact (placed_spawnMany good (working nest List.mem_cons_self) made).trans
      (ih (course.sound good) still second)

theorem placed_tickSpawners (good : world.Sound others) (done : world.tickSpawners = .ok after) :
    Placed world after := by
  unfold tickSpawners at done
  split at done
  · rename_i nests clock working _
    obtain ⟨⟨last, ticked⟩, made, done⟩ := bind_eq_ok done
    cases done
    have spawners : world.scenery.spawners = nests.map (·.spawner) := by
      rw [scenery, working, Option.getD_some]
    exact (placed_tickNests good (fun nest member => spawners ▸ List.mem_map_of_mem member)
      made).trans (placed_of_roster rfl)
  · cases done
    exact placed_of_roster rfl

/-! ### A world that does not run -/

/-- Whether bodies move and meet. -/
def running (world : World S T) : Bool := world.arena.any Arena.running

omit [Sampling S] in
theorem integrate_of_halted [Rounding T S] (halted : world.running = false) :
    world.integrate = world := by
  unfold integrate
  split
  · rename_i arena clock found _
    rw [running, found, Option.any_some] at halted
    rw [halted]
    rfl
  · rfl

omit [Sampling S] [Scalar T] in
theorem detect_of_halted (halted : world.running = false) : world.detect = world := by
  unfold detect
  split
  · rename_i arena _ _ _ found _ _ _
    rw [running, found, Option.any_some] at halted
    rw [halted]
    rfl
  · rfl

variable [Circular S] [Rounding T S] {keyboard : Option (List Key)} {delta : T}

/-- Nobody is put elsewhere, and no contact is found, in a part of a frame other than movement and the
search for contacts, nor while the arena does not run. -/
theorem still_runPhase (good : world.Sound others) {phase : Phase}
    (idle : (phase ≠ .movement ∧ phase ≠ .contacts) ∨ world.running = false)
    (done : world.runPhase keyboard delta phase = .ok after) :
    Still others world after ∧ (world.Settled → after.Settled) := by
  have kept (other : phase ≠ .contacts) (served : phase ≠ .dispatch) :
      world.Settled → after.Settled := by
    intro settled
    rw [Settled, (course_runPhase_of_ne good other served done).contacts]
    exact settled
  cases phase with
  | clock =>
    cases done
    exact ⟨(placed_of_roster rfl).still, kept (by decide) (by decide)⟩
  | controls =>
    cases done
    exact ⟨(placed_driveControls world keyboard).still, kept (by decide) (by decide)⟩
  | shots =>
    cases done
    exact ⟨still_fireShots good, kept (by decide) (by decide)⟩
  | behaviors =>
    cases done
    exact ⟨(placed_runBehaviors world).still, kept (by decide) (by decide)⟩
  | spawners => exact ⟨(placed_tickSpawners good done).still, kept (by decide) (by decide)⟩
  | timers =>
    cases done
    exact ⟨still_tickTimers good, kept (by decide) (by decide)⟩
  | movement =>
    have halted : world.running = false := by
      rcases idle with ⟨never, -⟩ | halted
      · exact absurd rfl never
      · exact halted
    rw [runPhase, integrate_of_halted halted] at done
    cases done
    exact ⟨(placed_of_roster rfl).still, id⟩
  | contacts =>
    have halted : world.running = false := by
      rcases idle with ⟨-, never⟩ | halted
      · exact absurd rfl never
      · exact halted
    rw [runPhase, detect_of_halted halted] at done
    cases done
    exact ⟨(placed_of_roster rfl).still, id⟩
  | dispatch =>
    cases done
    refine ⟨still_dispatch good, fun _ => ?_⟩
    rw [Settled, contacts_dispatch good]
    cases world.contacts <;> rfl
  | cleanUp =>
    cases done
    exact ⟨still_cleanUp good, kept (by decide) (by decide)⟩

/-- The same for parts of a frame one after the other. What was given back stays given back. -/
theorem still_runPhases (good : world.Sound others) {phases : List Phase}
    (idle : ∀ earlier phase later found, phases = earlier ++ phase :: later →
      world.runPhases keyboard delta earlier = .ok found →
      (phase ≠ .movement ∧ phase ≠ .contacts) ∨ found.running = false)
    (done : world.runPhases keyboard delta phases = .ok after) :
    Still others world after ∧ (world.Settled → after.Settled) ∧
      ∀ handle, world.Spent others handle → after.Spent others handle := by
  induction phases generalizing world with
  | nil =>
    cases done
    exact ⟨(placed_of_roster rfl).still, id, fun _ gone => gone⟩
  | cons phase rest ih =>
    obtain ⟨next, first, done⟩ := bind_eq_ok done
    obtain ⟨still, settled⟩ := still_runPhase good (idle [] phase rest world rfl rfl) first
    have course := (course_runPhase good first).1
    obtain ⟨stillAfter, settledAfter, spentAfter⟩ := ih (course.sound good) (by
      intro earlier other later found split framed
      refine idle (phase :: earlier) other later found (congrArg (phase :: ·) split) ?_
      rw [runPhases, List.foldlM_cons, first]
      exact framed) done
    exact ⟨still.trans stillAfter spentAfter, settledAfter ∘ settled,
      fun handle gone => spentAfter handle (course.spent gone)⟩

end Arcade.World
