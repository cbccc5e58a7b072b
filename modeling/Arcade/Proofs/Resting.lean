import Arcade.Proofs.Anchorage
import Arcade.Proofs.Bystander
import Arcade.Proofs.Confining
import Arcade.Proofs.Setting
import Arcade.Proofs.Stillness

/-! Bodies that rest on the floor, in exact fractions. Gravity moves such a body into the floor in every
frame, and the floor puts it back where it was and takes its speed; so it stays where it is and counts
as standing, however long the frames are. That a box which only touches the floor is held by it is
what makes this last. -/

namespace Arcade

/-! ### One movement -/

namespace Actor

/-- A movable body without bounce that is held in a space of the given extent, smaller than it, and that
rests on the floor: its lower edge is on it at a height of its center, and it moves neither up nor
down. No keys drive it. -/
structure Resting (extent : Vec Rat) (height : Rat) (actor : Actor Rat Rat) : Prop where
  undriven : actor.controls = none
  fits : Bounds.Fits actor.size.halved extent
  floor : actor.position.y + actor.size.halved.y = extent.y
  height : actor.position.y = height
  body : ∃ body, actor.body = some body ∧ body.movable = true ∧ body.bounded = true ∧
    body.bounce = 0 ∧ body.velocity.y = 0

theorem resting_iff {extent : Vec Rat} {height : Rat} {actor : Actor Rat Rat} :
    actor.Resting extent height ↔ actor.controls.isNone = true ∧
      Bounds.Fits actor.size.halved extent ∧
      actor.position.y + actor.size.halved.y = extent.y ∧ actor.position.y = height ∧
      actor.body.any (fun body => body.movable && body.bounded && decide (body.bounce = 0) &&
        decide (body.velocity.y = 0)) = true := by
  rw [Option.isNone_iff_eq_none, Option.any_eq_true]
  simp only [Bool.and_eq_true, decide_eq_true_eq, and_assoc]
  exact ⟨fun ⟨undriven, fits, floor, height, body⟩ => ⟨undriven, fits, floor, height, body⟩,
    fun ⟨undriven, fits, floor, height, body⟩ => ⟨undriven, fits, floor, height, body⟩⟩

instance (extent : Vec Rat) (height : Rat) (actor : Actor Rat Rat) :
    Decidable (actor.Resting extent height) := decidable_of_iff _ resting_iff.symm

/-- A body stands, and it is in the space or not far out of it. -/
structure Standing (extent : Vec Rat) (actor : Actor Rat Rat) : Prop where
  near : World.outside extent actor.box = false
  grounded : actor.grounded = true

variable {extent : Vec Rat} {height : Rat} {before after actor : Actor Rat Rat}
  {arena : Arena Rat} {seconds : Rat}

theorem Resting.calm (resting : before.Resting extent height) (calm : Calm before after) :
    after.Resting extent height where
  undriven := calm.controls.trans resting.undriven
  fits := by
    rw [calm.size]
    exact resting.fits
  floor := by
    rw [calm.size, calm.position]
    exact resting.floor
  height := by
    rw [calm.position]
    exact resting.height
  body := by
    rw [calm.body]
    exact resting.body

theorem box_of_calm (calm : Calm before after) : after.box = before.box := by
  rw [box, calm.position, calm.size, box]

theorem Standing.calm (standing : before.Standing extent) (calm : Calm before after) :
    after.Standing extent where
  near := by
    rw [box_of_calm calm]
    exact standing.near
  grounded := by
    rw [Actor.grounded, calm.body]
    exact standing.grounded

/-- A box in the space is not out of it. -/
theorem near_of_inside {center half : Vec Rat} (fits : Bounds.Fits half extent)
    (inside : ∀ axis, 0 ≤ center.along axis - half.along axis ∧
      center.along axis + half.along axis ≤ extent.along axis) :
    World.outside extent ⟨center, half⟩ = false := by
  obtain ⟨left, right⟩ : 0 ≤ center.x - half.x ∧ center.x + half.x ≤ extent.x := inside .across
  obtain ⟨top, bottom⟩ : 0 ≤ center.y - half.y ∧ center.y + half.y ≤ extent.y := inside .down
  have wide : 0 ≤ half.x := (fits .across).1
  have tall : 0 ≤ half.y := (fits .down).1
  have highX : ¬ center.x + half.x < -100 := by linarith
  have highY : ¬ center.y + half.y < -100 := by linarith
  have lowX : ¬ extent.x + 100 < center.x - half.x := by linarith
  have lowY : ¬ extent.y + 100 < center.y - half.y := by linarith
  simp only [World.outside, Bool.or_eq_false_iff, decide_eq_false_iff_not]
  exact ⟨⟨⟨highX, highY⟩, lowX⟩, lowY⟩

/-- Under gravity a resting body is put back onto the floor, and it stands. -/
theorem Resting.integrated (resting : actor.Resting extent height) (space : arena.extent = extent)
    (falls : 0 ≤ arena.gravity.y) (forth : 0 ≤ seconds) :
    (actor.integrated arena seconds).Resting extent height ∧
      (actor.integrated arena seconds).Standing extent := by
  obtain ⟨undriven, fits, floor, high, body, has, movable, bounded, bounce, speed⟩ := resting
  let velocity := body.velocity + arena.gravity.scale seconds
  let position := actor.position + velocity.scale seconds
  let outcome := Bounds.resolve position velocity actor.size.halved extent 0
  have moved : actor.integrated arena seconds =
      { actor with
        position := outcome.center
        body := some { body with velocity := outcome.velocity, grounded := outcome.grounded }
        moved := true } := by
    simp only [Actor.integrated, has, movable, bounded, ↓reduceIte, space, bounce]
    rfl
  have pulled : 0 ≤ velocity.y := by
    have fall : velocity.y = arena.gravity.y * seconds := by
      change body.velocity.y + arena.gravity.y * seconds = _
      rw [speed, zero_add]
    rw [fall]
    exact mul_nonneg falls forth
  have sinks : extent.y ≤ position.y + actor.size.halved.y := by
    have lower : position.y = actor.position.y + velocity.y * seconds := rfl
    have further := mul_nonneg pulled forth
    linarith
  have held := Bounds.held_resolve position velocity fits (le_refl 0)
  obtain ⟨place, -, turned⟩ := (held .down).past sinks
  have back : outcome.center.y = actor.position.y := by
    have put : outcome.center.y = extent.y - actor.size.halved.y := place
    linarith
  have stops : outcome.velocity.y = 0 := by
    have kept : outcome.velocity.y = if 0 < velocity.y then velocity.y * -0 else velocity.y := turned
    rw [kept]
    split
    · rw [neg_zero, mul_zero]
    · rename_i slow
      exact le_antisymm (not_lt.mp slow) pulled
  have lands : outcome.grounded = true := (Bounds.grounded_resolve fits).mpr sinks
  rw [moved]
  refine ⟨⟨undriven, fits, ?_, ?_, _, rfl, movable, bounded, bounce, stops⟩,
    near_of_inside fits fun axis => (held axis).inside, ?_⟩
  · change outcome.center.y + actor.size.halved.y = extent.y
    rw [back]
    exact floor
  · exact back.trans high
  · exact lands

end Actor

namespace World

variable [Circular Rat] {world after next later : World Rat Rat} {others : List Handle}
  {handle : Handle} {extent : Vec Rat} {height delta : Rat} {actor : Actor Rat Rat}
  {keyboard : Option (List Key)} {phase : Phase} {session : Session}

/-! ### What stays around the body -/

/-- A game is played in a space in which things fall, if they do, to the floor, and no behavior has to do
with an actor that came in it. -/
structure Undisturbed (others : List Handle) (extent : Vec Rat) (handle : Handle)
    (world : World Rat Rat) : Prop where
  lived : world.Lived others
  session : ∃ session, world.Playing session
  issued : world.Issued others handle
  unsteered : world.Unsteered handle
  space : ∃ gravity : Vec Rat, world.setting.2 = some (extent, gravity) ∧ 0 ≤ gravity.y

theorem space_runPhase (done : world.runPhase keyboard delta phase = .ok after) :
    after.setting.2 = world.setting.2 := by
  by_cases time : phase = .clock
  · subst time
    cases done
    rfl
  · rw [setting_runPhase time done]

theorem Undisturbed.runPhase (calm : world.Undisturbed others extent handle)
    (done : world.runPhase keyboard delta phase = .ok after) :
    after.Undisturbed others extent handle := by
  obtain ⟨session, playing⟩ := calm.session
  have good := calm.lived.sound
  have course := (course_runPhase good done).1
  have issued : World.Issued { world with contacts := after.contacts } others handle := calm.issued
  refine ⟨calm.lived.phase playing.active done,
    ⟨session, playing.of_sameScene (scene_runPhase good done)⟩, issued.course good course, ?_, ?_⟩
  · have free : World.Unsteered handle { world with contacts := after.contacts } := calm.unsteered
    exact free.course issued good course
  · rw [space_runPhase done]
    exact calm.space

theorem Undisturbed.runPhases (calm : world.Undisturbed others extent handle) {phases : List Phase}
    (done : world.runPhases keyboard delta phases = .ok after) :
    after.Undisturbed others extent handle := by
  induction phases generalizing world with
  | nil =>
    cases done
    exact calm
  | cons phase rest ih =>
    obtain ⟨next, first, done⟩ := bind_eq_ok done
    exact ih (calm.runPhase first) done

theorem Undisturbed.step (calm : world.Undisturbed others extent handle)
    (done : world.step keyboard delta = .ok after) : after.Undisturbed others extent handle := by
  obtain ⟨session, playing⟩ := calm.session
  rw [World.step, playing.active] at done
  exact calm.runPhases done

theorem Undisturbed.play (calm : world.Undisturbed others extent handle)
    {frames : List (Option (List Key) × Rat)} (done : world.play frames = .ok after) :
    after.Undisturbed others extent handle := by
  induction frames generalizing world with
  | nil =>
    cases done
    exact calm
  | cons frame rest ih =>
    obtain ⟨next, first, done⟩ := bind_eq_ok done
    exact ih (calm.step first) done

/-! ### One frame -/

/-- When bodies move it is the time of the frame. -/
theorem delta_before_movement {seen : World Rat Rat} {clock : Clock Rat}
    (early : world.runPhases keyboard delta Phase.movement.earlier = .ok seen)
    (found : seen.clock = some clock) : clock.delta = delta := by
  have steps : Phase.movement.earlier =
      .clock :: [.controls, .shots, .behaviors, .spawners, .timers] := rfl
  rw [steps] at early
  obtain ⟨begun, first, early⟩ := bind_eq_ok early
  cases first
  have same := congrArg Prod.fst (setting_runPhases (by decide) early)
  have timed : seen.clock = world.clock.map fun clock => clock.advance delta := same
  rw [found] at timed
  obtain ⟨before, -, rfl⟩ := Option.map_eq_some_iff.mp timed.symm
  rfl

/-- A kind of resting bodies that takes in those that stand, and that a body does not leave by calm
changes. -/
structure Lasting (extent : Vec Rat) (height : Rat) (kind : Actor Rat Rat → Prop) : Prop where
  rests : ∀ {actor}, kind actor → actor.Resting extent height
  calm : ∀ {before after}, kind before → Actor.Calm before after → kind after
  stands : ∀ {actor : Actor Rat Rat}, actor.Resting extent height → actor.Standing extent → kind actor

variable {kind : Actor Rat Rat → Prop}

omit [Circular Rat] in
theorem Lasting.placid (lasting : Lasting extent height kind) : Placid kind :=
  ⟨lasting.calm, fun own => (lasting.rests own).undriven⟩

/-- The body is there and of its kind; or it is gone, which needs a body of the kind that is far out. -/
def Remains (others : List Handle) (extent : Vec Rat) (handle : Handle)
    (kind : Actor Rat Rat → Prop) (world : World Rat Rat) : Prop :=
  (∃ actor, world.roster.find? handle = some actor ∧ kind actor) ∨
    ((∃ actor, kind actor ∧ outside extent actor.box = true) ∧ world.Spent others handle)

/-- Before bodies move nothing is done to a resting body. -/
theorem Lasting.before_movement (lasting : Lasting extent height kind)
    (calm : world.Undisturbed others extent handle)
    (found : world.roster.find? handle = some actor) (own : kind actor)
    {phases : List Phase}
    (early : ∀ phase ∈ phases, phase ∉ [.movement, .contacts, .dispatch, .cleanUp])
    (done : world.runPhases keyboard delta phases = .ok after) :
    ∃ actor, after.roster.find? handle = some actor ∧ kind actor := by
  induction phases generalizing world actor with
  | nil =>
    cases done
    exact ⟨actor, found, own⟩
  | cons phase rest ih =>
    obtain ⟨next, first, done⟩ := bind_eq_ok done
    rw [List.forall_mem_cons] at early
    obtain ⟨here, others⟩ := early
    simp only [List.mem_cons, not_or] at here
    rcases lasting.placid.runPhase calm.lived.sound found own calm.unsteered here.1
      (fun search => absurd search here.2.1) first with ⟨later, found, own⟩ | ⟨leaves, -⟩
    · exact ih (calm.runPhase first) found own others done
    · cases phase with
      | dispatch => exact absurd rfl here.2.2.1
      | cleanUp => exact absurd rfl here.2.2.2.1
      | _ => exact leaves.elim

/-- Movement puts a resting body back to where it is. -/
theorem Lasting.integrate (lasting : Lasting extent height kind)
    (calm : world.Undisturbed others extent handle)
    (found : world.roster.find? handle = some actor) (own : kind actor) (forth : 0 ≤ delta)
    (timed : ∀ clock, world.clock = some clock → clock.delta = delta) :
    ∃ actor, world.integrate.roster.find? handle = some actor ∧ kind actor ∧
      (world.running = true → actor.Resting extent height ∧ actor.Standing extent) := by
  by_cases running : world.running = true
  · obtain ⟨gravity, space, falls⟩ := calm.space
    obtain ⟨arena, fenced, same⟩ := Option.map_eq_some_iff.mp space
    obtain ⟨rfl, rfl⟩ := Prod.mk.inj same
    obtain ⟨session, playing⟩ := calm.session
    obtain ⟨clock, ticks⟩ := Option.isSome_iff_exists.mp (playing.parts .clock)
    have active : arena.running = true := by
      rwa [World.running, fenced, Option.any_some] at running
    let seconds : Rat := clock.delta / 1000
    have moved : world.integrate =
        { world with roster := world.roster.map (Actor.integrated arena seconds) } := by
      simp only [World.integrate, fenced, ticks, active, ↓reduceIte]
      rfl
    have later : 0 ≤ seconds := by
      change 0 ≤ clock.delta / 1000
      rw [timed clock ticks]
      exact div_nonneg forth (by norm_num)
    obtain ⟨rests, stands⟩ := (lasting.rests own).integrated rfl falls later
    refine ⟨actor.integrated arena seconds, ?_, lasting.stands rests stands, fun _ => ⟨rests, stands⟩⟩
    rw [moved]
    change (world.roster.map (Actor.integrated arena seconds)).find? handle = _
    rw [Roster.find?_map fun actor => (keeps_integrated arena seconds actor).1, found,
      Option.map_some]
  · rw [integrate_of_halted (Bool.eq_false_iff.mpr running)]
    exact ⟨actor, found, own, fun runs => absurd runs running⟩

/-- After movement a resting body is removed only where it is far out of the space. -/
theorem Lasting.after_movement (lasting : Lasting extent height kind)
    (calm : world.Undisturbed others extent handle)
    (found : world.roster.find? handle = some actor) (own : kind actor)
    (unmet : world.detect.Unmet handle) :
    Remains others extent handle kind world.detect.dispatch.cleanUp := by
  have searched : world.runPhase none 0 .contacts = .ok world.detect := rfl
  have served : world.detect.runPhase none 0 .dispatch = .ok world.detect.dispatch := rfl
  have cleaned : world.detect.dispatch.runPhase none 0 .cleanUp =
      .ok world.detect.dispatch.cleanUp := rfl
  have serving : Phase.dispatch ≠ .contacts := by decide
  have cleaning : Phase.cleanUp ≠ .contacts := by decide
  have calmMet := calm.runPhase searched
  have calmServed := calmMet.runPhase served
  rcases lasting.placid.runPhase calm.lived.sound found own calm.unsteered (by decide)
    (fun _ => unmet) searched with ⟨met, foundMet, ownMet⟩ | ⟨leaves, -⟩
  · rcases lasting.placid.runPhase calmMet.lived.sound foundMet ownMet calmMet.unsteered (by decide)
      (fun search => absurd search serving) served with ⟨last, foundLast, ownLast⟩ | ⟨leaves, -⟩
    · rcases lasting.placid.runPhase calmServed.lived.sound foundLast ownLast calmServed.unsteered
        (by decide) (fun search => absurd search cleaning) cleaned with there | ⟨leaves, gone⟩
      · exact .inl there
      · obtain ⟨arena, astray, fenced, foundAstray, -, out⟩ := leaves
        rw [foundLast] at foundAstray
        cases foundAstray
        obtain ⟨gravity, space, -⟩ := calmServed.space
        rw [setting, fenced] at space
        cases space
        exact .inr ⟨⟨last, ownLast, out⟩, gone⟩
    · obtain ⟨contact, waiting, second⟩ := leaves
      exact absurd second (unmet contact waiting).2
  · exact leaves.elim

/-- The arena runs when bodies move in the next frame. -/
def Runs (world : World Rat Rat) (keyboard : Option (List Key)) (delta : Rat) : Prop :=
  ∃ seen, world.runPhases keyboard delta Phase.movement.earlier = .ok seen ∧ seen.running = true

/-- No contact that is served in the next frame is one of the actor. -/
def LeavesOut (world : World Rat Rat) (handle : Handle) (keyboard : Option (List Key))
    (delta : Rat) : Prop :=
  ∀ met, world.runPhases keyboard delta Phase.dispatch.earlier = .ok met → met.Unmet handle

omit [Circular Rat] in
theorem lasting_standing : Lasting extent height fun actor =>
    actor.Resting extent height ∧ actor.Standing extent :=
  ⟨And.left, fun own calm => ⟨own.1.calm calm, own.2.calm calm⟩, fun rests stands => ⟨rests, stands⟩⟩

/-- What a frame leaves of a resting body, and that it stands after a frame that runs. -/
theorem Lasting.step (lasting : Lasting extent height kind)
    (calm : world.Undisturbed others extent handle)
    (found : world.roster.find? handle = some actor) (own : kind actor) (forth : 0 ≤ delta)
    (apart : world.LeavesOut handle keyboard delta)
    (done : world.step keyboard delta = .ok next) :
    Remains others extent handle kind next ∧ (world.Runs keyboard delta →
      ∃ actor, next.roster.find? handle = some actor ∧
        actor.Resting extent height ∧ actor.Standing extent) := by
  obtain ⟨session, playing⟩ := calm.session
  obtain ⟨seen, early, met, rfl⟩ := split_step playing.active done
  obtain ⟨first, foundFirst, ownFirst⟩ :=
    lasting.before_movement calm found own (by decide) early
  have calmSeen := calm.runPhases early
  have moves : seen.runPhase keyboard delta .movement = .ok seen.integrate := rfl
  have calmMoved := calmSeen.runPhase moves
  obtain ⟨moved, foundMoved, ownMoved, lands⟩ := lasting.integrate calmSeen foundFirst ownFirst
    forth fun clock ticks => delta_before_movement early ticks
  have unmet := apart _ met
  refine ⟨lasting.after_movement calmMoved foundMoved ownMoved unmet, ?_⟩
  rintro ⟨same, again, running⟩
  rw [early] at again
  cases again
  rcases lasting_standing.after_movement calmMoved foundMoved (lands running) unmet with
    there | ⟨⟨astray, ⟨-, stands⟩, out⟩, -⟩
  · exact there
  · rw [stands.near] at out
    cases out

/-! ### All frames -/

/-- In none of the frames a contact of the actor is served. -/
def Alone (handle : Handle) : World Rat Rat → List (Option (List Key) × Rat) → Prop
  | _, [] => True
  | world, frame :: rest => world.LeavesOut handle frame.1 frame.2 ∧
      ∀ next, world.step frame.1 frame.2 = .ok next → Alone handle next rest

instance (handle : Handle) (world : World Rat Rat) : Decidable (world.Unmet handle) :=
  inferInstanceAs (Decidable (∀ _ ∈ _, _))

instance (world : World Rat Rat) (handle : Handle) (keyboard : Option (List Key)) (delta : Rat) :
    Decidable (world.LeavesOut handle keyboard delta) :=
  match found : world.runPhases keyboard delta Phase.dispatch.earlier with
  | .ok met => decidable_of_iff (met.Unmet handle) (by simp [LeavesOut, found])
  | .error _ => isTrue (by simp [LeavesOut, found])

instance decidableAlone (handle : Handle) :
    (world : World Rat Rat) → (frames : List (Option (List Key) × Rat)) →
      Decidable (world.Alone handle frames)
  | _, [] => isTrue trivial
  | world, frame :: rest =>
    match found : world.step frame.1 frame.2 with
    | .ok next =>
      have := decidableAlone handle next rest
      decidable_of_iff (world.LeavesOut handle frame.1 frame.2 ∧ next.Alone handle rest)
        (by simp [Alone, found])
    | .error _ => decidable_of_iff (world.LeavesOut handle frame.1 frame.2) (by simp [Alone, found])

/-- What frames leave of a resting body. -/
theorem Lasting.play (lasting : Lasting extent height kind)
    (calm : world.Undisturbed others extent handle) (remains : Remains others extent handle kind world)
    {frames : List (Option (List Key) × Rat)} (forth : ∀ frame ∈ frames, 0 ≤ frame.2)
    (alone : world.Alone handle frames) (done : world.play frames = .ok later) :
    Remains others extent handle kind later := by
  induction frames generalizing world with
  | nil =>
    cases done
    exact remains
  | cons frame rest ih =>
    obtain ⟨next, first, done⟩ := bind_eq_ok done
    rw [List.forall_mem_cons] at forth
    obtain ⟨apart, alone⟩ := alone
    refine ih (calm.step first) ?_ forth.2 (alone next first) done
    rcases remains with ⟨actor, found, own⟩ | ⟨astray, gone⟩
    · exact (lasting.step calm found own forth.1 apart first).1
    · have reached := Later.step .refl calm.lived.sound first
      exact .inr ⟨astray, reached.spent calm.lived.sound gone⟩

/-- What becomes of a body that rests on the floor, in a game that goes on. -/
structure KeepsRest (handle : Handle) (extent : Vec Rat) (height : Rat) (world : World Rat Rat) :
    Prop where
  /-- As long as it is there it is where it was, and it moves neither up nor down. -/
  still : ∀ (frames : List (Option (List Key) × Rat)) (later : World Rat Rat),
    (∀ frame ∈ frames, 0 ≤ frame.2) → world.Alone handle frames → world.play frames = .ok later →
    ∀ actor, later.roster.find? handle = some actor → actor.Resting extent height
  /-- In a frame that runs it is found to stand, and from then on it is there and stands. -/
  stands : ∀ (first rest : List (Option (List Key) × Rat)) (keyboard : Option (List Key)) (delta : Rat)
    (seen later : World Rat Rat), (∀ frame ∈ first ++ (keyboard, delta) :: rest, 0 ≤ frame.2) →
    world.Alone handle (first ++ (keyboard, delta) :: rest) → world.play first = .ok seen →
    seen.alive handle = true → seen.Runs keyboard delta →
    world.play (first ++ (keyboard, delta) :: rest) = .ok later →
    ∃ actor, later.roster.find? handle = some actor ∧ actor.Resting extent height ∧
      actor.grounded = true
  /-- If it is not far out of the space at its sides it is there all the time. -/
  stays : ∀ (frames : List (Option (List Key) × Rat)) (later : World Rat Rat),
    (∀ frame ∈ frames, 0 ≤ frame.2) → world.Alone handle frames → world.play frames = .ok later →
    (∀ actor, world.roster.find? handle = some actor → outside extent actor.box = false) →
    later.alive handle = true

omit [Circular Rat] in
theorem lasting_resting : Lasting extent height (Actor.Resting extent height) :=
  ⟨id, fun rests calm => rests.calm calm, fun rests _ => rests⟩

omit [Circular Rat] in
theorem lasting_near : Lasting extent height fun actor =>
    actor.Resting extent height ∧ outside extent actor.box = false :=
  ⟨And.left, fun own calm => ⟨own.1.calm calm, (congrArg _ (Actor.box_of_calm calm)).trans own.2⟩,
    fun rests stands => ⟨rests, stands.near⟩⟩

omit [Circular Rat] in
theorem Remains.there (remains : Remains others extent handle kind world)
    (near : ∀ actor, kind actor → outside extent actor.box = false) :
    ∃ actor, world.roster.find? handle = some actor ∧ kind actor := by
  rcases remains with there | ⟨⟨actor, own, out⟩, -⟩
  · exact there
  · rw [near actor own] at out
    cases out

theorem alone_append {first rest : List (Option (List Key) × Rat)}
    (alone : world.Alone handle (first ++ rest)) (done : world.play first = .ok next) :
    world.Alone handle first ∧ next.Alone handle rest := by
  induction first generalizing world with
  | nil =>
    cases done
    exact ⟨trivial, alone⟩
  | cons frame others ih =>
    obtain ⟨second, step, done⟩ := bind_eq_ok done
    have step : world.step frame.1 frame.2 = .ok second := step
    obtain ⟨apart, alone⟩ := alone
    refine ⟨⟨apart, fun other same => ?_⟩, (ih (alone second step) done).2⟩
    rw [step] at same
    cases same
    exact (ih (alone second step) done).1

theorem keepsRest (calm : world.Undisturbed others extent handle)
    (found : world.roster.find? handle = some actor) (rests : actor.Resting extent height) :
    world.KeepsRest handle extent height where
  still frames later forth alone done actor there := by
    rcases lasting_resting.play calm (.inl ⟨_, found, rests⟩) forth alone done with
      ⟨other, same, rests⟩ | ⟨-, gone⟩
    · rw [there] at same
      cases same
      exact rests
    · have nobody := gone.find?_eq_none
      rw [there] at nobody
      cases nobody
  stands first rest keyboard delta seen later forth alone reached there runs done := by
    rw [List.forall_mem_append, List.forall_mem_cons] at forth
    obtain ⟨aloneFirst, apart, aloneRest⟩ := alone_append alone reached
    rw [play, List.foldlM_append] at done
    obtain ⟨same, again, done⟩ := bind_eq_ok done
    have same : seen = same := Except.ok.inj (reached.symm.trans again)
    subst same
    obtain ⟨next, step, done⟩ := bind_eq_ok done
    have calmSeen := calm.play reached
    rcases lasting_resting.play calm (.inl ⟨_, found, rests⟩) forth.1 aloneFirst reached with
      ⟨resting, foundSeen, rests⟩ | ⟨-, gone⟩
    · have landed := (lasting_resting.step calmSeen foundSeen rests forth.2.1 apart step).2 runs
      obtain ⟨last, foundLast, rests, stands⟩ := (lasting_standing.play (calmSeen.step step)
        (.inl landed) forth.2.2 (aloneRest next step) done).there fun _ own => own.2.near
      exact ⟨last, foundLast, rests, stands.grounded⟩
    · rw [gone.not_alive] at there
      cases there
  stays frames later forth alone done near := by
    obtain ⟨last, foundLast, -⟩ := (lasting_near.play calm
      (.inl ⟨_, found, rests, near _ found⟩) forth alone done).there fun _ => And.right
    rw [alive, Roster.contains, foundLast]
    rfl

end World

/-- A box that is smaller than the world is put back inside it, each axis by itself: where it did not
reach a wall nothing changes, at a wall only a velocity that led out is turned, it is told just then
that the box is on the floor when it is at the floor or below it, and the second time nothing changes.
So a body without bounce that rests on the floor stays where it is and stands in every frame that
runs, however long the frames are, as long as nothing is done to it. -/
theorem Bounds.keeps_inside [Circular Rat] :
    (∀ (center velocity half limits : Vec Rat) (bounce : Rat), Fits half limits → 0 ≤ bounce →
      let outcome := resolve center velocity half limits bounce
      (∀ axis, Held center velocity half limits bounce axis outcome) ∧
        (outcome.grounded = true ↔ limits.y ≤ center.y + half.y) ∧
        resolve outcome.center outcome.velocity half limits bounce = outcome) ∧
    ∀ (others : List Handle) (world : World Rat Rat) (session : Session) (arena : Arena Rat)
      (handle : Handle) (actor : Actor Rat Rat), world.Lived others → world.playing = some session →
      world.arena = some arena → 0 ≤ arena.gravity.y → world.Unsteered handle →
      world.roster.find? handle = some actor → actor.Resting arena.extent actor.position.y →
      world.KeepsRest handle arena.extent actor.position.y := by
  constructor
  · intro center velocity half limits bounce fits springy
    exact ⟨held_resolve center velocity fits springy, grounded_resolve fits, resolve_resolve fits springy⟩
  · intro others world session arena handle actor lived playing fenced falls free found rests
    have whole : ∃ session, world.Playing session := by
      refine lived.whole.resolve_right fun idle => ?_
      rw [idle.inactive] at playing
      cases playing
    have there : world.alive handle = true := by
      rw [World.alive, Roster.contains, found]
      rfl
    refine World.keepsRest ⟨lived, whole, .inl there, free, arena.gravity, ?_, falls⟩ found rests
    rw [World.setting, fenced]
    rfl

namespace Sample

/-- A crate on the floor of a world in which things fall. -/
def store : Spec Rat where
  title := "Store"
  description := ""
  settings := ⟨800, 600, "", ⟨true, ⟨0, 100⟩, false⟩⟩
  assets := []
  scenes := [{
    name := "main"
    objects := [block "crate" 50 595 ⟨.dynamic, none, some true, none⟩]
    logic := none }]
  controlsDescription := []
  keyConcepts := []

end Sample

/-- A box under the floor is put back onto it, and a crate that lies there stays there. -/
theorem Bounds.keeps_inside_crate :
    (resolve (⟨400, 598⟩ : Vec Rat) ⟨3, 4⟩ ⟨5, 5⟩ ⟨800, 600⟩ (1 / 2)).grounded = true ∧
    ∃ (_ : Circular Rat) (cabinet : Cabinet Rat Rat) (handle : Handle) (actor : Actor Rat Rat)
      (later : World Rat Rat),
      (Cabinet.new Sample.entropy none (Option.map Screen.start none)).run [.start Sample.store .default] =
          .ok cabinet ∧
        cabinet.world.handle? "crate" = some handle ∧
        cabinet.world.play [(none, 25), (some [.space], 500)] = .ok later ∧
        later.roster.find? handle = some actor ∧ actor.position.y = 595 ∧ actor.grounded = true := by
  let _ : Circular Rat := Sample.compass
  obtain ⟨walls, floor⟩ := keeps_inside
  constructor
  · have lower := (walls ⟨400, 598⟩ ⟨3, 4⟩ ⟨5, 5⟩ ⟨800, 600⟩ (1 / 2) (by decide +kernel)
      (by decide +kernel)).2.1
    exact lower.mpr (by decide +kernel)
  refine ⟨Sample.compass, ?_⟩
  let rest : List (Option (List Key) × Rat) := [(some [.space], 500)]
  have fine : ((Cabinet.new Sample.entropy none (Option.map Screen.start none) : Cabinet Rat Rat).run
      [.start Sample.store .default]).toOption.any (fun cabinet =>
        cabinet.world.playing.isSome && cabinet.world.behaviors.entries.isEmpty &&
        (cabinet.world.handle? "crate").any fun handle =>
          (cabinet.world.arena.any fun arena => decide (0 ≤ arena.gravity.y) &&
            (cabinet.world.roster.find? handle).any fun actor =>
              decide (actor.Resting arena.extent 595)) &&
          decide (cabinet.world.Alone handle ((none, 25) :: rest)) &&
          ((cabinet.world.runPhases none 25 Phase.movement.earlier).toOption.any World.running &&
            (cabinet.world.play ((none, 25) :: rest)).isOk)) = true := by
    decide +kernel
  obtain ⟨cabinet, ran, fine⟩ := exists_ok_of_any fine
  simp only [Bool.and_eq_true, Option.any_eq_true, decide_eq_true_eq] at fine
  obtain ⟨⟨active, tame⟩, handle, meant, ⟨⟨arena, fenced, falls, crate, found, rests⟩, alone⟩, runs,
    played⟩ := fine
  obtain ⟨session, playing⟩ := Option.isSome_iff_exists.mp active
  have free : cabinet.world.Unsteered handle := by
    intro id _
    cases behaves : cabinet.world.behaviors.get? id with
    | none => rfl
    | some assignment =>
      have listed := (cabinet.world.behaviors.mem_entries_iff id assignment).mpr behaves
      rw [List.isEmpty_iff.mp tame] at listed
      cases listed
  have high := rests.height
  have kept := floor cabinet.held cabinet.world session arena handle crate (Cabinet.alive_of_run ran)
    playing fenced falls free found (by rwa [high])
  have runs : cabinet.world.Runs none 25 := exists_ok_of_any ((Option.any_eq_true _ _).mpr runs)
  obtain ⟨later, done⟩ := eq_ok_of_isOk played
  have there : cabinet.world.alive handle = true := by
    rw [World.alive, Roster.contains, found]
    rfl
  obtain ⟨last, foundLast, still, stands⟩ := kept.stands [] rest none 25 cabinet.world later
    (by decide +kernel) alone rfl there runs done
  exact ⟨cabinet, handle, last, later, ran, meant, done, foundLast, still.height.trans high, stands⟩

end Arcade
