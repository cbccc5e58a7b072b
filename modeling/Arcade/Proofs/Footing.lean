import Arcade.Proofs.Anchorage
import Arcade.Proofs.Aspect
import Arcade.Proofs.Bookkeeping
import Arcade.Proofs.Census
import Arcade.Proofs.Chronicle
import Arcade.Proofs.Copying
import Arcade.Proofs.Grouping
import Arcade.Proofs.Stillness
import Mathlib.Algebra.Order.Field.Rat

/-! Who stands on something. Each time bodies move and meet it is found out anew: a body stands when it
was put back onto the floor or when another body pushed it upwards. Until bodies move again nothing
else touches what was found; and only who stands can jump. -/

namespace Arcade

variable {S T : Type}

/-! ### Pushes -/

/-- A push that an actor gets from another when the two meet by a rule. -/
structure Push (S : Type) where
  binding : Nat
  pushed : Handle
  other : Handle
  shift : Vec S

section

variable [Scalar S]

/-- A push that is one, and that goes up. -/
def Push.Upward (push : Push S) : Prop := push.shift.isZero = false ∧ push.shift.y < 0

/-- In exact numbers whatever goes up is a push. -/
theorem Push.upward_iff (push : Push Rat) : push.Upward ↔ push.shift.y < 0 := by
  refine ⟨And.right, fun up => ⟨?_, up⟩⟩
  rw [Vec.isZero, Bool.and_eq_false_iff]
  exact .inr (beq_eq_false_iff_ne.mpr (ne_of_lt up))

namespace Roster

/-- Let an actor have a push. -/
def shove (roster : Roster S T) (push : Push S) : Roster S T :=
  roster.modify push.pushed (·.pushed push.shift)

/-- Pushes that are found one after the other, each with the actors as the earlier ones left them. -/
def walk {α : Type} (each : Roster S T → α → List (Push S)) : Roster S T → List α → List (Push S)
  | _, [] => []
  | roster, item :: rest =>
    let pushes := each roster item
    pushes ++ walk each (pushes.foldl shove roster) rest

end Roster

namespace World

/-- The pushes of two actors that met. -/
def partings (kind : Contact.Kind) (index : Nat) (first second : Actor S T) : List (Push S) :=
  match kind, first.body, second.body with
  | .collision, some a, some b =>
    match Box.separate first.box second.box a.movable b.movable with
    | some (pushFirst, pushSecond) =>
      [⟨index, first.handle, second.handle, pushFirst⟩, ⟨index, second.handle, first.handle, pushSecond⟩]
    | none => []
  | _, _, _ => []

/-- The pushes of one pair. -/
def meeting (kind : Contact.Kind) (index : Nat) (roster : Roster S T) (pair : Handle × Handle) :
    List (Push S) :=
  match roster.find? pair.1, roster.find? pair.2 with
  | some first, some second =>
    if first.box.overlaps second.box then partings kind index first second else []
  | _, _ => []

/-- The pushes of one rule. -/
def bindingPushes (registry : Registry S T) (roster : Roster S T) (entry : Binding × Nat) :
    List (Push S) :=
  roster.walk (meeting entry.1.kind entry.2)
    (candidatePairs (registry.sideMembers entry.1.first) (registry.sideMembers entry.1.second)
      (entry.1.first = entry.1.second))

/-- The pushes of all rules for collisions, while the arena runs. -/
def pushes (world : World S T) : List (Push S) :=
  match world.arena, world.registry, world.bindings, world.contacts with
  | some arena, some registry, some bindings, some _ =>
    if arena.running then world.roster.walk (bindingPushes registry) bindings.zipIdx else []
  | _, _, _, _ => []

theorem parted_eq (roster : Roster S T) (kind : Contact.Kind) (index : Nat)
    (first second : Actor S T) :
    parted roster kind first second = (partings kind index first second).foldl Roster.shove roster := by
  cases kind with
  | overlap => simp only [parted, partings, List.foldl_nil]
  | collision =>
    rcases Option.eq_none_or_eq_some first.body with missing | ⟨a, bodyFirst⟩
    · simp only [parted, partings, missing, List.foldl_nil]
    rcases Option.eq_none_or_eq_some second.body with missing | ⟨b, bodySecond⟩
    · simp only [parted, partings, bodyFirst, missing, List.foldl_nil]
    simp only [parted, partings, bodyFirst, bodySecond]
    cases Box.separate first.box second.box a.movable b.movable with
    | none => rfl
    | some shifts => rfl

theorem meet_eq (kind : Contact.Kind) (index : Nat) (state : Roster S T × List Contact)
    (pair : Handle × Handle) :
    (meet kind index state pair).1 = (meeting kind index state.1 pair).foldl Roster.shove state.1 := by
  rcases Option.eq_none_or_eq_some (state.1.find? pair.1) with missing | ⟨first, found⟩
  · simp only [meet, meeting, missing, List.foldl_nil]
  rcases Option.eq_none_or_eq_some (state.1.find? pair.2) with missing | ⟨second, there⟩
  · simp only [meet, meeting, found, missing, List.foldl_nil]
  simp only [meet, meeting, found, there]
  split
  · exact parted_eq state.1 kind index first second
  · rfl

theorem foldl_walk {α : Type} {each : Roster S T → α → List (Push S)}
    {change : Roster S T × List Contact → α → Roster S T × List Contact}
    (same : ∀ state item, (change state item).1 = (each state.1 item).foldl Roster.shove state.1)
    (items : List α) (state : Roster S T × List Contact) :
    (items.foldl change state).1 = (state.1.walk each items).foldl Roster.shove state.1 := by
  induction items generalizing state with
  | nil => rfl
  | cons item rest ih => rw [List.foldl_cons, ih, same, Roster.walk, List.foldl_append]

/-- Finding contacts changes actors by pushes, and by nothing else. -/
theorem roster_detect (world : World S T) :
    world.detect.roster = world.pushes.foldl Roster.shove world.roster := by
  have each (registry : Registry S T) (state : Roster S T × List Contact) (entry : Binding × Nat) :
      (detectBinding registry state entry).1 =
        (bindingPushes registry state.1 entry).foldl Roster.shove state.1 :=
    foldl_walk (meet_eq _ _) _ _
  rcases Option.eq_none_or_eq_some world.arena with missing | ⟨arena, first⟩
  · simp only [detect, pushes, missing, List.foldl_nil]
  rcases Option.eq_none_or_eq_some world.registry with missing | ⟨registry, second⟩
  · simp only [detect, pushes, first, missing, List.foldl_nil]
  rcases Option.eq_none_or_eq_some world.bindings with missing | ⟨bindings, third⟩
  · simp only [detect, pushes, first, second, missing, List.foldl_nil]
  rcases Option.eq_none_or_eq_some world.contacts with missing | ⟨contacts, fourth⟩
  · simp only [detect, pushes, first, second, third, missing, List.foldl_nil]
  simp only [detect, pushes, first, second, third, fourth]
  by_cases running : arena.running = true
  · simp only [running, ↓reduceIte]
    exact foldl_walk (each registry) bindings.zipIdx (world.roster, contacts)
  · simp only [running, ↓reduceIte, List.foldl_nil, Bool.false_eq_true]

end World

/-! ### Who stands -/

namespace Actor

/-- The walls report that a body is on the floor when it moves for some time. -/
def OnFloor (arena : Arena S) (seconds : S) (actor : Actor S T) : Prop :=
  ∃ body, actor.body = some body ∧ body.movable = true ∧ body.bounded = true ∧
    let velocity := body.velocity + arena.gravity.scale seconds
    (Bounds.resolve (actor.position + velocity.scale seconds) velocity actor.size.halved arena.extent
      body.bounce).grounded = true

omit [Scalar S] in
/-- Whether an actor can be moved, and whether it stands. -/
def stance (actor : Actor S T) : Bool × Bool := (actor.movable, actor.grounded)

/-- Whoever moves stands if the floor is reported, whatever was before. -/
theorem grounded_integrated (arena : Arena S) (seconds : S) (actor : Actor S T) :
    (actor.integrated arena seconds).grounded = true ↔ actor.OnFloor arena seconds := by
  unfold integrated OnFloor
  split
  · rename_i missing
    rw [grounded, missing]
    simp
  · rename_i body has
    rw [has]
    split
    · rename_i free
      simp only [grounded, Option.any_some, Option.some.injEq, exists_eq_left']
      split
      · rename_i bounded
        simp [free, bounded]
      · rename_i unbounded
        simp [unbounded]
    · rename_i fixed
      simp [grounded, fixed]

theorem movable_pushed (push : Vec S) (actor : Actor S T) :
    (actor.pushed push).movable = actor.movable := by
  rw [movable_eq_mobility?, mobility_pushed, ← movable_eq_mobility?]

/-- Whoever is pushed stands if it stood or if the push goes up. -/
theorem stands_pushed {actor : Actor S T} (movable : actor.movable = true) (push : Push S) :
    (actor.pushed push.shift).grounded = true ↔ actor.grounded = true ∨ push.Upward := by
  obtain ⟨body, has, -⟩ := (Option.any_eq_true _ _).mp movable
  unfold pushed Push.Upward
  split
  · rename_i nothing
    simp [grounded, nothing]
  · rename_i something
    simp [grounded, has, Body.pushed, something]

end Actor

namespace Roster

/-- Pushes leave a movable actor there; it stands if it stood or if one of its pushes goes up. -/
theorem find?_shoves {roster : Roster S T} {handle : Handle} {actor : Actor S T}
    (found : roster.find? handle = some actor) (movable : actor.movable = true)
    (pushes : List (Push S)) :
    ∃ later, (pushes.foldl shove roster).find? handle = some later ∧ later.movable = true ∧
      (later.grounded = true ↔
        actor.grounded = true ∨ ∃ push ∈ pushes, push.pushed = handle ∧ push.Upward) := by
  induction pushes generalizing roster actor with
  | nil => exact ⟨actor, found, movable, by simp⟩
  | cons push rest ih =>
    have next := roster.find?_modify (fun actor => (World.keeps_pushed push.shift actor).1)
      push.pushed handle
    rw [found] at next
    rw [List.foldl_cons]
    by_cases own : push.pushed = handle
    · rw [if_pos own] at next
      have free := (Actor.movable_pushed push.shift actor).trans movable
      obtain ⟨later, there, still, stands⟩ := ih next free
      refine ⟨later, there, still, ?_⟩
      rw [stands, Actor.stands_pushed movable, List.exists_mem_cons_iff, or_assoc]
      simp only [own, true_and]
    · rw [if_neg own] at next
      obtain ⟨later, there, still, stands⟩ := ih next movable
      refine ⟨later, there, still, ?_⟩
      rw [stands, List.exists_mem_cons_iff]
      simp only [own, false_and, false_or]

/-- Pushes that are found on a walk are found with the actors that are there. -/
theorem mem_walk {α : Type} {each : Roster S T → α → List (Push S)} {roster : Roster S T}
    {items : List α} {push : Push S} (member : push ∈ roster.walk each items) :
    ∃ (earlier : Roster S T) (item : α), push ∈ each earlier item ∧ earlier.handles = roster.handles := by
  have shoved (pushes : List (Push S)) (roster : Roster S T) :
      (pushes.foldl shove roster).handles = roster.handles := by
    induction pushes generalizing roster with
    | nil => rfl
    | cons push rest ih =>
      rw [List.foldl_cons, ih]
      exact handles_modify (fun actor => (World.keeps_pushed push.shift actor).1) push.pushed
  induction items generalizing roster with
  | nil => cases member
  | cons item rest ih =>
    rcases List.mem_append.mp member with now | later
    · exact ⟨roster, item, now, rfl⟩
    · obtain ⟨earlier, other, found, same⟩ := ih later
      exact ⟨earlier, other, found, same.trans (shoved _ roster)⟩

end Roster

/-! ### Moving and meeting -/

namespace World

variable [Scalar T] [Rounding T S] {world : World S T} {handle : Handle}

/-- In this world, where bodies are about to move, the floor will be reported for an actor. -/
def OnFloor (world : World S T) (handle : Handle) : Prop :=
  ∃ arena clock actor, world.arena = some arena ∧ world.clock = some clock ∧
    world.roster.find? handle = some actor ∧
    actor.OnFloor arena (Rounding.coarse (clock.delta / 1000) : S)

/-- When bodies move in this world and meet then, an actor is put back onto the floor, or another one
pushes it upwards. -/
def Lifts (world : World S T) (handle : Handle) : Prop :=
  world.OnFloor handle ∨ ∃ push ∈ world.integrate.pushes, push.pushed = handle ∧ push.Upward

/-- Whoever moved and met others stands if this is so, and only then. -/
theorem stands_iff_lifts (running : world.running = true) (ticking : world.clock.isSome = true)
    {actor : Actor S T} (found : world.integrate.detect.roster.find? handle = some actor)
    (movable : actor.movable = true) : actor.grounded = true ↔ world.Lifts handle := by
  obtain ⟨arena, there, goes⟩ := (Option.any_eq_true _ _).mp running
  obtain ⟨clock, ticks⟩ := Option.isSome_iff_exists.mp ticking
  let seconds : S := Rounding.coarse (clock.delta / 1000)
  have moved : world.integrate =
      { world with roster := world.roster.map (Actor.integrated arena seconds) } := by
    simp only [integrate, there, ticks, goes, ↓reduceIte]
    rfl
  -- the actor was there, and it could be moved, before it met others
  have seen := congrFun (sameAspect_detect (fun actor push => Actor.movable_pushed push actor)
    world.integrate) handle
  rw [aspect?, found] at seen
  obtain ⟨middle, here, free⟩ := Option.map_eq_some_iff.mp seen.symm
  obtain ⟨later, known, -, stands⟩ :=
    Roster.find?_shoves here (free.trans movable) world.integrate.pushes
  rw [← roster_detect, found] at known
  cases known
  rw [stands, Lifts]
  refine or_congr_left ?_
  rw [moved, Roster.find?_map fun actor => (keeps_integrated arena seconds actor).1] at here
  obtain ⟨first, origin, rfl⟩ := Option.map_eq_some_iff.mp here
  rw [Actor.grounded_integrated]
  constructor
  · exact fun onFloor => ⟨arena, clock, first, there, ticks, origin, onFloor⟩
  · rintro ⟨arena', clock', first', there', ticks', origin', onFloor⟩
    rw [there] at there'
    rw [ticks] at ticks'
    rw [origin] at origin'
    cases there'
    cases ticks'
    cases origin'
    exact onFloor

omit [Scalar T] [Rounding T S] in
theorem contains_of_meeting {kind : Contact.Kind} {index : Nat} {roster : Roster S T}
    {pair : Handle × Handle} {push : Push S} (member : push ∈ meeting kind index roster pair) :
    roster.contains push.pushed = true := by
  have there {handle : Handle} {actor : Actor S T} (found : roster.find? handle = some actor) :
      roster.contains actor.handle = true := by
    have own : actor.handle = handle := by simpa using List.find?_some found
    rw [own, Roster.contains, found]
    rfl
  unfold meeting at member
  split at member
  · rename_i first second foundFirst foundSecond
    split at member
    · unfold partings at member
      split at member
      · split at member
        · rcases List.mem_pair.mp member with rfl | rfl
          · exact there foundFirst
          · exact there foundSecond
        · cases member
      · cases member
    · cases member
  · cases member

omit [Scalar T] [Rounding T S] in
/-- Pushes are for who is there. -/
theorem alive_of_pushes {push : Push S} (member : push ∈ world.pushes) :
    world.alive push.pushed = true := by
  unfold pushes at member
  split at member
  · split at member
    · obtain ⟨roster, entry, member, same⟩ := Roster.mem_walk member
      obtain ⟨earlier, pair, member, still⟩ := Roster.mem_walk member
      have here := contains_of_meeting member
      rw [alive, ← Roster.mem_handles_iff, ← same, ← still, Roster.mem_handles_iff]
      exact here
    · cases member
  · cases member

theorem alive_of_lifts (lifts : world.Lifts handle) : world.alive handle = true := by
  rcases lifts with ⟨_, _, actor, -, -, found, -⟩ | ⟨push, member, rfl, -⟩
  · rw [alive, Roster.contains, found]
    rfl
  · let blind (_ : Actor S T) := ()
    have same : SameAspect blind world world.integrate := sameAspect_integrate (fun _ _ _ => rfl) world
    rw [← same.alive]
    exact alive_of_pushes member

end World

end

/-! ### Jumping -/

section

variable [Scalar S] [Scalar T]

omit [Scalar T] in
/-- But for who jumps, velocities are as if nobody held the key for it. -/
theorem Controls.drive_eq (controls : Controls S T) (held : Held) (grounded : Bool)
    (velocity : Vec S) :
    controls.drive held grounded velocity =
      let calm := controls.drive { held with jump := false } false velocity
      if held.jump && grounded then ⟨calm.x, -controls.jumpVelocity⟩ else calm := by
  simp only [drive, driveAcross, driveDown, Bool.false_and]
  cases held.jump && grounded <;> rfl

/-- How an actor is driven by held keys: who was lifted jumps if the key for it is held, and otherwise
that key makes no difference. -/
def Actor.Obeys (pressed : List Key) (lifted : Prop) (before after : Actor S T) : Prop :=
  ∀ body controls, before.body = some body → body.movable = true → before.controls = some controls →
    let held := controls.held pressed
    let calm := controls.drive { held with jump := false } false body.velocity
    (held.jump = true ∧ lifted → after.velocity? = some ⟨calm.x, -controls.jumpVelocity⟩) ∧
      (¬ (held.jump = true ∧ lifted) → after.velocity? = some calm)

theorem Actor.obeys_driven {actor : Actor S T} {lifted : Prop} (pressed : List Key) (now : T)
    (stands : actor.movable = true → (actor.grounded = true ↔ lifted)) :
    actor.Obeys pressed lifted (World.driven pressed now actor) := by
  intro body controls has free bound held calm
  have movable : actor.movable = true := (movable_eq has).trans free
  have stands : body.grounded = true ↔ lifted := by
    have seen : actor.grounded = body.grounded := by rw [grounded, has, Option.any_some]
    rw [← seen]
    exact stands movable
  have velocity : (World.driven pressed now actor).velocity? =
      some (if held.jump && body.grounded then ⟨calm.x, -controls.jumpVelocity⟩ else calm) := by
    rw [← controls.drive_eq held body.grounded body.velocity]
    simp only [World.driven, has, bound, free, ↓reduceIte, velocity?, Option.map_some]
    rfl
  rw [velocity, ← stands]
  constructor
  · rintro ⟨jumps, standing⟩
    rw [jumps, standing]
    rfl
  · intro calmly
    rw [if_neg]
    rwa [Bool.and_eq_true]

end

/-! ### A game -/

/-- Whoever comes does not stand yet. -/
theorem Spec.Blueprint.grounded_newcomer [Scalar S] (blueprint : Spec.Blueprint S) (keys : KeyCache)
    (look : Appearance S) (handle : Handle) (id : String) (position : Vec S) :
    (blueprint.newcomer keys look handle id position : Actor S T).grounded = false := by
  rw [Actor.grounded, Spec.Blueprint.newcomer]
  cases blueprint.body with
  | none => rfl
  | some body =>
    rw [Option.bind_some, Body.ofSpec?]
    cases body.role <;> rfl

/-- But for moving and meeting nothing changes who stands. -/
theorem Phase.spares_stance [Scalar S] [Scalar T] {phase : Phase} (moves : phase ≠ .movement)
    (meets : phase ≠ .contacts) : phase.Spares (Actor.stance : Actor S T → Bool × Bool) := by
  cases phase with
  | movement => exact absurd rfl moves
  | contacts => exact absurd rfl meets
  | controls =>
    intro pressed now actor
    unfold World.driven
    split
    · rename_i body controls has _
      split
      · simp [Actor.stance, Actor.movable, Actor.grounded, has]
      · rfl
    · rfl
  | behaviors =>
    intro actor velocity
    unfold Actor.withVelocity
    split
    · rename_i body has
      simp [Actor.stance, Actor.movable, Actor.grounded, has]
    · rfl
  | _ =>
    intro before after calm
    simp only [Actor.stance, Actor.movable, Actor.grounded, calm.body]

variable [Scalar S] [Scalar T] [Circular S] [Sampling S] [Rounding T S] {world after : World S T}
  {others : List Handle} {session : Session} {keyboard : Option (List Key)} {delta : T}
  {past : List (World S T)}

/-- The world of a frame in which bodies are about to move, if they do. -/
def World.moves (world : World S T) (keyboard : Option (List Key)) (delta : T) : List (World S T) :=
  match world.runPhases keyboard delta Phase.movement.earlier with
  | .ok moving => if moving.running then [moving] else []
  | .error _ => []

/-- Who stands is who was lifted when bodies last moved. -/
structure Footed (past : List (World S T)) (world : World S T) : Prop where
  stands : ∀ handle actor, world.roster.find? handle = some actor → actor.movable = true →
    (actor.grounded = true ↔ ∃ last, past.getLast? = some last ∧ last.Lifts handle)
  known : ∀ last handle, past.getLast? = some last → last.Lifts handle →
    handle ∈ world.births.map (·.handle)

theorem Footed.runPhase (footed : Footed past world) (lived : world.Lived others)
    (playing : world.playing = some session) {phase : Phase} (moves : phase ≠ .movement)
    (meets : phase ≠ .contacts) (done : world.runPhase keyboard delta phase = .ok after) :
    Footed past after where
  stands handle actor found movable := by
    by_cases issued : world.Issued others handle
    · rcases World.aspect?_runPhase (Phase.spares_stance moves meets) done lived.sound issued with
        gone | same
      · rw [gone] at found
        cases found
      · rw [World.aspect?, found] at same
        obtain ⟨earlier, there, seen⟩ := Option.map_eq_some_iff.mp same.symm
        obtain ⟨free, stands⟩ := Prod.mk.inj seen
        rw [← stands]
        exact footed.stands handle earlier there (free.trans movable)
    · -- whoever is new does not stand, and nobody ever lifted it
      let settled (actor : Actor S T) : Prop := actor.grounded = false
      have keeps {before after : Actor S T} (calm : Actor.Calm before after) (rests : settled before) :
          settled after := by
        rw [show settled after ↔ after.grounded = false from .rfl, Actor.grounded, calm.body]
        exact rests
      have rests : settled actor :=
        World.newcomes_runPhase (fun _ _ => keeps) Spec.Blueprint.grounded_newcomer done lived.sound
          issued found
      rw [show actor.grounded = false from rests]
      refine iff_of_false Bool.false_ne_true ?_
      rintro ⟨last, ended, lifts⟩
      exact issued (World.Lived.issued_of_born lived playing (footed.known last handle ended lifts))
  known last handle ended lifts :=
    (World.runs_runPhase done).mem_births (footed.known last handle ended lifts)

theorem Footed.runPhases (footed : Footed past world) (lived : world.Lived others)
    (playing : world.playing = some session) {phases : List Phase}
    (calm : .movement ∉ phases ∧ .contacts ∉ phases)
    (done : world.runPhases keyboard delta phases = .ok after) : Footed past after := by
  refine World.Lived.keeps_runPhases (fun member lived playing footed done => ?_) lived playing footed
    done
  exact footed.runPhase lived playing (ne_of_mem_of_not_mem member calm.1)
    (ne_of_mem_of_not_mem member calm.2) done

/-- When bodies move it is found out anew who stands. -/
theorem Footed.moved (footed : Footed past world) (lived : world.Lived others)
    (playing : world.playing = some session) :
    Footed (past ++ if world.running then [world] else []) world.integrate.detect := by
  by_cases running : world.running = true
  · rw [if_pos running]
    constructor
    · intro handle actor found movable
      have ticking : world.clock.isSome = true := World.Lived.hasPart lived playing .clock
      rw [World.stands_iff_lifts running ticking found movable, List.getLast?_concat]
      simp
    · intro last handle ended lifts
      rw [List.getLast?_concat] at ended
      cases ended
      have moving : world.runPhase none 0 .movement = .ok world.integrate := rfl
      have meeting : world.integrate.runPhase none 0 .contacts = .ok world.integrate.detect := rfl
      have born := World.Lived.born_of_alive lived playing (World.alive_of_lifts lifts)
      exact (World.runs_runPhase meeting).mem_births ((World.runs_runPhase moving).mem_births born)
  · rw [if_neg running, List.append_nil]
    have halted : world.running = false := Bool.not_eq_true _ ▸ running
    rwa [World.integrate_of_halted halted, World.detect_of_halted halted]

theorem Footed.step (footed : Footed past world) (lived : world.Lived others)
    (playing : world.playing = some session) (done : world.step keyboard delta = .ok after) :
    Footed (past ++ world.moves keyboard delta) after := by
  obtain ⟨moving, early, met, rfl⟩ := World.split_step playing done
  obtain ⟨lives, still⟩ := World.Lived.phases lived playing early
  obtain ⟨metLives, metStill⟩ := World.Lived.phases lived playing met
  have moved := (footed.runPhases lived playing (by decide) early).moved lives still
  have late : moving.integrate.detect.runPhases keyboard delta [.dispatch, .cleanUp] =
      .ok moving.integrate.detect.dispatch.cleanUp := rfl
  rw [World.moves, early]
  exact moved.runPhases metLives metStill (by decide) late

/-- It is known who stands as long as a game is played. -/
theorem World.saga_moves (session : Session) :
    Saga World.moves session (Footed (S := S) (T := T)) fun _ => True where
  blank := trivial
  start lived _ _ _ := by
    refine ⟨fun handle actor found _ => ?_, fun last _ never => by cases never⟩
    let settled (actor : Actor S T) : Prop := actor.grounded = false
    have rests : settled actor :=
      World.newcomes_playScene Spec.Blueprint.grounded_newcomer lived.whole lived.sound found
    rw [show actor.grounded = false from rests]
    exact iff_of_false Bool.false_ne_true (by rintro ⟨last, never, -⟩; cases never)
  camera _ footed := ⟨footed.stands, footed.known⟩
  draw {past others world after pictures} lived footed done := by
    have births : after.births = world.births := congrArg Books.births (World.books_draw done)
    have bare (actor : Actor S T) : actor.undrawn.stance = actor.stance := rfl
    have same := World.sameAspect_draw bare lived.sound done
    refine ⟨fun handle actor found movable => ?_, ?_⟩
    · have seen := congrFun same handle
      rw [World.aspect?, found] at seen
      obtain ⟨earlier, there, seen⟩ := Option.map_eq_some_iff.mp seen.symm
      obtain ⟨free, stands⟩ := Prod.mk.inj seen
      rw [← stands]
      exact footed.stands handle earlier there (free.trans movable)
    · rw [births]
      exact footed.known
  frame _ _ _ _ _ := trivial
  step lived playing footed done := footed.step lived playing done

/-- Whatever was done to a cabinet: between two frames a movable actor stands if in the last frame in
which bodies moved it was put back onto the floor of the world or pushed upwards in a collision, and
only then. In the next frame it jumps under a held key if this is so, and else the key makes no
difference for its velocity. -/
theorem Cabinet.stands_on_contact {entropy : Entropy} {watch : Option Watch} {pictures : Option Bool}
    {operations : List (Operation S T)} {cabinet : Cabinet S T} {session : Session}
    (ran : (new entropy watch (pictures.map Screen.start)).run operations = .ok cabinet)
    (playing : cabinet.world.playing = some session) :
    let moves := (new entropy watch (pictures.map Screen.start)).chronicle World.moves session operations
    let lifted (handle : Handle) : Prop := ∃ last, moves.getLast? = some last ∧ last.Lifts handle
    (∀ handle actor, cabinet.world.roster.find? handle = some actor → actor.movable = true →
      (actor.grounded = true ↔ lifted handle)) ∧
    ∀ pressed delta, ∃ aimed driven,
      cabinet.world.runPhases (some pressed) delta Phase.controls.earlier = .ok aimed ∧
      aimed.runPhase (some pressed) delta .controls = .ok driven ∧
      ∀ handle actor, aimed.roster.find? handle = some actor →
        ∃ later, driven.roster.find? handle = some later ∧
          actor.Obeys pressed (lifted handle) later := by
  have footed := (World.saga_moves session).held_new ran playing
  refine ⟨footed.stands, fun pressed delta => ?_⟩
  have lived : cabinet.world.Lived cabinet.held := alive_of_run ran
  let aimed := cabinet.world.advanceClock delta
  have ticking : cabinet.world.runPhases (some pressed) delta Phase.controls.earlier = .ok aimed := rfl
  obtain ⟨lives, still⟩ := World.Lived.phases lived playing ticking
  have stands := (footed.runPhases lived playing (by decide) ticking).stands
  obtain ⟨clock, ticks⟩ := Option.isSome_iff_exists.mp (World.Lived.hasPart lives still .clock)
  obtain ⟨shots, queued⟩ := Option.isSome_iff_exists.mp (World.Lived.hasPart lives still .shots)
  have driving : (aimed.driveControls (some pressed)).roster =
      aimed.roster.map (World.driven pressed clock.now) := by
    simp only [World.driveControls, ticks, queued]
  refine ⟨aimed, _, ticking, rfl, fun handle actor found => ?_⟩
  refine ⟨World.driven pressed clock.now actor, ?_,
    Actor.obeys_driven pressed clock.now (stands handle actor found)⟩
  rw [driving, Roster.find?_map fun actor => (World.keeps_driven pressed clock.now actor).1, found]
  rfl

namespace Sample

/-- A square that is just above the floor, and jumps. -/
def jumper : Spec.Blueprint Float32 :=
  { gunner "hero" with
    y := 590
    body := some ⟨.dynamic, none, some true, none⟩
    controls := some ⟨none, none, some "Space", none, none, none, none, none, none⟩ }

/-- A square that falls. -/
def leap : Spec Float32 :=
  { spec with scenes := [⟨"main", [jumper, { jumper with id := "bird", y := 100 }], none⟩] }

/-- The game is played for two frames. -/
def leaping : List (Operation Float32 Float) := [.start leap .default, .step none 25, .step none 25]

end Sample

/-- The jumper is on the floor, and the bird is not. -/
theorem Cabinet.stands_on_contact_leap :
    ∃ (cabinet : Cabinet Float32 Float) (session : Session) (hero bird : Handle),
      (new Sample.entropy none (Option.map Screen.start none)).run Sample.leaping = .ok cabinet ∧
        cabinet.world.playing = some session ∧
        cabinet.world.handle? "hero" = some hero ∧ cabinet.world.handle? "bird" = some bird ∧
        let moves := (new Sample.entropy none (Option.map Screen.start none)).chronicle World.moves session
          Sample.leaping
        moves.length = 2 ∧ (∃ last, moves.getLast? = some last ∧ last.Lifts hero) ∧
          ¬ ∃ last, moves.getLast? = some last ∧ last.Lifts bird := by
  have fine : ((new Sample.entropy none (Option.map Screen.start none) : Cabinet Float32 Float).run
      Sample.leaping).toOption.any (fun cabinet =>
        cabinet.world.playing.any fun session =>
          decide (((new Sample.entropy none (Option.map Screen.start none)).chronicle World.moves session
            Sample.leaping).length = 2) &&
          (cabinet.world.handle? "hero").any fun hero =>
            (cabinet.world.handle? "bird").any fun bird =>
              (cabinet.world.roster.find? hero).any (fun actor => actor.movable && actor.grounded) &&
                (cabinet.world.roster.find? bird).any fun actor =>
                  actor.movable && !actor.grounded) = true := by decide +kernel
  obtain ⟨cabinet, ran, fine⟩ := exists_ok_of_any fine
  obtain ⟨session, playing, fine⟩ := (Option.any_eq_true _ _).mp fine
  obtain ⟨two, fine⟩ := (Bool.and_eq_true _ _).mp fine
  obtain ⟨hero, meant, fine⟩ := (Option.any_eq_true _ _).mp fine
  obtain ⟨bird, other, fine⟩ := (Option.any_eq_true _ _).mp fine
  obtain ⟨first, second⟩ := (Bool.and_eq_true _ _).mp fine
  obtain ⟨jumper, here, first⟩ := (Option.any_eq_true _ _).mp first
  obtain ⟨flyer, there, second⟩ := (Option.any_eq_true _ _).mp second
  obtain ⟨free, stands⟩ := (Bool.and_eq_true _ _).mp first
  obtain ⟨loose, falls⟩ := (Bool.and_eq_true _ _).mp second
  obtain ⟨known, -⟩ := stands_on_contact ran playing
  refine ⟨cabinet, session, hero, bird, ran, playing, meant, other, of_decide_eq_true two,
    (known hero jumper here free).mp stands, fun lifted => ?_⟩
  rw [(known bird flyer there loose).mpr lifted] at falls
  cases falls

end Arcade
