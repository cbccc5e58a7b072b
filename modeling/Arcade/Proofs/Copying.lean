import Arcade.Proofs.Ownership

/-! Copies are made as a whole or not at all. A spawner that is due and a shot that was asked for each
try to make one copy. A blueprint that misses something is told of once, and changes nothing else. A
blueprint of a group is the exception: no copy comes of it, but its group comes into being under the
id of the copy, and a shot of it is not told of. -/

namespace Arcade

variable {S T : Type}

/-- What an actor of a blueprint looks like, or what the blueprint misses. No actor comes of a group. -/
def Spec.Blueprint.appearance? [Scalar S] (blueprint : Spec.Blueprint S) :
    Except BuildError (Option (Appearance S)) :=
  blueprint.payload.map Spec.Payload.appearance?

/-! ### Attempts -/

/-- What asks for a copy: a spawner that is due, or a shot. -/
inductive Source (S : Type) where
  | spawn (spawner : Spec.Spawner S)
  | shoot (shot : Shot S)

namespace Source

/-- The group that the copy is to join. -/
def group : Source S → String
  | .spawn spawner => spawner.template.id
  | .shoot _ => World.projectileGroup

/-- Under whose name it is told that nothing was copied. -/
def name : Source S → String
  | .spawn spawner => spawner.id
  | .shoot shot => shot.ownerId ++ ":projectile"

end Source

/-- An attempt to make a copy, in the world that it finds. -/
structure Attempt (S T : Type) where
  world : World S T
  source : Source S

namespace Attempt

/-- What is to be copied: the template of the spawner, or what the owner of the shot shoots. -/
def template? (attempt : Attempt S T) : Option (Spec.Blueprint S) :=
  match attempt.source with
  | .spawn spawner => some spawner.template
  | .shoot shot => (attempt.world.roster.find? shot.owner).bind Actor.weapon?

/-- The id that the copy is to have. -/
def id (attempt : Attempt S T) : String :=
  let registry := attempt.world.registry.getD .empty
  match attempt.source with
  | .spawn spawner => World.copyId spawner.id (registry.copyCount spawner.id)
  | .shoot shot => World.shotId shot.ownerId (registry.shotCount shot.ownerId)

/-- What the attempt makes of the world. -/
def outcome [Scalar S] [Sampling S] (attempt : Attempt S T) : Except Crash (World S T) :=
  match attempt.source with
  | .spawn spawner => (attempt.world.spawnOne spawner).map (·.1)
  | .shoot shot => .ok (attempt.world.shootOne shot)

end Attempt

/-! ### Their ends -/

namespace World

/-- A new actor is there: its id means it, and it is a transient member of its group. -/
structure Copied (before : World S T) (id group : String) (handle : Handle) (after : World S T) :
    Prop where
  new : before.alive handle = false
  who : ∃ weapon, after.roster.who? handle = some ⟨id, some group, true, weapon⟩
  meant : after.handle? id = some handle
  member : handle ∈ (after.registry.getD .empty).members group
  others : ∀ other, other ≠ handle → after.alive other = before.alive other

/-- The same actors are there, and ids and behaviors are exactly as they were. -/
structure SameCast (before after : World S T) : Prop where
  roster : after.roster = before.roster
  objects : (after.registry.getD .empty).objects = (before.registry.getD .empty).objects
  behaviors : after.behaviors = before.behaviors
  memories : after.memories = before.memories

/-- The groups that there are, with their members. -/
def groups (world : World S T) : Index (List Handle) := (world.registry.getD .empty).groups

/-- What there is to be read of a game: its diagnostics and its events. -/
def news (world : World S T) : Option (List String) × Log Signal := (world.diagnostics, world.log)

end World

namespace Attempt

/-- Nothing is copied, which is told once, and nothing else changes. -/
structure Refused (attempt : Attempt S T) (error : BuildError) (after : World S T) : Prop where
  cast : attempt.world.SameCast after
  groups : after.groups = attempt.world.groups
  told : after.news = (attempt.world.report
    (.templateNotSpawnable attempt.source.name error.message)).news

/-- No actor comes of a group, but the group comes into being. A spawner tells of it, a shot does
not. -/
structure Grouped (attempt : Attempt S T) (after : World S T) : Prop where
  cast : attempt.world.SameCast after
  groups : after.groups = attempt.world.groups.insert attempt.id
    ((attempt.world.registry.getD .empty).members attempt.id)
  told : after.news = match attempt.source with
    | .spawn spawner => (attempt.world.report
        (.templateNotSpawnable spawner.id "group templates have no entity")).news
    | .shoot _ => attempt.world.news

variable [Scalar S] [Sampling S]

/-- How an attempt to copy a template ends. It fails only when no place can be drawn. -/
def Ends (attempt : Attempt S T) (template : Spec.Blueprint S) : Prop :=
  match attempt.outcome with
  | .error crash =>
    ∃ spawner, attempt.source = .spawn spawner ∧ attempt.world.drawPlace spawner = .error crash
  | .ok after =>
    match template.appearance? with
    | .error error => attempt.Refused error after
    | .ok none => attempt.Grouped after
    | .ok (some _) =>
      ∃ handle, attempt.world.Copied attempt.id attempt.source.group handle after

end Attempt

/-! ### The attempts of a frame -/

namespace World

/-- The world that the first attempt in a part of a frame finds: shots leave their queue beforehand. -/
def poised (world : World S T) : Phase → World S T
  | .shots => { world with shots := world.shots.map fun _ => [] }
  | _ => world

variable [Scalar S] [Scalar T]

/-- The attempts that shots make, one after the other. -/
def shotAttempts : List (Shot S) → World S T → List (Attempt S T)
  | [], _ => []
  | shot :: rest, world => ⟨world, .shoot shot⟩ :: shotAttempts rest (world.shootOne shot)

variable [Sampling S]

/-- The attempts that a spawner makes which is due a number of times, until it is done. -/
def spawnAttempts (spawner : Spec.Spawner S) : Nat → World S T → List (Attempt S T)
  | 0, _ => []
  | rest + 1, world =>
    if exhausted spawner ((world.registry.getD .empty).copyCount spawner.id) then []
    else ⟨world, .spawn spawner⟩ ::
      match world.spawnOne spawner with
      | .ok (next, true) => spawnAttempts spawner rest next
      | _ => []

/-- The attempts that spawners make, one after the other. -/
def nestAttempts (now : T) : List (Nest S T) → World S T → List (Attempt S T)
  | [], _ => []
  | nest :: rest, world =>
    spawnAttempts nest.spawner (nest.timer.poll now).2 world ++
      match world.tickNest nest now with
      | .ok (next, _) => nestAttempts now rest next
      | .error _ => []

/-- The attempts of the shots that were asked for. -/
def asked (world : World S T) : List (Attempt S T) :=
  shotAttempts (world.shots.getD []) (world.poised .shots)

/-- The attempts of the spawners at work. -/
def due (world : World S T) : List (Attempt S T) :=
  match world.nests, world.clock with
  | some nests, some clock => nestAttempts clock.now nests world
  | _, _ => []

/-- The attempts that are made in a part of a frame. -/
def attempts (world : World S T) : Phase → List (Attempt S T)
  | .shots => world.asked
  | .spawners => world.due
  | _ => []

end World

/-! ### One attempt -/

theorem Registry.mem_members_joinGroup (registry : Registry S T) (name : String)
    (handle : Handle) : handle ∈ (registry.joinGroup name handle).members name := by
  rw [members_joinGroup]
  split
  · exact List.mem_append_right _ List.mem_cons_self
  · rename_i already
    simpa using already

namespace World

variable {before middle after world : World S T} {others : List Handle} {id group : String}
  {handle : Handle} {template : Spec.Blueprint S}

theorem news_report (same : after.news = before.news) (error : BuildError) :
    (after.report error).news = (before.report error).news := by
  obtain ⟨diagnostics, log⟩ := Prod.mk.injEq .. ▸ same
  simp only [news, report, emit, diagnostics, log]

theorem SameCast.trans (first : SameCast before middle) (second : SameCast middle after) :
    SameCast before after :=
  ⟨second.roster.trans first.roster, second.objects.trans first.objects,
    second.behaviors.trans first.behaviors, second.memories.trans first.memories⟩

theorem sameCast_of_eq (roster : after.roster = before.roster)
    (registry : after.registry = before.registry) : SameCast before after := by
  refine ⟨roster, ?_, ?_, ?_⟩
  · rw [registry]
  · rw [behaviors, registry, behaviors]
  · rw [memories, registry, memories]

theorem sameCast_report (world : World S T) (error : BuildError) :
    SameCast world (world.report error) :=
  sameCast_of_eq (by simp only [report, emit]) (by simp only [report, emit])

theorem groups_report (world : World S T) (error : BuildError) :
    (world.report error).groups = world.groups := by
  rw [groups, (quiet_report world error).names.registry, groups]

theorem sameCast_noted {change : Registry S T → Registry S T}
    (noted : Registry.Noted (world.registry.getD .empty) (change (world.registry.getD .empty))) :
    SameCast world (world.withRegistry change) :=
  ⟨rfl, noted.objects, noted.behaviors, noted.memories⟩

variable [Scalar S]

/-- A blueprint that misses something makes nothing, a group makes the group, and all else makes an
actor. -/
theorem create_cases (world : World S T) (template : Spec.Blueprint S) (id : String)
    (position : Vec S) :
    match template.appearance? with
    | .error error => world.create template id position = .error error
    | .ok none => world.create template id position =
        .ok (.group id, world.withRegistry fun registry => registry.ensureGroup id)
    | .ok (some _) => ∃ handle after,
        world.create template id position = .ok (.actor handle, after) := by
  unfold create Spec.Blueprint.appearance?
  cases template.payload with
  | error error => rfl
  | ok payload =>
    simp only [Except.map]
    cases payload.appearance? with
    | none => rfl
    | some look => exact ⟨_, _, rfl⟩

/-- A template of which no actor is made looks like none. -/
theorem unable_of_create {position : Vec S} {outcome : Except BuildError (Created × World S T)}
    (created : world.create template id position = outcome)
    (nobody : ∀ handle after, outcome ≠ .ok (.actor handle, after)) (look : Appearance S) :
    template.appearance? ≠ .ok (some look) := by
  intro appears
  have cases := world.create_cases template id position
  rw [appears] at cases
  obtain ⟨handle, after, made⟩ := cases
  exact nobody handle after (created.symm.trans made)

/-- A copy that is made and adopted is there as a whole. -/
theorem copied_adopt (good : before.Sound others) {position : Vec S}
    (made : before.create template id position = .ok (.actor handle, middle)) (group : String) :
    before.Copied id group handle (middle.adopt handle group) := by
  have created := made_create good made
  have born := made_adopt created (created.sound good) group
  have names : (middle.adopt handle group).registry =
      some ((before.registry.getD .empty).joined template id (some group) handle) := born.registry
  refine ⟨?_, ⟨template.weapon?, ?_⟩, ?_, ?_, ?_⟩
  · rw [alive_eq_isSome, Roster.who?_eq_none_iff.mpr (born.fresh good)]
    rfl
  · rw [born.who, if_pos rfl]
  · rw [handle?, names]
    exact (Registry.handle?_joined _ _ _ _ _ _).trans (if_pos rfl)
  · rw [names]
    exact Registry.mem_members_joinGroup _ _ _
  · intro other different
    rw [alive_eq_isSome, born.who, if_neg different.symm, ← alive_eq_isSome]

omit [Scalar S] in
theorem Copied.of_roster (copied : Copied middle id group handle after)
    (same : middle.roster = before.roster) : Copied before id group handle after where
  new := by
    have unknown := copied.new
    rwa [alive, same] at unknown
  who := copied.who
  meant := copied.meant
  member := copied.member
  others other different := by
    have kept := copied.others other different
    rwa [alive, alive, same] at kept

omit [Scalar S] in
theorem Copied.noted (copied : Copied before id group handle after)
    (change : Registry S T → Registry S T)
    (noted : Registry.Noted (after.registry.getD .empty) (change (after.registry.getD .empty))) :
    Copied before id group handle (after.withRegistry change) where
  new := copied.new
  who := copied.who
  meant := (congrFun (sameIds_noted noted).meant id).trans copied.meant
  member := (congrFun noted.members group).symm ▸ copied.member
  others := copied.others

/-- A shot whose owner is there and shoots is made as a whole, or it is refused. -/
theorem ends_shoot [Scalar T] [Sampling S] (good : world.Sound others) {shot : Shot S}
    (armed : (world.roster.find? shot.owner).bind Actor.weapon? = some template) :
    Attempt.Ends ⟨world, .shoot shot⟩ template := by
  let counted := world.withRegistry fun registry => registry.countShot shot.ownerId
  have noted : SameCast world counted := sameCast_noted (Registry.noted_countShot _ _)
  have shoots : ((world.roster.find? shot.owner).bind fun actor =>
      actor.controls.bind (·.projectile)) = some template := armed
  have cases := counted.create_cases template
    (shotId shot.ownerId ((world.registry.getD .empty).shotCount shot.ownerId)) shot.origin
  simp only [Attempt.Ends, Attempt.outcome, shootOne, shoots]
  split at cases
  · rw [cases]
    exact ⟨noted.trans (sameCast_report _ _), (groups_report _ _).trans rfl, news_report rfl _⟩
  · rw [cases]
    exact ⟨noted.trans (sameCast_noted (Registry.noted_ensureGroup _ _)), rfl, rfl⟩
  · obtain ⟨handle, made, created⟩ := cases
    have counted : counted.Sound others := good
    rw [created]
    exact ⟨handle, (copied_adopt counted created projectileGroup).of_roster rfl⟩

/-- A spawner that has not made all its copies makes one as a whole, or it is refused. -/
theorem ends_spawn [Scalar T] [Sampling S] (good : world.Sound others) {spawner : Spec.Spawner S}
    (more : exhausted spawner ((world.registry.getD .empty).copyCount spawner.id) = false) :
    Attempt.Ends ⟨world, .spawn spawner⟩ spawner.template := by
  simp only [Attempt.Ends, Attempt.outcome, spawnOne, more, Bool.false_eq_true, ↓reduceIte]
  cases placed : world.drawPlace spawner with
  | error crash => exact ⟨spawner, rfl, placed⟩
  | ok drawn =>
    obtain ⟨place, drawn⟩ := drawn
    obtain ⟨random, rfl⟩ := drawPlace_eq placed
    let drawn : World S T := { world with random := some random }
    have same : SameCast world drawn := sameCast_of_eq rfl rfl
    have cases := drawn.create_cases spawner.template
      (copyId spawner.id ((world.registry.getD .empty).copyCount spawner.id)) place
    simp only [bind, Except.bind]
    split at cases
    · rw [cases]
      exact ⟨same.trans (sameCast_report _ _), groups_report _ _, news_report rfl _⟩
    · rw [cases]
      exact ⟨same.trans ((sameCast_noted (Registry.noted_ensureGroup _ _)).trans
        (sameCast_report _ _)), groups_report _ _, news_report rfl _⟩
    · obtain ⟨handle, made, created⟩ := cases
      have sound : drawn.Sound others := good
      rw [created]
      have copied : Copied world _ _ handle (made.adopt handle spawner.template.id) :=
        (copied_adopt sound created spawner.template.id).of_roster rfl
      have counted := Registry.noted_countCopy
        ((made.adopt handle spawner.template.id).registry.getD .empty) spawner.id
      exact ⟨handle, copied.noted (·.countCopy spawner.id) counted⟩

end World

/-! ### All attempts of a part of a frame -/

namespace Attempt

variable [Scalar S] [Sampling S]

/-- Attempts that follow each other: each finds the world that the one before it left. -/
def Linked : World S T → List (Attempt S T) → World S T → Prop
  | before, [], after => after = before
  | before, attempt :: rest, after =>
    attempt.world = before ∧ ∃ next, attempt.outcome = .ok next ∧ Linked next rest after

theorem Linked.append {before middle after : World S T} {first second : List (Attempt S T)}
    (early : Linked before first middle) (late : Linked middle second after) :
    Linked before (first ++ second) after := by
  induction first generalizing before with
  | nil =>
    cases early
    exact late
  | cons attempt rest ih =>
    obtain ⟨found, next, left, later⟩ := early
    exact ⟨found, next, left, ih later⟩

/-- Something is to be copied, and the attempt ends as it should. -/
def Whole (attempt : Attempt S T) : Prop :=
  ∃ template, attempt.template? = some template ∧ attempt.Ends template

end Attempt

namespace World

variable {world after : World S T} {others : List Handle} {shot : Shot S}

/-- The owner of a shot is there, and shoots. -/
def Armed (world : World S T) (shot : Shot S) : Prop :=
  ∃ who, world.roster.who? shot.owner = some who ∧ who.weapon.isSome = true

theorem Armed.exists_template (armed : world.Armed shot) :
    ∃ template, (world.roster.find? shot.owner).bind Actor.weapon? = some template := by
  obtain ⟨who, known, shoots⟩ := armed
  obtain ⟨actor, found, rfl⟩ := Option.map_eq_some_iff.mp known
  rw [found]
  exact Option.isSome_iff_exists.mp shoots

/-- The owners of shots stay while shots are made. -/
theorem Armed.course (armed : world.Armed shot) (good : world.Sound others)
    (course : Course Deed.OfShots world after) : after.Armed shot := by
  obtain ⟨who, known, shoots⟩ := armed
  exact ⟨who, course.who_of_before good (fun _ _ never => never) known, shoots⟩

variable [Scalar S] [Scalar T] [Sampling S]

theorem whole_shotAttempts (good : world.Sound others) {shots : List (Shot S)}
    (armed : ∀ shot ∈ shots, world.Armed shot) :
    ∀ attempt ∈ shotAttempts shots world, attempt.Whole := by
  induction shots generalizing world with
  | nil =>
    intro attempt member
    cases member
  | cons shot rest ih =>
    intro attempt member
    rcases List.mem_cons.mp member with rfl | later
    · obtain ⟨template, shoots⟩ := (armed shot List.mem_cons_self).exists_template
      exact ⟨template, shoots, ends_shoot good shoots⟩
    · have course := course_shootOne good shot
      refine ih (course.sound good) ?_ attempt later
      intro other inside
      exact (armed other (List.mem_cons_of_mem _ inside)).course good course

omit [Scalar T] in
theorem linked_shotAttempts (shots : List (Shot S)) (world : World S T) :
    Attempt.Linked world (shotAttempts shots world) (shots.foldl shootOne world) := by
  induction shots generalizing world with
  | nil => rfl
  | cons shot rest ih => exact ⟨rfl, world.shootOne shot, rfl, ih _⟩

theorem whole_spawnAttempts (good : world.Sound others) {spawner : Spec.Spawner S}
    (working : spawner ∈ world.scenery.spawners) (number : Nat) :
    ∀ attempt ∈ spawnAttempts spawner number world, attempt.Whole := by
  induction number generalizing world with
  | zero =>
    intro attempt member
    cases member
  | succ rest ih =>
    intro attempt member
    rw [spawnAttempts] at member
    split at member
    · cases member
    · rename_i more
      rcases List.mem_cons.mp member with rfl | later
      · exact ⟨spawner.template, rfl, ends_spawn good (by simpa using more)⟩
      · split at later
        · rename_i next spawned
          have course := course_spawnOne good working spawned
          rw [← scenery_ofSpawners course] at working
          exact ih (course.sound good) working attempt later
        · cases later

omit [Scalar T] in
theorem linked_spawnAttempts {spawner : Spec.Spawner S} {number : Nat} {more : Bool}
    (done : spawnMany spawner number world = .ok (after, more)) :
    Attempt.Linked world (spawnAttempts spawner number world) after := by
  induction number generalizing world with
  | zero =>
    cases done
    rfl
  | succ rest ih =>
    obtain ⟨⟨next, again⟩, first, done⟩ := bind_eq_ok done
    rw [spawnAttempts]
    split
    · rename_i ended
      rw [spawnOne, if_pos ended] at first
      cases first
      cases done
      rfl
    · refine ⟨rfl, next, congrArg (Except.map Prod.fst) first, ?_⟩
      rw [first]
      cases again with
      | true => exact ih done
      | false =>
        cases done
        rfl

theorem whole_nestAttempts (good : world.Sound others) {now : T} {nests : List (Nest S T)}
    (working : ∀ nest ∈ nests, nest.spawner ∈ world.scenery.spawners) :
    ∀ attempt ∈ nestAttempts now nests world, attempt.Whole := by
  induction nests generalizing world with
  | nil =>
    intro attempt member
    cases member
  | cons nest rest ih =>
    intro attempt member
    rcases List.mem_append.mp member with own | later
    · exact whole_spawnAttempts good (working nest List.mem_cons_self) _ attempt own
    · split at later
      · rename_i next _ ticked
        obtain ⟨course, -⟩ := course_tickNest good (working nest List.mem_cons_self) ticked
        refine ih (course.sound good) ?_ attempt later
        intro other inside
        rw [scenery_ofSpawners course]
        exact working other (List.mem_cons_of_mem _ inside)
      · cases later

theorem linked_nestAttempts {now : T} {nests later : List (Nest S T)}
    (done : tickNests now nests world = .ok (after, later)) :
    Attempt.Linked world (nestAttempts now nests world) after := by
  induction nests generalizing world later with
  | nil =>
    cases done
    rfl
  | cons nest rest ih =>
    obtain ⟨⟨next, ticked⟩, first, done⟩ := bind_eq_ok done
    obtain ⟨⟨last, others⟩, second, done⟩ := bind_eq_ok done
    cases done
    obtain ⟨⟨spawned, more⟩, made, ended⟩ := bind_eq_ok first
    cases ended
    refine (linked_spawnAttempts made).append ?_
    rw [first]
    exact ih second

omit [Scalar T] [Sampling S] in
/-- Shots are made one after the other, once they have left their queue. -/
theorem fireShots_eq_foldl (world : World S T) :
    world.fireShots = (world.shots.getD []).foldl shootOne (world.poised .shots) := by
  unfold fireShots poised
  cases queued : world.shots with
  | none => exact congrArg (fun shots => { world with shots }) queued
  | some shots => rfl

omit [Scalar T] in
/-- Shots are made by their attempts, one after the other. -/
theorem linked_fireShots (world : World S T) :
    Attempt.Linked (world.poised .shots) world.asked world.fireShots := by
  rw [fireShots_eq_foldl]
  exact linked_shotAttempts (world.shots.getD []) (world.poised .shots)

/-- Spawners make what is due by their attempts, one after the other, and then set their clocks. -/
theorem linked_tickSpawners (done : world.tickSpawners = .ok after) :
    ∃ (last : World S T) (nests : Option (List (Nest S T))),
      Attempt.Linked world world.due last ∧ after = { last with nests } := by
  unfold due
  unfold tickSpawners at done
  split
  · rename_i nests clock working running
    rw [working, running] at done
    obtain ⟨⟨last, ticked⟩, made, done⟩ := bind_eq_ok done
    cases done
    exact ⟨last, some ticked, linked_nestAttempts made, rfl⟩
  · split at done
    · rename_i idle _ _ nests clock working running
      exact absurd running (idle nests clock working)
    · cases done
      exact ⟨world, world.nests, rfl, rfl⟩

/-- What shots and spawners do to a world are their attempts, one after the other. -/
theorem linked_runPhase [Circular S] [Rounding T S] {keyboard : Option (List Key)} {delta : T}
    {phase : Phase} (copies : phase = .shots ∨ phase = .spawners)
    (done : world.runPhase keyboard delta phase = .ok after) :
    ∃ last, Attempt.Linked (world.poised phase) (world.attempts phase) last ∧
      after = { last with nests := after.nests } := by
  rcases copies with rfl | rfl
  · cases done
    exact ⟨world.fireShots, linked_fireShots world, rfl⟩
  · obtain ⟨last, nests, linked, rfl⟩ := linked_tickSpawners done
    exact ⟨last, linked, rfl⟩

/-! ### Shots that are asked for -/

/-- No shot is asked for. -/
def Unasked (world : World S T) : Prop := world.scenery.shots = []

omit [Sampling S] in
/-- Whoever asks for a shot is there, and shoots. -/
theorem armed_driveControls (good : world.Sound others) (unasked : world.Unasked)
    (keyboard : Option (List Key)) :
    ∀ shot ∈ (world.driveControls keyboard).scenery.shots,
      (world.driveControls keyboard).Armed shot := by
  intro shot asked
  unfold driveControls at asked ⊢
  split at asked
  · rename_i pressed clock shots _ queued
    have empty : shots = [] := by simpa [Unasked, scenery, queued] using unasked
    subst empty
    obtain ⟨actor, present, asks⟩ := List.mem_filterMap.mp asked
    unfold shot? at asks
    split at asks
    · rename_i triggers
      cases asks
      have found := (Roster.find?_eq_some_iff good.distinct).mpr ⟨present, rfl⟩
      refine ⟨actor.identity, ?_, ?_⟩
      · rw [Roster.who?_map (keeps_driven pressed clock.now), Roster.who?, found]
        rfl
      · simp only [World.triggers, Bool.and_eq_true, Option.any_eq_true] at triggers
        obtain ⟨-, controls, bound, ⟨-, shoots⟩, -⟩ := triggers
        simpa [Actor.identity, Actor.weapon?, bound] using shoots
    · cases asks
  · rw [unasked] at asked
    cases asked

omit [Scalar T] [Sampling S] in
/-- When shots were made none is asked for. -/
theorem unasked_fireShots (good : world.Sound others) : world.fireShots.Unasked := by
  unfold fireShots
  split
  · rename_i nothing
    rw [Unasked, scenery, nothing, Option.getD_none]
  · rename_i shots _
    have emptied : World.Sound { world with shots := some [] } others := good
    have course := Course.foldl (fun world shot sound => course_shootOne sound shot) emptied shots
    refine course.laid (fun scenery => scenery.shots = []) ?_ rfl
    intro _ _ allowed _
    rw [allowed]

variable [Circular S] [Rounding T S] {keyboard : Option (List Key)} {delta : T}

/-- Only controls ask for shots. -/
theorem Unasked.runPhase (unasked : world.Unasked) (good : world.Sound others) {phase : Phase}
    (other : phase ≠ .controls) (done : world.runPhase keyboard delta phase = .ok after) :
    after.Unasked := by
  refine (course_runPhase good done).1.laid (fun scenery => scenery.shots = []) ?_ unasked
  intro world scenery allowed empty
  cases phase with
  | controls => exact absurd rfl other
  | shots => rw [allowed]
  | _ => exact allowed.elim

theorem Unasked.runPhases (unasked : world.Unasked) (good : world.Sound others)
    {phases : List Phase} (other : .controls ∉ phases)
    (done : world.runPhases keyboard delta phases = .ok after) : after.Unasked := by
  induction phases generalizing world with
  | nil =>
    cases done
    exact unasked
  | cons phase rest ih =>
    obtain ⟨next, first, done⟩ := bind_eq_ok done
    have sound : next.Sound others := (course_runPhase good first).1.sound good
    have different : phase ≠ .controls := fun same => other (same ▸ List.mem_cons_self)
    exact ih (unasked.runPhase good different first) sound
      (fun member => other (List.mem_cons_of_mem _ member)) done

/-- No shot is asked for while no frame is under way. -/
theorem rest_unasked : Rest (Unasked : World S T → Prop) where
  idle := by
    intro world idle
    have gone : world.shots = none := by simpa [has] using idle.parts .shots
    rw [Unasked, scenery, gone, Option.getD_none]
  start := by
    intro others world spec scene seed lived
    have ready : (world.tearDown.setUp spec seed).Sound others :=
      (safe_tearDown world others lived.sound).1
    rw [Unasked, scenery_playScene]
    refine (course_build ready scene).laid (fun scenery => scenery.shots = []) ?_ rfl
    intro _ _ allowed empty
    rw [allowed.1]
    exact empty
  camera _ unasked := unasked
  step := by
    intro others world after session keyboard delta lived playing unasked done
    rw [step, playing] at done
    obtain ⟨clocked, first, done⟩ := bind_eq_ok done
    obtain ⟨driven, second, done⟩ := bind_eq_ok done
    obtain ⟨shot, third, done⟩ := bind_eq_ok done
    cases third
    have sound : clocked.Sound others := (course_runPhase lived.sound first).1.sound lived.sound
    have ready : driven.Sound others := (course_runPhase sound second).1.sound sound
    have fired := (course_fireShots ready).sound ready
    exact (unasked_fireShots ready).runPhases fired (by decide) done
  draw := by
    intro others world after pictures lived unasked drawn
    exact (course_draw lived.sound drawn).laid (fun scenery => scenery.shots = [])
      (fun _ _ never => never.elim) unasked

end World

/-- The parts of a frame before a part of it. -/
def Phase.earlier (phase : Phase) : List Phase := Phase.order.takeWhile (· ≠ phase)

variable [Scalar S] [Scalar T] [Circular S] [Sampling S] [Rounding T S]

/-- A frame is taken apart where bodies move. -/
theorem World.split_step {world next : World S T} {session : Session}
    {keyboard : Option (List Key)} {delta : T} (playing : world.playing = some session)
    (done : world.step keyboard delta = .ok next) :
    ∃ seen, world.runPhases keyboard delta Phase.movement.earlier = .ok seen ∧
      world.runPhases keyboard delta Phase.dispatch.earlier = .ok seen.integrate.detect ∧
      next = seen.integrate.detect.dispatch.cleanUp := by
  rw [step, playing] at done
  have parts : Phase.order = Phase.movement.earlier ++ [.movement, .contacts, .dispatch, .cleanUp] :=
    rfl
  have steps : Phase.dispatch.earlier = Phase.movement.earlier ++ [.movement, .contacts] := rfl
  rw [parts, runPhases_append_eq_ok_iff] at done
  obtain ⟨seen, early, done⟩ := done
  refine ⟨seen, early, ?_, ?_⟩
  · rw [steps, runPhases_append_eq_ok_iff]
    exact ⟨seen, early, rfl⟩
  · cases done
    rfl

/-- Whatever was done before: in a frame each spawner that is due and each shot makes its copy as a
whole, or it is told once that it cannot, and nothing changes. Groups alone make no copy and yet
leave something behind. Nothing else is done to the world in these parts of the frame. -/
theorem Cabinet.copies_whole {entropy : Entropy} {watch : Option Watch} {pictures : Option Bool}
    {operations : List (Operation S T)} {cabinet : Cabinet S T} {session : Session}
    {keyboard : Option (List Key)} {delta : T} {phase : Phase} {world : World S T}
    (ran : (new entropy watch (pictures.map Screen.start)).run operations = .ok cabinet)
    (playing : cabinet.world.playing = some session)
    (framed : cabinet.world.runPhases keyboard delta phase.earlier = .ok world)
    (copies : phase = .shots ∨ phase = .spawners) :
    (∀ attempt ∈ world.attempts phase, attempt.Whole) ∧
      ∀ after, world.runPhase keyboard delta phase = .ok after →
        ∃ last, Attempt.Linked (world.poised phase) (world.attempts phase) last ∧
          after = { last with nests := after.nests } := by
  refine ⟨?_, fun after done => World.linked_runPhase copies done⟩
  have alive := alive_of_run ran
  have lived := (World.Lived.phases alive playing framed).1
  have good : world.Sound cabinet.held := World.Lived.sound lived
  rcases copies with rfl | rfl
  · have unasked := rests_run World.rest_unasked (alive_new entropy watch pictures) rfl ran
    obtain ⟨clocked, first, framed⟩ := bind_eq_ok framed
    obtain ⟨driven, second, framed⟩ := bind_eq_ok framed
    cases framed
    cases second
    have sound : clocked.Sound cabinet.held :=
      (World.course_runPhase alive.sound first).1.sound alive.sound
    have still := unasked.runPhase alive.sound (by decide) first
    have armed := World.armed_driveControls sound still keyboard
    have emptied : World.Sound ((clocked.driveControls keyboard).poised .shots) cabinet.held := good
    exact World.whole_shotAttempts emptied armed
  · change ∀ attempt ∈ world.due, attempt.Whole
    unfold World.due
    split
    · rename_i nests clock working _
      refine World.whole_nestAttempts good ?_
      intro nest member
      rw [World.scenery, working]
      exact List.mem_map_of_mem member
    · intro attempt tried
      cases tried

/-- The mint of the small game is due in the second frame. -/
theorem Cabinet.copies_whole_coin :
    ∃ (cabinet : Cabinet Float32 Float) (session : Session) (world : World Float32 Float)
      (attempt : Attempt Float32 Float),
      (new Sample.entropy none (Option.map Screen.start none)).run
          [.start Sample.spec .default, .step none 5] = .ok cabinet ∧
        cabinet.world.playing = some session ∧
        cabinet.world.runPhases none 25 Phase.spawners.earlier = .ok world ∧
        attempt ∈ world.attempts .spawners ∧ attempt.id = "mint_spawned_0" ∧ attempt.Whole := by
  have fine : ((new Sample.entropy none (Option.map Screen.start none) : Cabinet Float32 Float).run
      [.start Sample.spec .default, .step none 5]).toOption.any (fun cabinet =>
        cabinet.world.playing.isSome &&
          (cabinet.world.runPhases none 25 Phase.spawners.earlier).toOption.any fun world =>
            (world.attempts .spawners).any fun attempt =>
              attempt.id == "mint_spawned_0") = true := by decide +kernel
  obtain ⟨cabinet, ran, fine⟩ := exists_ok_of_any fine
  obtain ⟨active, fine⟩ := (Bool.and_eq_true _ _).mp fine
  obtain ⟨session, playing⟩ := Option.isSome_iff_exists.mp active
  obtain ⟨world, framed, fine⟩ := exists_ok_of_any fine
  obtain ⟨attempt, tried, named⟩ := List.any_eq_true.mp fine
  exact ⟨cabinet, session, world, attempt, ran, playing, framed, tried, beq_iff_eq.mp named,
    (copies_whole ran playing framed (.inr rfl)).1 attempt tried⟩

namespace Sample

/-- A square that shoots a group. -/
def caster : Spec.Blueprint Float32 :=
  { idler "hero" with
    controls := some {
      left := none
      right := none
      up := none
      down := none
      jump := none
      shoot := some "Space"
      speed := none
      jumpVelocity := none
      projectile := some (.plain "volley" .group 0 0) } }

/-- A game with someone who shoots a group. -/
def volley : Spec Float32 := { spec with scenes := [⟨"main", [caster], none⟩] }

end Sample

/-- A shot of a group makes no actor and is not told of, but a group without members stays behind. -/
theorem Cabinet.copies_nothing_volley :
    ∃ (cabinet : Cabinet Float32 Float) (world after : World Float32 Float)
      (attempt : Attempt Float32 Float),
      (new Sample.entropy none (Option.map Screen.start none)).run [.start Sample.volley .default] =
          .ok cabinet ∧
        cabinet.world.playing.isSome = true ∧
        cabinet.world.runPhases (some [.space]) 25 Phase.shots.earlier = .ok world ∧
        attempt ∈ world.attempts .shots ∧ attempt.outcome = .ok after ∧
        after.roster.handles = attempt.world.roster.handles ∧
        attempt.world.diagnostics = some [] ∧ after.diagnostics = some [] ∧
        attempt.world.groups.contains attempt.id = false ∧
        after.groups.get? attempt.id = some [] := by
  have fine : ((new Sample.entropy none (Option.map Screen.start none) : Cabinet Float32 Float).run
      [.start Sample.volley .default]).toOption.any (fun cabinet =>
        cabinet.world.playing.isSome &&
          (cabinet.world.runPhases (some [.space]) 25 Phase.shots.earlier).toOption.any fun world =>
            (world.attempts .shots).any fun attempt => attempt.outcome.toOption.any fun after =>
              decide (after.roster.handles = attempt.world.roster.handles ∧
                attempt.world.diagnostics = some [] ∧ after.diagnostics = some [] ∧
                attempt.world.groups.contains attempt.id = false ∧
                after.groups.get? attempt.id = some [])) = true := by decide +kernel
  obtain ⟨cabinet, ran, fine⟩ := exists_ok_of_any fine
  obtain ⟨active, fine⟩ := (Bool.and_eq_true _ _).mp fine
  obtain ⟨world, framed, fine⟩ := exists_ok_of_any fine
  obtain ⟨attempt, tried, fine⟩ := List.any_eq_true.mp fine
  obtain ⟨after, ended, fine⟩ := exists_ok_of_any fine
  exact ⟨cabinet, world, after, attempt, ran, active, framed, tried, ended, of_decide_eq_true fine⟩

end Arcade
