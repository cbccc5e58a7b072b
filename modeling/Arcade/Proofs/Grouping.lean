import Arcade.Proofs.Naming

/-! Which groups can have members, and which groups a rule can name. Rules are bound once, when a
scene is built: to its objects and to the groups that are there by then. Members come later, with
copies and with shots. Every group that ever has a member was there when rules were bound, unless
only copies shoot: the group of shots is made ready for the objects of a scene, not for what its
spawners make. -/

namespace Arcade

variable {S T : Type}

/-! ### What a scene says of groups -/

namespace Spec.Scene

/-- The copies that a scene makes can shoot. -/
def CopiesShoot (scene : Spec.Scene S) : Prop :=
  ∃ spawner ∈ scene.spawners, World.shoots spawner.template = true

/-- An object of a scene shoots. -/
def ObjectsShoot (scene : Spec.Scene S) : Prop :=
  ∃ object ∈ scene.objects, World.shoots object = true

/-- Something in a scene can shoot. -/
def Armed (scene : Spec.Scene S) : Prop := scene.ObjectsShoot ∨ scene.CopiesShoot

/-- The groups in which the actors of a scene can be. -/
inductive Grouped (scene : Spec.Scene S) : String → Prop where
  | copies {spawner : Spec.Spawner S} (declared : spawner ∈ scene.spawners) :
      Grouped scene spawner.template.id
  | shots (armed : scene.Armed) : Grouped scene World.projectileGroup

/-- The rules about contacts, in the order in which they are bound. -/
def interactions (scene : Spec.Scene S) : List (Contact.Kind × String) :=
  let logic := scene.logic.getD .empty
  (logic.onCollision.getD []).map (Prod.mk .collision) ++
    (logic.onOverlap.getD []).map (Prod.mk .overlap)

end Spec.Scene

namespace World

variable {world before after : World S T} {scene : Spec.Scene S} {others : List Handle}

theorem shoots_eq_isSome (object : Spec.Blueprint S) :
    shoots object = object.weapon?.isSome := by
  unfold shoots Spec.Blueprint.weapon?
  cases object.controls <;> rfl

/-! ### The actors of a scene -/

/-- Only the spawners of the scene work, and every actor is in a group of the scene or in none, and
shoots only if something in the scene can shoot. -/
structure Cast (scene : Spec.Scene S) (world : World S T) : Prop where
  spawners : ∀ spawner ∈ world.scenery.spawners, spawner ∈ scene.spawners
  grouped : ∀ handle who, world.roster.who? handle = some who →
    ∀ name, who.group = some name → scene.Grouped name
  armed : ∀ handle who, world.roster.who? handle = some who →
    who.weapon.isSome = true → scene.Armed

/-- What may be done with the actors of a scene. -/
def Fits (scene : Spec.Scene S) : Deed S → Prop
  | .birth blueprint _ group => (∀ name, group = some name → scene.Grouped name) ∧
      (blueprint.weapon?.isSome = true → scene.Armed)
  | .arrange scenery => ∀ spawner ∈ scenery.spawners, spawner ∈ scene.spawners
  | .death _ | .note | .record _ => True

theorem Cast.congr (cast : before.Cast scene) (who : after.roster.who? = before.roster.who?)
    (scenery : after.scenery = before.scenery) : after.Cast scene where
  spawners := by
    rw [scenery]
    exact cast.spawners
  grouped := by
    rw [who]
    exact cast.grouped
  armed := by
    rw [who]
    exact cast.armed

/-- What fits a scene keeps its actors those of the scene. -/
theorem Cast.course {may : World S T → Deed S → Prop} (cast : before.Cast scene)
    (course : Course may before after)
    (fits : ∀ (world : World S T) (deed : Deed S), world.Cast scene → may world deed →
      Fits scene deed) : after.Cast scene := by
  induction course with
  | quiet quiet => exact cast.congr quiet.names.who quiet.scenery
  | birth allowed made =>
    obtain ⟨grouped, armed⟩ := fits _ _ cast allowed
    constructor
    · rw [made.scenery]
      exact cast.spawners
    · intro handle who known name own
      rcases made.new_or_before known with ⟨-, new⟩ | old
      · rw [new] at own
        exact grouped name own
      · exact cast.grouped handle who old name own
    · intro handle who known weapon
      rcases made.new_or_before known with ⟨-, new⟩ | old
      · rw [new] at weapon
        exact armed weapon
      · exact cast.armed handle who old weapon
  | death _ removed =>
    constructor
    · rw [removed.scenery]
      exact cast.spawners
    · intro handle who known
      exact cast.grouped handle who (removed.before_of_who known).2
    · intro handle who known
      exact cast.armed handle who (removed.before_of_who known).2
  | note _ noted => exact cast.congr rfl rfl
  | record _ behaves memory => exact cast.congr rfl rfl
  | arrange allowed arranged =>
    have who := arranged.names.who
    refine ⟨fits _ _ cast allowed, ?_, ?_⟩
    · rw [who]
      exact cast.grouped
    · rw [who]
      exact cast.armed
  | trans first second firstKeeps secondKeeps => exact secondKeeps (firstKeeps cast)

variable [Scalar S]

/-- Whatever may be done in a frame fits the scene that is played. -/
theorem Cast.fits_of_permits (cast : world.Cast scene) {phase : Phase} {deed : Deed S}
    (allowed : phase.permits world deed) : Fits scene deed := by
  cases deed with
  | death _ => trivial
  | note => trivial
  | record _ => trivial
  | birth blueprint id group =>
    cases phase with
    | shots =>
      obtain ⟨rfl, handle, who, known, weapon⟩ := allowed
      have armed : scene.Armed := cast.armed handle who known (by rw [weapon]; rfl)
      refine ⟨?_, fun _ => armed⟩
      rintro name ⟨⟩
      exact .shots armed
    | spawners =>
      obtain ⟨spawner, working, rfl, rfl⟩ := allowed
      have declared := cast.spawners spawner working
      refine ⟨?_, ?_⟩
      · rintro name ⟨⟩
        exact .copies declared
      · intro weapon
        exact .inr ⟨spawner, declared, (shoots_eq_isSome _).trans weapon⟩
    | timers | dispatch =>
      obtain ⟨⟨center, rfl⟩, -, rfl⟩ := allowed
      refine ⟨?_, ?_⟩
      · rintro name ⟨⟩
      · rintro ⟨⟩
    | clock | controls | behaviors | movement | contacts | cleanUp => exact allowed.elim
  | arrange scenery =>
    cases phase with
    | controls | shots =>
      rw [Fits, allowed]
      exact cast.spawners
    | clock | behaviors | spawners | timers | movement | contacts | dispatch | cleanUp =>
      exact allowed.elim

omit [Scalar S] in
theorem Cast.fits_of_building (cast : world.Cast scene) {deed : Deed S}
    (allowed : Deed.OfBuilding scene world deed) : Fits scene deed := by
  cases deed with
  | birth blueprint id group =>
    obtain ⟨declared, -, rfl⟩ := allowed
    refine ⟨?_, ?_⟩
    · rintro name ⟨⟩
    · intro weapon
      exact .inl ⟨blueprint, declared, (shoots_eq_isSome _).trans weapon⟩
  | arrange scenery =>
    obtain ⟨-, placed⟩ := allowed
    intro spawner working
    rcases placed spawner working with old | new
    · exact cast.spawners spawner old
    · exact new
  | death _ => trivial
  | note => trivial
  | record _ => trivial

variable [Scalar T]

/-- A game begins with the actors of its scene. -/
theorem cast_playScene (whole : world.Whole) (good : world.Sound others) (spec : Spec S)
    (scene : Spec.Scene S) (seed : Option Nat) :
    (world.playScene spec scene seed).2.Cast scene := by
  have ready : (world.tearDown.setUp spec seed).Sound others := (safe_tearDown world others good).1
  have nobody : ∀ handle, world.tearDown.roster.who? handle = none := by
    intro handle
    rw [Roster.who?_eq_none_iff, Roster.handles, (whole.tearDown good).actors]
    exact List.not_mem_nil
  have blank : World.Cast scene
      { world.tearDown.setUp spec seed with library := some (actionsOf scene) } := by
    refine ⟨?_, ?_, ?_⟩
    · intro spawner member
      cases member
    · intro handle who known
      exact absurd (known.symm.trans (nobody handle)) (Option.some_ne_none who)
    · intro handle who known
      exact absurd (known.symm.trans (nobody handle)) (Option.some_ne_none who)
  have built := blank.course (course_build ready scene) fun _ _ cast allowed =>
    cast.fits_of_building allowed
  exact built.congr (names_playScene world spec scene seed).who
    (scenery_playScene world spec scene seed)

variable [Circular S] [Sampling S] [Rounding T S]

theorem law_cast (scene : Spec.Scene S) :
    Law fun (_ : List Handle) (world : World S T) => world.Cast scene where
  camera _ cast := cast.congr rfl rfl
  phase := by
    intro others world after _ _ _ _ lived _ cast done
    have still : World.Cast scene { world with contacts := after.contacts } := cast.congr rfl rfl
    exact still.course (course_runPhase lived.sound done).1 fun _ _ cast allowed =>
      cast.fits_of_permits allowed
  draw lived _ cast done := by
    refine cast.course (course_draw lived.sound done) ?_
    intro _ _ _ allowed
    exact allowed.elim

end World

/-! ### Names that are known when rules are bound -/

namespace Registry

variable {registry : Registry S T}

theorem hasGroup_ensureGroup (registry : Registry S T) (name other : String) :
    (registry.ensureGroup name).hasGroup other = (decide (name = other) || registry.hasGroup other) := by
  by_cases same : name = other <;>
    simp [hasGroup, ensureGroup, Index.contains, Index.get?_insert, same]

theorem target?_of_hasGroup {name : String} (known : registry.hasGroup name = true) :
    (registry.target? name).isSome = true := by
  unfold target?
  split
  · rfl
  · rw [if_pos known]
    rfl

/-- A rule is not refused over a name that means something. -/
theorem bind_ne_unresolved {name : String} (known : (registry.target? name).isSome = true)
    (kind : Contact.Kind) (line : String) :
    registry.bind kind line ≠ .error (.unresolvedTarget line name) := by
  intro refused
  have missing : registry.target? name = none := by
    simp only [Registry.bind, Rule.Interaction.parse, Bind.bind, Except.bind] at refused
    split at refused
    · rename_i malformed
      split at malformed <;> cases malformed
      cases refused
    · rename_i rule _
      split at refused
      · rename_i first
        split at first <;> cases first
        cases refused
        assumption
      · split at refused
        · rename_i second
          split at second <;> cases second
          cases refused
          assumption
        · cases refused
  rw [missing] at known
  cases known

end Registry

namespace World

/-- Whether a name means something in a rule. -/
def knows (world : World S T) (name : String) : Bool :=
  ((world.registry.getD .empty).target? name).isSome

variable [Scalar S]

/-- Build the objects, the spawners and the group of shots of a scene, but bind no rules. -/
def furnish (world : World S T) (scene : Spec.Scene S) [Scalar T] : World S T :=
  let placed := scene.objects.foldl placeObject { world with library := some (actionsOf scene) }
  let working := scene.spawners.foldl placeSpawner placed
  if scene.objects.any shoots then
    working.withRegistry fun registry => registry.ensureGroup projectileGroup
  else working

variable [Scalar T]

/-- The world in which a rule of a scene is bound after some others. -/
def binding (world : World S T) (scene : Spec.Scene S) (earlier : List (Contact.Kind × String)) :
    World S T :=
  earlier.foldl (fun world rule => placeInteraction rule.1 world rule.2) (world.furnish scene)

/-- A scene is built by binding its rules, and then its timers, in the furnished world. -/
theorem build_eq_binding (world : World S T) (scene : Spec.Scene S) :
    world.build scene = ((scene.logic.getD .empty).timers.getD []).foldl placeTimer
      (world.binding scene scene.interactions) := by
  simp only [binding, Spec.Scene.interactions, List.foldl_append, List.foldl_map]
  rfl

omit [Scalar S] in
/-- A spawner that is set to work adds the group of its template. -/
theorem hasGroup_placeSpawners (spawners : List (Spec.Spawner S)) (world : World S T)
    (name : String) :
    ((spawners.foldl placeSpawner world).registry.getD .empty).hasGroup name =
      (spawners.any (fun spawner => decide (spawner.template.id = name)) ||
        (world.registry.getD .empty).hasGroup name) := by
  induction spawners generalizing world with
  | nil => rfl
  | cons spawner rest ih =>
    have added : ((world.placeSpawner spawner).registry.getD .empty).hasGroup name =
        (decide (spawner.template.id = name) || (world.registry.getD .empty).hasGroup name) :=
      Registry.hasGroup_ensureGroup _ _ _
    rw [List.foldl_cons, ih, added, List.any_cons, ← Bool.or_assoc, Bool.or_comm (rest.any _)]

/-- No rule that is bound changes what names mean. -/
theorem registry_binding (world : World S T) (scene : Spec.Scene S)
    (earlier : List (Contact.Kind × String)) :
    (world.binding scene earlier).registry = (world.furnish scene).registry := by
  unfold binding
  generalize world.furnish scene = furnished
  induction earlier generalizing furnished with
  | nil => rfl
  | cons rule rest ih =>
    rw [List.foldl_cons, ih]
    exact (quiet_placeInteraction rule.1 furnished rule.2).names.registry

/-- The groups of a scene are there when its rules are bound, but the group of shots only if objects
shoot. -/
theorem hasGroup_furnish {scene : Spec.Scene S} {name : String} (grouped : scene.Grouped name)
    (ready : name = projectileGroup → scene.CopiesShoot → scene.ObjectsShoot)
    (world : World S T) :
    ((world.furnish scene).registry.getD .empty).hasGroup name = true := by
  let placed := scene.objects.foldl placeObject { world with library := some (actionsOf scene) }
  cases grouped with
  | @copies spawner declared =>
    have working : ((scene.spawners.foldl placeSpawner placed).registry.getD .empty).hasGroup
        spawner.template.id = true := by
      rw [hasGroup_placeSpawners, Bool.or_eq_true, List.any_eq_true]
      exact .inl ⟨spawner, declared, decide_eq_true rfl⟩
    unfold furnish
    split
    · exact (Registry.hasGroup_ensureGroup _ _ _).trans (by rw [working, Bool.or_true])
    · exact working
  | shots armed =>
    have shooters : scene.objects.any shoots = true := by
      rw [List.any_eq_true]
      rcases armed with objects | copies
      · exact objects
      · exact ready rfl copies
    unfold furnish
    rw [if_pos shooters]
    exact (Registry.hasGroup_ensureGroup _ _ _).trans (by rw [decide_eq_true rfl, Bool.true_or])

variable [Circular S] [Sampling S] [Rounding T S]

/-- Every group that has a member, at any time after a game was started and as long as it is played,
was known whenever a rule of the scene was bound, so that no rule was refused over its name. The game was
started in a world that was built so, rule by rule. For the group of shots this asks that objects of the
scene shoot if its copies do. -/
theorem Lived.members_known {others₀ others : List Handle} {world₀ started : World S T}
    {spec : Spec S} {options : StartOptions} {session : Session} {scene : Spec.Scene S}
    {name : String} {member : Handle}
    (lived : world₀.Lived others₀) (chosen : spec.choose options.scene = .ok scene)
    (start : world₀.tryStart spec options = (started, .ok session))
    (since : Later others₀ started others world) (playing : world.playing = some session)
    (joined : member ∈ (world.registry.getD .empty).members name)
    (ready : name = projectileGroup → scene.CopiesShoot → scene.ObjectsShoot)
    (earlier : List (Contact.Kind × String)) (kind : Contact.Kind) (line : String) :
    let ready := world₀.tearDown.setUp spec options.seed
    let binding := ready.binding scene earlier
    (binding.knows name = true ∧
      (binding.registry.getD .empty).bind kind line ≠ .error (.unresolvedTarget line name)) ∧
    (∀ later, scene.interactions = earlier ++ (kind, line) :: later →
      ready.build scene = ((scene.logic.getD .empty).timers.getD []).foldl placeTimer
        (later.foldl (fun world rule => placeInteraction rule.1 world rule.2)
          (placeInteraction kind binding line))) ∧
    started = emit { ready.build scene with playing := some session }
      (.gameStarted session.title session.scene session.generation) none := by
  have played := playScene_of_tryStart chosen start
  have begun := lived.start start
  have active : started.playing = some session := by
    obtain ⟨active, -⟩ := session_playScene lived.sound spec scene options.seed
    rw [played] at active
    exact active
  have first : started.Cast scene := by
    have cast := cast_playScene lived.whole lived.sound spec scene options.seed
    rw [played] at cast
    exact cast
  have cast := (law_cast scene).later begun active first since playing
  obtain ⟨registry, found, named⟩ := Lived.named (World.Lived.trans begun since) playing
  rw [found] at joined
  obtain ⟨who, known, own⟩ := (named.grouped name member).mp joined
  have grouped := cast.grouped member who known name own
  have there := hasGroup_furnish grouped ready (world₀.tearDown.setUp spec options.seed)
  rw [← registry_binding _ scene earlier] at there
  have means := Registry.target?_of_hasGroup there
  refine ⟨⟨means, Registry.bind_ne_unresolved means kind line⟩, fun later rules => ?_, ?_⟩
  · rw [build_eq_binding, rules]
    simp only [binding, List.foldl_append, List.foldl_cons]
  · cases played
    rfl

end World

/-! ### Shots of objects and shots of copies -/

namespace Sample

/-- A square that shoots squares. -/
def gunner (id : String) : Spec.Blueprint Float32 :=
  { Spec.Blueprint.plain id .rectangle 0 0 with
    shape := some ⟨none, none, none, none⟩
    body := some ⟨.dynamic, none, none, none⟩
    controls := some ⟨none, none, none, none, none, some "Space", some (walker "bullet"), none, none⟩ }

/-- What touches a shot goes. -/
def hit : String := "wall, projectiles -> destroy"

/-- A wall that shots hit, with other objects, and with a spawner that makes gunners. -/
def range (objects : List (Spec.Blueprint Float32)) : Spec.Scene Float32 where
  name := "main"
  objects := { walker "wall" with x := 400, y := 300 } :: objects
  logic := some {
    onCollision := none
    onOverlap := some [hit]
    timers := none
    spawners := some [⟨"nest", gunner "guard", 10, some 1, "corner", none⟩]
    actions := none }

def shooting (objects : List (Spec.Blueprint Float32)) : Spec Float32 :=
  { spec with scenes := [range objects] }

/-- The world in which the rules of the scene are bound. -/
def bound (objects : List (Spec.Blueprint Float32)) : World Float32 Float :=
  ((World.empty Sample.entropy).tearDown.setUp (shooting objects) none).binding (range objects) []

/-- Somebody is in the group of shots when Space was held for two frames. -/
def volleyed (objects : List (Spec.Blueprint Float32)) : Bool :=
  match (World.empty Sample.entropy : World Float32 Float).tryStart (shooting objects) .default with
  | (started, .ok session) =>
    match started.play [(some [.space], 25), (some [.space], 25)] with
    | .ok world => decide (world.playing = some session) &&
        !((world.registry.getD .empty).members World.projectileGroup).isEmpty
    | .error _ => false
  | (_, .error _) => false

theorem volleyed_cases {objects : List (Spec.Blueprint Float32)} (shot : volleyed objects = true) :
    ∃ (started world : World Float32 Float) (session : Session) (member : Handle),
      (World.empty Sample.entropy).tryStart (shooting objects) .default = (started, .ok session) ∧
        started.play [(some [.space], 25), (some [.space], 25)] = .ok world ∧
        world.playing = some session ∧
        member ∈ (world.registry.getD .empty).members World.projectileGroup := by
  unfold volleyed at shot
  split at shot
  · rename_i started session start
    split at shot
    · rename_i world played
      obtain ⟨playing, joined⟩ := (Bool.and_eq_true _ _).mp shot
      obtain ⟨member, joined⟩ := List.exists_mem_of_ne_nil _ (by simpa using joined)
      exact ⟨started, world, session, member, start, played, of_decide_eq_true playing, joined⟩
    · cases shot
  · cases shot

end Sample

/-- The hero shoots, and so do the copies: the rule about shots is bound. -/
theorem World.Lived.members_known_hero :
    ∃ (started world : World Float32 Float) (session : Session) (member : Handle),
      (World.empty Sample.entropy).tryStart (Sample.shooting [Sample.gunner "hero"]) .default =
          (started, .ok session) ∧
        started.play [(some [.space], 25), (some [.space], 25)] = .ok world ∧
        world.playing = some session ∧
        member ∈ (world.registry.getD .empty).members projectileGroup ∧
        (Sample.bound [Sample.gunner "hero"]).knows projectileGroup = true ∧
          ((Sample.bound [Sample.gunner "hero"]).registry.getD .empty).bind .overlap Sample.hit ≠
            .error (.unresolvedTarget Sample.hit projectileGroup) := by
  have shot : Sample.volleyed [Sample.gunner "hero"] = true := by decide +kernel
  obtain ⟨started, world, session, member, start, played, playing, joined⟩ :=
    Sample.volleyed_cases shot
  have begun : started.Lived [] := (lived_empty Sample.entropy).start start
  have since := Later.refl.play begun.sound played
  exact ⟨started, world, session, member, start, played, playing, joined,
    (Lived.members_known (lived_empty Sample.entropy) rfl start since playing joined
      (fun _ _ => ⟨Sample.gunner "hero", List.mem_cons_of_mem _ List.mem_cons_self, rfl⟩) []
      .overlap Sample.hit).1⟩

/-- Only the copies shoot: the group of shots has a member that no rule could name. -/
theorem World.members_unknown_guard :
    ∃ (started world : World Float32 Float) (session : Session) (member : Handle),
      (World.empty Sample.entropy).tryStart (Sample.shooting []) .default = (started, .ok session) ∧
        started.play [(some [.space], 25), (some [.space], 25)] = .ok world ∧
        world.playing = some session ∧
        member ∈ (world.registry.getD .empty).members projectileGroup ∧
        (Sample.bound []).knows projectileGroup = false ∧
          ((Sample.bound []).registry.getD .empty).bind .overlap Sample.hit =
            .error (.unresolvedTarget Sample.hit projectileGroup) := by
  have shot : Sample.volleyed [] = true := by decide +kernel
  obtain ⟨started, world, session, member, start, played, playing, joined⟩ :=
    Sample.volleyed_cases shot
  exact ⟨started, world, session, member, start, played, playing, joined, by decide +kernel, rfl⟩

end Arcade
