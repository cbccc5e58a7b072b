import Arcade.Proofs.Stirring

/-! Only bodies that can be moved move. An actor without a body, or with a body that is static, stays
where it was made for as long as it is there, and a static body stays at rest, whatever steers the
actor and whatever hits it. Of a push a static body takes a share of zero; with exact fractions that is
no push at all. -/

namespace Arcade

variable {S T : Type}

/-! ### At rest -/

/-- Whether the body that a blueprint asks for can be moved, if it asks for one. -/
def Spec.Blueprint.mobility? [Scalar S] (blueprint : Spec.Blueprint S) : Option Bool :=
  (blueprint.body.bind Body.ofSpec?).map (·.movable)

namespace Actor

/-- The body of an actor, if it has one, has no velocity and stands on nothing. -/
def Rests [Scalar S] (actor : Actor S T) : Prop :=
  ∀ body, actor.body = some body → body.velocity = .zero ∧ body.grounded = false

/-- An actor that cannot be moved stays where it is, and at rest. -/
structure Anchored [Scalar S] (before after : Actor S T) : Prop where
  mobility : after.mobility? = before.mobility?
  position : before.movable = false → after.position = before.position
  rests : before.movable = false → before.Rests → after.Rests

theorem Anchored.refl [Scalar S] (actor : Actor S T) : Anchored actor actor :=
  ⟨rfl, fun _ => rfl, fun _ rests => rests⟩

theorem rests_newcomer [Scalar S] {blueprint : Spec.Blueprint S} (keys : KeyCache)
    (look : Appearance S) (handle : Handle) (id : String) (position : Vec S)
    (fixed : blueprint.mobility? ≠ some true) :
    (blueprint.newcomer keys look handle id position : Actor S T).Rests := by
  intro body has
  have asked : blueprint.body.bind Body.ofSpec? = some body := has
  obtain ⟨form, -, built⟩ := Option.bind_eq_some_iff.mp asked
  rw [Spec.Blueprint.mobility?, asked] at fixed
  unfold Body.ofSpec? at built
  split at built
  · cases built
  · cases built
    exact ⟨rfl, rfl⟩
  · cases built
    exact absurd rfl fixed

theorem movable_eq_false_iff {actor : Actor S T} :
    actor.movable = false ↔ actor.mobility? ≠ some true := by
  rw [movable_eq_mobility?]
  rcases actor.mobility? with _ | _ | _ <;> simp

/-- Where nothing is left of a number times zero, a share of zero is no push. -/
theorem pushed_scale_zero [Scalar S] (vanishes : ∀ x : S, (x * 0 == 0) = true)
    (actor : Actor S T) (push : Vec S) :
    actor.pushed (push.scale 0) = { actor with moved := true } := by
  have nothing : (push.scale 0).isZero = true :=
    (Bool.and_eq_true _ _).mpr ⟨vanishes push.x, vanishes push.y⟩
  rw [pushed, if_pos nothing]

theorem Steady.anchored [Scalar S] {before after : Actor S T} (steady : Steady before after) :
    Anchored before after := by
  refine ⟨steady.mobility, fun _ => steady.position, fun fixed rests body has => ?_⟩
  rw [steady.body fixed] at has
  exact rests body has

theorem lenient_anchored [Scalar S] (vanishes : ∀ x : S, (x * 0 == 0) = true) :
    World.Lenient (Anchored (S := S) (T := T)) where
  gentle gentle := gentle.anchored
  moves arena seconds actor := by
    unfold integrated
    split
    · exact ⟨rfl, fun _ => rfl, fun _ rests => rests⟩
    · rename_i body has
      split
      · rename_i free
        have movable := (movable_eq has).trans free
        refine ⟨?_, fun fixed => ?_, fun fixed => ?_⟩
        · rw [mobility?, mobility?, has]
          rfl
        · rw [movable] at fixed
          cases fixed
        · rw [movable] at fixed
          cases fixed
      · refine ⟨?_, fun _ => rfl, fun _ rests after same => ?_⟩
        · rw [mobility?, mobility?, has]
          rfl
        · cases same
          exact ⟨(rests body has).1, rfl⟩
  pushes {actor push} spared := by
    refine ⟨mobility_pushed push actor, fun fixed => ?_, fun fixed rests => ?_⟩
    · obtain ⟨whole, rfl⟩ := spared fixed
      rw [pushed_scale_zero vanishes]
    · obtain ⟨whole, rfl⟩ := spared fixed
      rw [pushed_scale_zero vanishes]
      exact rests

end Actor

/-! ### Where actors were made -/

namespace World

variable [Scalar S] {before middle after world : World S T} {others : List Handle}
  {handle : Handle} {actor : Actor S T}

/-- Where the actor of a handle was made. -/
def cradle? (world : World S T) (handle : Handle) : Option (Vec S) :=
  (world.cradles.find? (·.1 = handle)).map (·.2)

/-- An actor has the kind of body that its blueprint asked for; if that is none, or one that cannot be
moved, it is where it was made, and at rest. -/
structure Moored (world : World S T) (actor : Actor S T) (birth : Birth S) : Prop where
  own : birth.handle = actor.handle
  mobility : actor.mobility? = birth.blueprint.mobility?
  place : actor.movable = false → world.cradle? actor.handle = some actor.position
  rests : actor.movable = false → actor.Rests

/-- Everybody is moored. -/
def Harbored (world : World S T) : Prop :=
  ∀ handle actor, world.roster.find? handle = some actor →
    ∃ birth ∈ world.births, world.Moored actor birth

theorem Moored.of_cradles {birth : Birth S} (moored : before.Moored actor birth)
    (same : after.cradle? actor.handle = before.cradle? actor.handle) :
    after.Moored actor birth :=
  ⟨moored.own, moored.mobility, fun fixed => same.trans (moored.place fixed), moored.rests⟩

/-- Whoever is anchored stays moored. -/
theorem Moored.anchored {birth : Birth S} {later : Actor S T} (moored : world.Moored actor birth)
    (same : later.handle = actor.handle) (anchored : Actor.Anchored actor later) :
    world.Moored later birth := by
  have still : later.movable = actor.movable := by
    rw [Actor.movable_eq_mobility?, anchored.mobility, ← Actor.movable_eq_mobility?]
  refine ⟨moored.own.trans same.symm, anchored.mobility.trans moored.mobility, ?_, ?_⟩
  · intro fixed
    rw [still] at fixed
    rw [same, anchored.position fixed]
    exact moored.place fixed
  · intro fixed
    rw [still] at fixed
    exact anchored.rests fixed (moored.rests fixed)

/-- Whoever is left stays moored. -/
theorem Harbored.left (harbored : before.Harbored) (same : after.origins = before.origins)
    (known : ∀ handle actor, after.roster.find? handle = some actor →
      before.roster.find? handle = some actor) : after.Harbored := by
  simp only [origins, Prod.mk.injEq] at same
  obtain ⟨births, cradles⟩ := same
  intro handle actor found
  obtain ⟨birth, born, moored⟩ := harbored handle actor (known handle actor found)
  refine ⟨birth, by rwa [births], moored.of_cradles ?_⟩
  rw [cradle?, cradles, cradle?]

theorem Harbored.changed {roster : Roster S T} (harbored : world.Harbored)
    (changes : ∀ handle later, roster.find? handle = some later → ∃ actor,
      world.roster.find? handle = some actor ∧ later.handle = actor.handle ∧
        Actor.Anchored actor later) :
    World.Harbored { world with roster } := by
  intro handle later found
  obtain ⟨actor, known, same, anchored⟩ := changes handle later found
  obtain ⟨birth, born, moored⟩ := harbored handle actor known
  exact ⟨birth, born, (moored.anchored same anchored).of_cradles rfl⟩

theorem Harbored.made {blueprint : Spec.Blueprint S} {id : String} {position : Vec S}
    (harbored : before.Harbored) (good : before.Sound others)
    (made : before.create blueprint id position = .ok (.actor handle, after)) : after.Harbored := by
  obtain ⟨look, -, welcomes⟩ := welcomes_create good made
  have fresh := (made_create good made).fresh good
  have noted := origins_create made
  simp only [origins, Prod.mk.injEq] at noted
  obtain ⟨births, cradles⟩ := noted
  intro other actor found
  rw [welcomes] at found
  split at found
  · rename_i hit
    cases found
    refine ⟨⟨handle, id, blueprint⟩, by rw [births]; exact List.mem_cons_self, rfl, rfl, ?_, ?_⟩
    · intro fixed
      rw [cradle?, cradles]
      exact congrArg (Option.map Prod.snd) (List.find?_cons_of_pos (decide_eq_true rfl))
    · intro fixed
      exact Actor.rests_newcomer _ look handle id position (Actor.movable_eq_false_iff.mp fixed)
  · rename_i different
    obtain ⟨birth, born, moored⟩ := harbored other actor found
    have own : actor.handle = other := by simpa using List.find?_some found
    refine ⟨birth, by rw [births]; exact List.mem_cons_of_mem _ born, moored.of_cradles ?_⟩
    rw [cradle?, cradles, cradle?, own]
    exact congrArg (Option.map Prod.snd) (List.find?_cons_of_neg (by simpa using different))

/-- Whatever happens to anchored actors, everybody stays moored. -/
theorem Stirs.harbored (stirs : Stirs Actor.Anchored before after) (good : before.Sound others)
    (harbored : before.Harbored) : after.Harbored := by
  induction stirs with
  | beside same =>
    simp only [footing, Prod.mk.injEq] at same
    obtain ⟨-, roster, -, births, cradles, -⟩ := same
    refine harbored.left ?_ ?_
    · rw [origins, births, cradles, origins]
    · rw [roster]
      exact fun _ _ found => found
  | told source midway =>
    refine harbored.left (by simp only [origins, emit]) ?_
    simp only [emit]
    exact fun _ _ found => found
  | made made => exact harbored.made good made
  | gone world gone =>
    refine harbored.left (origins_destroy world gone) ?_
    intro other actor found
    rw [find?_destroy good] at found
    split at found
    · cases found
    · exact found
  | changed keeps follows =>
    refine harbored.changed fun handle later found => ?_
    rw [Roster.find?_map keeps] at found
    obtain ⟨actor, known, rfl⟩ := Option.map_eq_some_iff.mp found
    exact ⟨actor, known, keeps actor, follows handle actor known⟩
  | updated changed keeps follows =>
    refine harbored.changed fun handle later found => ?_
    rw [Roster.find?_update good.distinct keeps] at found
    split at found
    · obtain ⟨actor, known, rfl⟩ := Option.map_eq_some_iff.mp found
      exact ⟨actor, known, keeps actor, follows actor⟩
    · exact ⟨later, found, rfl, .refl later⟩
  | trans first second firstKeeps secondKeeps =>
    exact secondKeeps (first.safe good).1 (firstKeeps good harbored)

/-! ### Over a life -/

theorem harbored_of_nobody (nobody : world.roster.actors = []) : world.Harbored := by
  intro handle actor found
  rw [Roster.find?, nobody, List.find?_nil] at found
  cases found

variable [Scalar T]

theorem harbored_playScene (whole : world.Whole) (good : world.Sound others) (spec : Spec S)
    (scene : Spec.Scene S) (seed : Option Nat) :
    (world.playScene spec scene seed).2.Harbored := by
  have ready : (world.tearDown.setUp spec seed).Sound others := (safe_tearDown world others good).1
  have nobody : (world.tearDown.setUp spec seed).Harbored :=
    harbored_of_nobody (whole.tearDown good).actors
  have built := (stirs_build (world.tearDown.setUp spec seed) scene).harbored ready nobody
  refine built.left ?_ ?_
  · simp only [playScene, origins, emit]
  · simp only [playScene, emit]
    exact fun _ _ found => found

omit [Scalar S] [Scalar T] in
theorem issued_of_found (found : world.roster.find? handle = some actor) :
    world.Issued others handle := by
  left
  rw [alive, Roster.contains, found]
  rfl

omit [Scalar S] [Scalar T] in
/-- Where nobody is left, whoever was there is gone for good. -/
theorem Issued.spent (issued : world.Issued others handle) (nobody : world.roster.actors = []) :
    world.Spent others handle := by
  rcases issued with here | gone
  · rw [alive, Roster.contains, Roster.find?, nobody, List.find?_nil] at here
    cases here
  · exact gone

/-- Nobody is left of the games before when a game starts. -/
theorem Issued.spent_playScene (issued : world.Issued others handle) (whole : world.Whole)
    (good : world.Sound others) (spec : Spec S) (scene : Spec.Scene S) (seed : Option Nat) :
    (world.playScene spec scene seed).2.Spent others handle := by
  have cleared : (world.tearDown.setUp spec seed).Spent others handle :=
    (issued.tearDown good).spent (whole.tearDown good).actors
  have ready : (world.tearDown.setUp spec seed).Sound others := (safe_tearDown world others good).1
  have built := (course_build ready scene).spent cleared
  exact built.of_sameNames (names_playScene world spec scene seed)

variable [Circular S] [Sampling S] [Rounding T S]

/-- While a game is played everybody stays moored. -/
theorem law_harbored (vanishes : ∀ x : S, (x * 0 == 0) = true) :
    Law fun (_ : List Handle) (world : World S T) => world.Harbored where
  camera _ harbored := harbored.left rfl fun _ _ found => found
  phase lived _ harbored done :=
    ((Actor.lenient_anchored vanishes).stirs_runPhase done).harbored lived.sound harbored
  draw lived _ harbored done :=
    ((stirs_draw done).mono fun _ _ => Actor.Steady.anchored).harbored lived.sound harbored

theorem Lived.harbored (vanishes : ∀ x : S, (x * 0 == 0) = true) (lived : world.Lived others) :
    world.Harbored := by
  rcases lived.whole with ⟨session, playing⟩ | idle
  · refine (law_harbored vanishes).lived ?_ lived playing.active
    intro others world spec options scene lived _ _
    exact harbored_playScene lived.whole lived.sound spec scene options.seed
  · exact harbored_of_nobody idle.actors

/-- Whoever cannot be moved stays where it is until it is gone for good. -/
theorem Later.anchored (vanishes : ∀ x : S, (x * 0 == 0) = true) {others₀ : List Handle}
    {origin : World S T} (lived : origin.Lived others₀) (later : Later others₀ origin others world)
    (found : origin.roster.find? handle = some actor) (fixed : actor.movable = false) :
    (∃ other, world.roster.find? handle = some other ∧
        other.movable = false ∧ other.position = actor.position) ∨
      world.Spent others handle := by
  have lenient := Actor.lenient_anchored (T := T) vanishes
  have kept (before after : Actor S T) (anchored : Actor.Anchored before after)
      (still : before.movable = false ∧ before.position = actor.position) :
      after.movable = false ∧ after.position = actor.position := by
    refine ⟨?_, (anchored.position still.1).trans still.2⟩
    rw [Actor.movable_eq_mobility?, anchored.mobility, ← Actor.movable_eq_mobility?]
    exact still.1
  induction later with
  | refl => exact .inl ⟨actor, found, fixed, rfl⟩
  | camera later still =>
    rcases still with here | gone
    · exact .inl here
    · exact .inr ((Later.camera .refl).spent (later.sound lived.sound) gone)
  | @start others world later spec options still =>
    have good : world.Sound others := later.sound lived.sound
    rcases still with ⟨other, here, still⟩ | gone
    · rcases tryStart_cases world spec options with same | ⟨scene, -, -, started⟩
      · rw [same]
        exact .inl ⟨other, here, still⟩
      · rw [started]
        exact .inr ((issued_of_found here).spent_playScene (Lived.whole (lived.trans later)) good
          spec scene options.seed)
    · exact .inr ((Later.refl.start spec options).spent good gone)
  | @stop others world later session still =>
    have good : world.Sound others := later.sound lived.sound
    rcases still with ⟨other, here, still⟩ | gone
    · rcases Lived.stop_cases (lived.trans later) session with same | idle
      · rw [same]
        exact .inl ⟨other, here, still⟩
      · exact .inr (((issued_of_found here).stop good session).spent idle.actors)
    · exact .inr ((Later.refl.stop session).spent good gone)
  | phase later active done still =>
    have good := later.sound lived.sound
    rcases still with ⟨other, here, still⟩ | gone
    · exact (lenient.stirs_runPhase done).keeps good kept here still
    · exact .inr ((Later.refl.phase active done).spent good gone)
  | draw later done still =>
    have good := later.sound lived.sound
    rcases still with ⟨other, here, still⟩ | gone
    · exact ((stirs_draw done).mono fun _ _ => Actor.Steady.anchored).keeps good kept here still
    · exact .inr ((Later.refl.draw done).spent good gone)

end World

/-! ### Exact fractions -/

theorem Scalar.mul_zero_rat (x : Rat) : (x * (0 : Rat) == 0) = true := by
  rw [Rat.mul_zero]
  rfl

/-- With exact fractions, whoever has no body or a static one is where it was made from then on until
it is gone, and a static body has no velocity and stands on nothing, however far a frame has come. -/
theorem World.Lived.unmoved [Scalar T] [Circular Rat] [Rounding T Rat] {others : List Handle}
    {world : World Rat T} {handle : Handle} {actor : Actor Rat T} (lived : world.Lived others)
    (found : world.roster.find? handle = some actor) :
    ∃ birth ∈ world.births, birth.handle = handle ∧
      actor.mobility? = birth.blueprint.mobility? ∧
      (actor.mobility? ≠ some true →
        world.cradle? handle = some actor.position ∧
          (∀ body, actor.body = some body → body.velocity = .zero ∧ body.grounded = false) ∧
          ∀ {held : List Handle} {later : World Rat T}, World.Later others world held later →
            ∀ other, later.roster.find? handle = some other → other.position = actor.position) := by
  have own : actor.handle = handle := by simpa using List.find?_some found
  obtain ⟨birth, born, moored⟩ := lived.harbored Scalar.mul_zero_rat handle actor found
  refine ⟨birth, born, moored.own.trans own, moored.mobility, fun immobile => ?_⟩
  have fixed := Actor.movable_eq_false_iff.mpr immobile
  refine ⟨own ▸ moored.place fixed, moored.rests fixed, fun later other there => ?_⟩
  rcases later.anchored Scalar.mul_zero_rat lived found fixed with ⟨stays, here, -, still⟩ | gone
  · rw [here] at there
    cases there
    exact still
  · rw [gone.find?_eq_none] at there
    cases there

namespace Sample

/-- Directions that are good enough for a game in which nobody takes one. -/
abbrev compass : Circular Rat := ⟨fun angle => angle, fun _ => 1, fun y _ => y, 6⟩

/-- A square of ten by ten at a place, with a body. -/
def block (id : String) (x y : Rat) (body : Spec.Body Rat) : Spec.Blueprint Rat :=
  { Spec.Blueprint.plain id .rectangle x y with
    shape := some ⟨some 10, some 10, none, none⟩
    body := some body }

/-- A ball that falls on a wall. The wall has keys to jump by, and is told to patrol. -/
def fall : Spec Rat where
  title := "Fall"
  description := ""
  settings := ⟨800, 600, "", ⟨true, ⟨0, 100⟩, false⟩⟩
  assets := []
  scenes := [{
    name := "main"
    objects := [
      { block "wall" 50 50 ⟨.static, none, some true, none⟩ with
        behavior := some .patrol
        controls := some ⟨some "left", some "right", some "space", none, none, none, none, none, none⟩ },
      block "ball" 50 42 ⟨.dynamic, some 1, none, some ⟨0, 40⟩⟩]
    logic := some {
      onCollision := some ["wall, ball -> null"]
      onOverlap := none
      timers := none
      spawners := none
      actions := none } }]
  controlsDescription := []
  keyConcepts := []

end Sample

/-- A wall that a ball has just hit stays in place, though keys are held that it listens to. -/
theorem World.Lived.unmoved_wall :
    ∃ (_ : Circular Rat) (cabinet : Cabinet Rat Rat) (world : World Rat Rat) (handle : Handle)
      (actor : Actor Rat Rat),
      (Cabinet.new Sample.entropy none (Option.map Screen.start none)).run [.start Sample.fall .default] =
          .ok cabinet ∧
        cabinet.world.runPhases (some [.arrowLeft, .space]) 50 Phase.dispatch.earlier = .ok world ∧
        world.Lived cabinet.held ∧ world.handle? "wall" = some handle ∧
        world.roster.find? handle = some actor ∧
        (world.contacts.getD []).isEmpty = false ∧ actor.mobility? = some false ∧
        ∃ birth ∈ world.births, birth.handle = handle ∧
          actor.mobility? = birth.blueprint.mobility? ∧
          world.cradle? handle = some actor.position ∧
          (∀ body, actor.body = some body → body.velocity = .zero ∧ body.grounded = false) ∧
          ∀ {held : List Handle} {later : World Rat Rat}, World.Later cabinet.held world held later →
            ∀ other, later.roster.find? handle = some other → other.position = actor.position := by
  let _ : Circular Rat := Sample.compass
  refine ⟨Sample.compass, ?_⟩
  have fine : ((Cabinet.new Sample.entropy none (Option.map Screen.start none) : Cabinet Rat Rat).run
      [.start Sample.fall .default]).toOption.any (fun cabinet =>
        cabinet.world.playing.isSome &&
          (cabinet.world.runPhases (some [.arrowLeft, .space]) 50
            Phase.dispatch.earlier).toOption.any fun world =>
              !(world.contacts.getD []).isEmpty && (world.handle? "wall").any fun handle =>
                (world.roster.find? handle).any fun actor =>
                  actor.mobility? = some false) = true := by decide +kernel
  obtain ⟨cabinet, ran, fine⟩ := exists_ok_of_any fine
  obtain ⟨active, fine⟩ := (Bool.and_eq_true _ _).mp fine
  obtain ⟨session, playing⟩ := Option.isSome_iff_exists.mp active
  obtain ⟨world, framed, fine⟩ := exists_ok_of_any fine
  obtain ⟨met, fine⟩ := (Bool.and_eq_true _ _).mp fine
  obtain ⟨handle, meant, fine⟩ := (Option.any_eq_true _ _).mp fine
  obtain ⟨actor, found, fixed⟩ := (Option.any_eq_true _ _).mp fine
  have immobile : actor.mobility? = some false := of_decide_eq_true fixed
  have alive := Cabinet.alive_of_run ran
  obtain ⟨lived, -⟩ := World.Lived.phases alive playing framed
  obtain ⟨birth, born, own, same, stays⟩ := unmoved lived found
  have stays := stays (by rw [immobile]; decide)
  exact ⟨cabinet, world, handle, actor, ran, framed, lived, meant, found, by simpa using met,
    immobile, birth, born, own, same, stays⟩

end Arcade
