import Arcade.Proofs.Life
import Arcade.Proofs.Reading
import Arcade.Proofs.Single

/-! What can stop a game. The only step of a frame that can fail is to draw a number from a range that
is too wide to measure. The edges of a world never are, so a game whose spawners vary the places of
their copies within measurable ranges goes on for ever. -/

namespace Arcade

variable {S T : Type} [Scalar S] [Sampling S]

/-! ### Ranges that can be drawn from -/

/-- Whether the range between two bounds can be measured, or is not drawn from at all. -/
def Random.measurable (a b : S) : Bool :=
  let (low, high) := if a ≤ b then (a, b) else (b, a)
  !(Scalar.isFinite low && Scalar.isFinite high) || low == high ||
    (Sampling.stretch? low high).isSome

/-- Whether the ranges in which a spawner varies places are measurable. -/
def Spec.Variance.measurable (variance : Spec.Variance S) : Bool :=
  Random.measurable variance.xMin variance.xMax &&
    match variance.yMin, variance.yMax with
    | some yMin, some yMax => Random.measurable yMin yMax
    | _, _ => true

def Spec.Spawner.measurable (spawner : Spec.Spawner S) : Bool :=
  spawner.variance.all Spec.Variance.measurable

/-- A draw fails exactly when the range cannot be measured. -/
theorem Random.isOk_between (random : Random) (a b : S) :
    (Generator.between random a b).isOk = measurable a b := by
  simp only [Generator.between, measurable]
  generalize (if a ≤ b then (a, b) else (b, a)) = range
  obtain ⟨low, high⟩ := range
  simp only
  split
  · rename_i still
    rw [still]
    rfl
  · rename_i drawn
    rw [Bool.not_eq_true] at drawn
    rw [drawn, Bool.false_or]
    change (random.within low high).isOk = _
    rw [within]
    cases Sampling.stretch? low high <;> rfl

theorem Random.between_eq_ok {a b : S} (fine : measurable a b = true) (random : Random) :
    ∃ drawn, Generator.between random a b = .ok drawn :=
  eq_ok_of_isOk ((isOk_between random a b).trans fine)

namespace Spawn

theorem exists_draw {extent : Vec S} (across : Random.measurable 0 extent.x = true)
    (down : Random.measurable 0 extent.y = true) (area : Area) (random : Random) :
    ∃ drawn, area.draw extent random = .ok drawn := by
  cases area with
  | top => exact exists_bind_eq_ok (Random.between_eq_ok across random) fun _ _ => ⟨_, rfl⟩
  | bottom => exact exists_bind_eq_ok (Random.between_eq_ok across random) fun _ _ => ⟨_, rfl⟩
  | left => exact exists_bind_eq_ok (Random.between_eq_ok down random) fun _ _ => ⟨_, rfl⟩
  | right => exact exists_bind_eq_ok (Random.between_eq_ok down random) fun _ _ => ⟨_, rfl⟩
  | anywhere =>
    refine exists_bind_eq_ok (Random.between_eq_ok across random) fun drawn _ => ?_
    exact exists_bind_eq_ok (Random.between_eq_ok down drawn.2) fun _ _ => ⟨_, rfl⟩
  | origin => exact ⟨_, rfl⟩

theorem exists_vary {variance : Spec.Variance S} (fine : variance.measurable = true)
    (place : Vec S) (random : Random) : ∃ drawn, vary variance place random = .ok drawn := by
  obtain ⟨across, down⟩ := (Bool.and_eq_true _ _).mp fine
  refine exists_bind_eq_ok (Random.between_eq_ok across random) fun drawn _ => ?_
  simp only
  split
  · rename_i yMin yMax low high
    rw [low, high] at down
    exact exists_bind_eq_ok (Random.between_eq_ok down drawn.2) fun _ _ => ⟨_, rfl⟩
  · exact ⟨_, rfl⟩

/-- A place is drawn for every copy when the edges of the world and the ranges of the spawner are
measurable. -/
theorem exists_position {extent : Vec S} (across : Random.measurable 0 extent.x = true)
    (down : Random.measurable 0 extent.y = true) {spawner : Spec.Spawner S}
    (fine : spawner.measurable = true) (random : Random) :
    ∃ drawn, position spawner.area spawner.variance extent random = .ok drawn := by
  refine exists_bind_eq_ok (exists_draw across down _ random) fun drawn _ => ?_
  simp only
  split
  · rename_i variance varied
    rw [Spec.Spawner.measurable, varied] at fine
    exact exists_vary fine drawn.1 drawn.2
  · exact ⟨_, rfl⟩

end Spawn

/-! ### Frames that do not fail -/

namespace World

variable [Scalar T] {world after : World S T} {others : List Handle}

/-- Wherever a spawner at work may draw a place from is measurable. -/
structure Scenery.Measurable (scenery : Scenery S) : Prop where
  across : Random.measurable 0 (scenery.extent.getD .zero).x = true
  down : Random.measurable 0 (scenery.extent.getD .zero).y = true
  spawners : ∀ spawner ∈ scenery.spawners, spawner.measurable = true

omit [Scalar T] in
theorem exists_drawPlace (fine : world.scenery.Measurable) {spawner : Spec.Spawner S}
    (working : spawner ∈ world.scenery.spawners) : ∃ drawn, world.drawPlace spawner = .ok drawn := by
  have placed := Spawn.exists_position fine.across fine.down (fine.spawners spawner working)
    (world.random.getD (world.entropy world.starts))
  exact exists_bind_eq_ok placed fun _ _ => ⟨_, rfl⟩

omit [Scalar T] in
theorem exists_spawnOne (fine : world.scenery.Measurable) {spawner : Spec.Spawner S}
    (working : spawner ∈ world.scenery.spawners) : ∃ made, world.spawnOne spawner = .ok made := by
  simp only [spawnOne]
  split
  · exact ⟨_, rfl⟩
  · refine exists_bind_eq_ok (exists_drawPlace fine working) fun drawn _ => ?_
    split
    · exact ⟨_, rfl⟩
    · exact ⟨_, rfl⟩
    · exact ⟨_, rfl⟩

omit [Scalar T] in
theorem exists_spawnMany (good : world.Sound others) (fine : world.scenery.Measurable)
    {spawner : Spec.Spawner S} (working : spawner ∈ world.scenery.spawners) (number : Nat) :
    ∃ made, spawnMany spawner number world = .ok made := by
  induction number generalizing world with
  | zero => exact ⟨_, rfl⟩
  | succ rest ih =>
    refine exists_bind_eq_ok (exists_spawnOne fine working) fun made done => ?_
    obtain ⟨next, more⟩ := made
    have course := course_spawnOne good working done
    have same := scenery_ofSpawners course
    simp only
    split
    · exact ih (course.sound good) (same ▸ fine) (same ▸ working)
    · exact ⟨_, rfl⟩

theorem exists_tickNest (good : world.Sound others) (fine : world.scenery.Measurable)
    {nest : Nest S T} (working : nest.spawner ∈ world.scenery.spawners) (now : T) :
    ∃ ticked, world.tickNest nest now = .ok ticked :=
  exists_bind_eq_ok (exists_spawnMany good fine working _) fun _ _ => ⟨_, rfl⟩

theorem exists_tickNests (good : world.Sound others) (fine : world.scenery.Measurable)
    {nests : List (Nest S T)} (working : ∀ nest ∈ nests, nest.spawner ∈ world.scenery.spawners)
    (now : T) : ∃ ticked, tickNests now nests world = .ok ticked := by
  induction nests generalizing world with
  | nil => exact ⟨_, rfl⟩
  | cons nest rest ih =>
    have own := working nest List.mem_cons_self
    refine exists_bind_eq_ok (exists_tickNest good fine own now) fun ticked done => ?_
    obtain ⟨next, later⟩ := ticked
    obtain ⟨course, -⟩ := course_tickNest good own done
    have same := scenery_ofSpawners course
    refine exists_bind_eq_ok (ih (course.sound good) (same ▸ fine) ?_) fun _ _ => ⟨_, rfl⟩
    intro other member
    rw [same]
    exact working other (List.mem_cons_of_mem _ member)

theorem exists_tickSpawners (good : world.Sound others) (fine : world.scenery.Measurable) :
    ∃ after, world.tickSpawners = .ok after := by
  unfold tickSpawners
  split
  · rename_i nests clock working _
    refine exists_bind_eq_ok (exists_tickNests good fine ?_ clock.now) fun _ _ => ⟨_, rfl⟩
    intro nest member
    rw [scenery, working]
    exact List.mem_map_of_mem member
  · exact ⟨_, rfl⟩

variable [Circular S] [Rounding T S] {keyboard : Option (List Key)} {delta : T}

variable (keyboard delta) in
/-- Only spawners can fail. -/
theorem exists_runPhase (good : world.Sound others) (fine : world.scenery.Measurable)
    (phase : Phase) : ∃ after, world.runPhase keyboard delta phase = .ok after := by
  cases phase with
  | spawners => exact exists_tickSpawners good fine
  | _ => exact ⟨_, rfl⟩

/-- What can be measured stays so, as nothing that happens in a frame sets up spawners. -/
theorem Scenery.Measurable.runPhase (fine : world.scenery.Measurable) (good : world.Sound others)
    {phase : Phase} (done : world.runPhase keyboard delta phase = .ok after) :
    after.scenery.Measurable := by
  refine (course_runPhase good done).1.laid Scenery.Measurable ?_ fine
  intro world scenery allowed kept
  cases phase with
  | controls =>
    rw [allowed]
    exact ⟨kept.across, kept.down, kept.spawners⟩
  | shots =>
    rw [allowed]
    exact ⟨kept.across, kept.down, kept.spawners⟩
  | _ => exact allowed.elim

theorem exists_runPhases (good : world.Sound others) (fine : world.scenery.Measurable)
    (phases : List Phase) : ∃ after, world.runPhases keyboard delta phases = .ok after ∧
      after.Sound others ∧ after.scenery.Measurable := by
  induction phases generalizing world with
  | nil => exact ⟨world, rfl, good, fine⟩
  | cons phase rest ih =>
    obtain ⟨next, done⟩ := exists_runPhase keyboard delta good fine phase
    have sound : next.Sound others := (course_runPhase good done).1.sound good
    obtain ⟨after, finished, kept⟩ := ih sound (fine.runPhase good done)
    refine ⟨after, ?_, kept⟩
    rw [runPhases, List.foldlM_cons, done]
    exact finished

/-- Frames go on for ever where everything is measurable. -/
theorem exists_play (good : world.Sound others) (fine : world.scenery.Measurable)
    (frames : List (Option (List Key) × T)) : ∃ after, world.play frames = .ok after := by
  induction frames generalizing world with
  | nil => exact ⟨world, rfl⟩
  | cons frame rest ih =>
    have stepped : ∃ after, world.step frame.1 frame.2 = .ok after ∧ after.Sound others ∧
        after.scenery.Measurable := by
      unfold step
      split
      · exact ⟨world, rfl, good, fine⟩
      · exact exists_runPhases good fine Phase.order
    obtain ⟨next, done, sound, kept⟩ := stepped
    obtain ⟨after, finished⟩ := ih sound kept
    refine ⟨after, ?_⟩
    rw [play, List.foldlM_cons, done]
    exact finished

/-! ### Starts -/

omit [Circular S] [Rounding T S] in
/-- The scenery of a game that begins is the one that its scene declares. -/
theorem measurable_playScene (good : world.Sound others) {spec : Spec S} {scene : Spec.Scene S}
    (across : Random.measurable 0 (Scalar.ofNat spec.settings.width : S) = true)
    (down : Random.measurable 0 (Scalar.ofNat spec.settings.height : S) = true)
    (spawners : ∀ spawner ∈ scene.spawners, spawner.measurable = true) (seed : Option Nat) :
    (world.playScene spec scene seed).2.scenery.Measurable := by
  have ready : (world.tearDown.setUp spec seed).Sound others := (safe_tearDown world others good).1
  rw [scenery_playScene]
  refine (course_build ready scene).laid Scenery.Measurable ?_ ⟨across, down, ?_⟩
  · intro world scenery allowed kept
    rw [allowed.1]
    refine ⟨kept.across, kept.down, ?_⟩
    intro spawner working
    rcases allowed.2 spawner working with before | declared
    · exact kept.spawners spawner before
    · exact spawners spawner declared
  · intro spawner working
    cases working

omit [Scalar S] [Sampling S] [Scalar T] [Circular S] [Rounding T S] in
/-- A scene of a valid game can be chosen by its name. -/
theorem choose_name {spec : Spec S} (valid : spec.validate = .ok ()) {scene : Spec.Scene S}
    (declared : scene ∈ spec.scenes) : spec.choose (some scene.name) = .ok scene := by
  simp only [Spec.choose, scene?_name valid declared]

/-- A game whose ranges are all measurable starts, and its frames go on for ever. -/
theorem Lived.exists_play (lived : world.Lived others) {spec : Spec S}
    (valid : spec.validate = .ok ())
    (across : Random.measurable 0 (Scalar.ofNat spec.settings.width : S) = true)
    (down : Random.measurable 0 (Scalar.ofNat spec.settings.height : S) = true)
    {scene : Spec.Scene S} (declared : scene ∈ spec.scenes)
    (spawners : ∀ spawner ∈ scene.spawners, spawner.measurable = true) (seed : Option Nat)
    (frames : List (Option (List Key) × T)) :
    ∃ started session after, world.tryStart spec ⟨some scene.name, seed⟩ = (started, .ok session) ∧
      started.play frames = .ok after := by
  have good := Lived.sound lived
  have sound := (safe_playScene world others spec scene seed good).1
  obtain ⟨after, done⟩ :=
    World.exists_play sound (measurable_playScene good across down spawners seed) frames
  exact ⟨_, _, after, tryStart_of_choose valid (choose_name valid declared), done⟩

/-- The sizes of a world are words, and the range of a word can be measured. -/
theorem measurable_word {natural : Nat} (small : natural < UInt32.size) :
    Random.measurable (0 : Float32) (Scalar.ofNat natural) = true := by
  obtain ⟨rising, falling⟩ := Single.isSome_stretch small
  simp only [Random.measurable, Bool.or_eq_true]
  refine .inr ?_
  split
  · exact rising
  · exact falling

/-- A game that was accepted starts with any of its scenes, and its frames go on for ever whatever
is held down, provided that the ranges in which its spawners vary places are measurable. -/
theorem Lived.plays_on {world : World Float32 Float} (lived : world.Lived others) {text : String}
    {spec : Spec Float32} (accepted : Spec.ofText text = .ok spec) {scene : Spec.Scene Float32}
    (declared : scene ∈ spec.scenes)
    (spawners : ∀ spawner ∈ scene.spawners, spawner.measurable = true) (seed : Option Nat)
    (frames : List (Option (List Key) × Float)) :
    ∃ started session after, world.tryStart spec ⟨some scene.name, seed⟩ = (started, .ok session) ∧
      started.play frames = .ok after := by
  obtain ⟨valid, width, height⟩ := Spec.valid_of_ofText accepted
  exact Lived.exists_play lived valid (measurable_word width) (measurable_word height) declared
    spawners seed frames

end World

namespace Sample

/-- A game with a rain of squares across a range. -/
def rain (range : String) : String :=
  r#"["Rain","",[800,600,"",[true,[0,0]]],[],[["main",[],[null,null,null,["# ++
    r#"["rain",["drop","rectangle",0,0,null,[8,8]],10,null,"sky",["# ++ range ++ "]]]]]]]"

end Sample

/-- Whatever is held down, the squares rain on. -/
theorem World.Lived.plays_on_rain :
    ∃ (spec : Spec Float32) (scene : Spec.Scene Float32),
      Spec.ofText (Sample.rain "-300,300") = .ok spec ∧ scene ∈ spec.scenes ∧
        scene.spawners ≠ [] ∧ ∀ (seed : Option Nat) (frames : List (Option (List Key) × Float)),
          ∃ started session after,
            (empty Sample.entropy : World Float32 Float).tryStart spec ⟨some scene.name, seed⟩ =
                (started, .ok session) ∧ started.play frames = .ok after := by
  have fine : (Spec.ofText (Sample.rain "-300,300") : Except SpecError (Spec Float32)).toOption.any
      (fun spec => spec.scenes.any fun scene => decide (scene.spawners ≠ []) &&
        scene.spawners.all Spec.Spawner.measurable) = true := by decide +kernel
  obtain ⟨spec, accepted, fine⟩ := exists_ok_of_any fine
  obtain ⟨scene, declared, fine⟩ := List.any_eq_true.mp fine
  obtain ⟨raining, measured⟩ := (Bool.and_eq_true _ _).mp fine
  exact ⟨spec, scene, accepted, declared, of_decide_eq_true raining,
    Lived.plays_on (lived_empty Sample.entropy) accepted declared (List.all_eq_true.mp measured)⟩

/-- A range as wide as the numbers go is accepted, and stops the game in its first frame. -/
theorem World.breaks_down_flood :
    ∃ (spec : Spec Float32) (started : World Float32 Float) (session : Session),
      Spec.ofText (Sample.rain "-3e38,3e38") = .ok spec ∧
        (empty Sample.entropy : World Float32 Float).tryStart spec ⟨some "main", some 1⟩ =
          (started, .ok session) ∧
        started.play [(some [], 25)] = .error .rangeTooWide := by
  have fine : (Spec.ofText (Sample.rain "-3e38,3e38") : Except SpecError (Spec Float32)).toOption.any
      (fun spec =>
        let attempt := (empty Sample.entropy : World Float32 Float).tryStart spec ⟨some "main", some 1⟩
        attempt.2.toOption.any fun _ =>
          decide ((attempt.1.play [(some [], 25)]).map (fun _ => ()) = .error .rangeTooWide)) =
        true := by decide +kernel
  obtain ⟨spec, accepted, fine⟩ := exists_ok_of_any fine
  obtain ⟨session, start, fine⟩ := exists_ok_of_any fine
  refine ⟨spec, _, session, accepted, Prod.ext rfl start, ?_⟩
  exact eq_error_of_map (of_decide_eq_true fine)

end Arcade
