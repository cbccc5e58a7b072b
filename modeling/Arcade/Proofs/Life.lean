import Arcade.Proofs.Scene
import Arcade.Run

/-! What becomes of a world: games start and stop in it, the parts of frames run, it is shown, and a
camera takes a place in it. Whatever happens to a cabinet is a sequence of these, also in the
middle of a frame; so a law of worlds that each of them keeps holds of every world that a cabinet
ever has. -/

namespace Arcade

variable {S T : Type} [Scalar S] [Scalar T] [Circular S] [Sampling S] [Rounding T S]

/-- What a world becomes, with what is held in it besides the actors. -/
inductive World.Later (others₀ : List Handle) (world₀ : World S T) :
    List Handle → World S T → Prop where
  | refl : Later others₀ world₀ others₀ world₀
  | camera {world : World S T} (later : Later others₀ world₀ [] world) :
      Later others₀ world₀ [world.handles.take.1] { world with handles := world.handles.take.2 }
  | start {others : List Handle} {world : World S T} (later : Later others₀ world₀ others world)
      (spec : Spec S) (options : StartOptions) :
      Later others₀ world₀ others (world.tryStart spec options).1
  | stop {others : List Handle} {world : World S T} (later : Later others₀ world₀ others world)
      (session : Session) : Later others₀ world₀ others (world.stop session)
  | phase {others : List Handle} {world after : World S T} {session : Session}
      {keyboard : Option (List Key)} {delta : T} {phase : Phase}
      (later : Later others₀ world₀ others world) (playing : world.playing = some session)
      (done : world.runPhase keyboard delta phase = .ok after) : Later others₀ world₀ others after
  | draw {others : List Handle} {world after : World S T} {pictures : Bool}
      (later : Later others₀ world₀ others world) (done : world.draw pictures = .ok after) :
      Later others₀ world₀ others after

namespace World

variable {world₀ world after : World S T} {others₀ others : List Handle} {session : Session}
  {keyboard : Option (List Key)} {delta : T}

theorem Later.trans {others₁ : List Handle} {world₁ : World S T}
    (first : Later others₀ world₀ others₁ world₁) (second : Later others₁ world₁ others world) :
    Later others₀ world₀ others world := by
  induction second with
  | refl => exact first
  | camera _ later => exact later.camera
  | start _ spec options later => exact later.start spec options
  | stop _ session later => exact later.stop session
  | phase _ playing done later => exact later.phase playing done
  | draw _ done later => exact later.draw done

theorem Later.sound (later : Later others₀ world₀ others world) (good : world₀.Sound others₀) :
    world.Sound others := by
  induction later with
  | refl => exact good
  | camera _ sound => exact sound.camera
  | start later spec options sound => exact (safe_tryStart _ _ spec options sound).1
  | stop later session sound => exact (safe_stop _ _ session sound).1
  | phase later playing done sound => exact (course_runPhase sound done).1.sound sound
  | draw later done sound => exact (course_draw sound done).sound sound

/-- What was given back is never given out again. -/
theorem Later.spent (later : Later others₀ world₀ others world) (good : world₀.Sound others₀)
    {handle : Handle} (gone : world₀.Spent others₀ handle) : world.Spent others handle := by
  induction later with
  | refl => exact gone
  | camera _ spent => exact spent.camera
  | start later spec options spent =>
    exact (safe_tryStart _ _ spec options (later.sound good)).2 handle spent
  | stop later session spent => exact (safe_stop _ _ session (later.sound good)).2 handle spent
  | phase later playing done spent => exact (course_runPhase (later.sound good) done).1.spent spent
  | draw later done spent => exact (course_draw (later.sound good) done).spent spent

/-- The parts of a frame run while the game is played, and it is played on. -/
theorem Later.phases (later : Later others₀ world₀ others world) (good : world₀.Sound others₀)
    (playing : world.playing = some session) {phases : List Phase}
    (done : world.runPhases keyboard delta phases = .ok after) :
    Later others₀ world₀ others after ∧ after.playing = some session := by
  induction phases generalizing world with
  | nil =>
    cases done
    exact ⟨later, playing⟩
  | cons phase rest ih =>
    obtain ⟨next, first, done⟩ := bind_eq_ok done
    have still := (scene_runPhase (later.sound good) first).playing
    exact ih (later.phase playing first) (still.trans playing) done

theorem Later.step (later : Later others₀ world₀ others world) (good : world₀.Sound others₀)
    (done : world.step keyboard delta = .ok after) : Later others₀ world₀ others after := by
  unfold World.step at done
  split at done
  · cases done
    exact later
  · rename_i playing
    exact (later.phases good playing done).1

/-- Frames one after the other, each with the keys that are held and the time that passes. -/
def play (world : World S T) (frames : List (Option (List Key) × T)) : Except Crash (World S T) :=
  frames.foldlM (fun world frame => world.step frame.1 frame.2) world

theorem Later.play (later : Later others₀ world₀ others world) (good : world₀.Sound others₀)
    {frames : List (Option (List Key) × T)} (done : world.play frames = .ok after) :
    Later others₀ world₀ others after := by
  induction frames generalizing world with
  | nil =>
    cases done
    exact later
  | cons frame rest ih =>
    obtain ⟨next, first, done⟩ := bind_eq_ok done
    exact ih (later.step good first) done

/-- Commands start and stop games, and nothing else. -/
theorem Later.serve (later : Later others₀ world₀ others world) (command : Api.Command S) :
    Later others₀ world₀ others (Api.serve world command).1 := by
  cases command with
  | start spec options => exact later.start spec options
  | stop =>
    simp only [Api.serve, Api.stopCurrent]
    split
    · exact later.stop _
    · exact later
  | status => exact later
  | spec => exact later
  | events since name => exact later

theorem Later.serveAll (later : Later others₀ world₀ others world)
    (commands : List (Api.Command S)) :
    Later others₀ world₀ others (Api.serveAll world commands).1 := by
  induction commands generalizing world with
  | nil => exact later
  | cons command rest ih => exact ih (later.serve command)

/-- A world that a game can live in, which began without anything. What games without a seed are given in
it can be anything. -/
def Lived (others : List Handle) (world : World S T) : Prop :=
  ∃ entropy, Later [] (.empty entropy) others world

theorem lived_empty (entropy : Entropy) : (empty entropy : World S T).Lived [] := ⟨entropy, .refl⟩

namespace Lived

theorem trans (lived : world₀.Lived others₀) (later : Later others₀ world₀ others world) :
    world.Lived others :=
  lived.imp fun _ first => first.trans later

/-- What holds of a world without anything, and is kept by whatever happens, holds of every world that a
game can live in. -/
@[elab_as_elim]
theorem induction {motive : (others : List Handle) → (world : World S T) → world.Lived others → Prop}
    (empty : ∀ entropy, motive [] (.empty entropy) (lived_empty entropy))
    (camera : ∀ {world : World S T} (lived : world.Lived []), motive [] world lived →
      motive [world.handles.take.1] { world with handles := world.handles.take.2 }
        (lived.trans (.camera .refl)))
    (start : ∀ {others : List Handle} {world : World S T} (lived : world.Lived others) (spec : Spec S)
      (options : StartOptions), motive others world lived →
      motive others (world.tryStart spec options).1 (lived.trans (.start .refl spec options)))
    (stop : ∀ {others : List Handle} {world : World S T} (lived : world.Lived others)
      (session : Session), motive others world lived →
      motive others (world.stop session) (lived.trans (.stop .refl session)))
    (phase : ∀ {others : List Handle} {world after : World S T} {session : Session}
      {keyboard : Option (List Key)} {delta : T} {phase : Phase} (lived : world.Lived others)
      (playing : world.playing = some session)
      (done : world.runPhase keyboard delta phase = .ok after), motive others world lived →
      motive others after (lived.trans (.phase .refl playing done)))
    (draw : ∀ {others : List Handle} {world after : World S T} {pictures : Bool}
      (lived : world.Lived others) (done : world.draw pictures = .ok after),
      motive others world lived → motive others after (lived.trans (.draw .refl done)))
    {others : List Handle} {world : World S T} (lived : world.Lived others) :
    motive others world lived := by
  obtain ⟨entropy, later⟩ := lived
  induction later with
  | refl => exact empty entropy
  | camera later held => exact camera _ held
  | start later spec options held => exact start _ spec options held
  | stop later session held => exact stop _ session held
  | phase later playing done held => exact phase _ playing done held
  | draw later done held => exact draw _ done held

theorem sound (lived : world.Lived others) : world.Sound others := by
  obtain ⟨entropy, later⟩ := lived
  exact later.sound Handles.sound_start

theorem start (lived : world₀.Lived others) {spec : Spec S} {options : StartOptions}
    {outcome : Except StartError Session}
    (start : world₀.tryStart spec options = (world, outcome)) : world.Lived others := by
  have reached := lived.trans (.start .refl spec options)
  rw [start] at reached
  exact reached

theorem phase {phase : Phase} (lived : world.Lived others) (playing : world.playing = some session)
    (done : world.runPhase keyboard delta phase = .ok after) : after.Lived others :=
  lived.trans (.phase .refl playing done)

/-- The parts of a frame run while the game is played, and it is played on. -/
theorem phases {phases : List Phase} (lived : world.Lived others)
    (playing : world.playing = some session)
    (done : world.runPhases keyboard delta phases = .ok after) :
    after.Lived others ∧ after.playing = some session :=
  (Later.phases .refl lived.sound playing done).imp_left lived.trans

theorem draw {pictures : Bool} (lived : world.Lived others)
    (done : world.draw pictures = .ok after) : after.Lived others :=
  lived.trans (.draw .refl done)

theorem serve (lived : world.Lived others) (command : Api.Command S) :
    (Api.serve world command).1.Lived others :=
  lived.trans (Later.refl.serve command)

theorem serveAll (lived : world.Lived others) (commands : List (Api.Command S)) :
    (Api.serveAll world commands).1.Lived others :=
  lived.trans (Later.refl.serveAll commands)

end Lived

/-- A game is played with all its parts, or none is. -/
theorem Lived.whole (lived : world.Lived others) : world.Whole := by
  induction lived using Lived.induction with
  | empty entropy => exact .inr (idle_empty entropy)
  | camera later whole =>
    rcases whole with ⟨session, playing⟩ | idle
    · refine .inl ⟨session, playing.of_sameScene ⟨rfl, rfl, rfl, rfl, ?_⟩⟩
      intro part there
      cases part <;> exact there
    · refine .inr ⟨idle.inactive, ?_, idle.actors⟩
      intro part
      have gone := idle.parts part
      cases part <;> exact gone
  | start later spec options whole => exact whole.tryStart (Lived.sound later) spec options
  | stop later session whole => exact whole.stop (Lived.sound later) session
  | phase later active done whole =>
    rcases whole with ⟨session, playing⟩ | idle
    · exact .inl ⟨session, playing.of_sameScene (scene_runPhase (Lived.sound later) done)⟩
    · rw [idle.inactive] at active
      cases active
  | draw later done whole =>
    rcases whole with ⟨session, playing⟩ | idle
    · exact .inl ⟨session, playing.of_sameScene (course_draw (Lived.sound later) done).scene⟩
    · exact .inr (idle.draw done)

/-! ### Laws of a game -/

/-- A law of the world of a game, which whatever happens while the game is played keeps. -/
structure Law (holds : List Handle → World S T → Prop) : Prop where
  camera : ∀ {world : World S T}, world.Lived [] → holds [] world →
    holds [world.handles.take.1] { world with handles := world.handles.take.2 }
  phase : ∀ {others : List Handle} {world after : World S T} {session : Session}
    {keyboard : Option (List Key)} {delta : T} {phase : Phase}, world.Lived others →
    world.playing = some session → holds others world →
    world.runPhase keyboard delta phase = .ok after → holds others after
  draw : ∀ {others : List Handle} {world after : World S T} {session : Session} {pictures : Bool},
    world.Lived others → world.playing = some session → holds others world →
    world.draw pictures = .ok after → holds others after

variable {holds : List Handle → World S T → Prop}

/-- A game that is played after a stop was played before. -/
theorem Lived.stop_cases (lived : world.Lived others) (stopped : Session) :
    world.stop stopped = world ∨ (world.stop stopped).Idle := by
  unfold World.stop
  split
  · split
    · exact .inr (lived.whole.tearDown lived.sound)
    · exact .inl rfl
  · exact .inl rfl

/-- As long as a game is played all parts of its scene are there. -/
theorem Lived.hasPart (lived : world.Lived others) (playing : world.playing = some session)
    (part : Part) : world.has part = true := by
  rcases lived.whole with ⟨active, whole⟩ | idle
  · exact whole.parts part
  · rw [idle.inactive] at playing
    cases playing

/-- A law that holds when a scene starts holds as long as it is played. -/
theorem Law.lived (law : Law holds)
    (start : ∀ {others : List Handle} {world : World S T} {spec : Spec S} {options : StartOptions}
      {scene : Spec.Scene S}, world.Lived others → spec.validate = .ok () →
      spec.choose options.scene = .ok scene →
      holds others (world.playScene spec scene options.seed).2)
    (lived : world.Lived others) (playing : world.playing = some session) :
    holds others world := by
  induction lived using Lived.induction generalizing session with
  | empty entropy => cases playing
  | camera later still => exact law.camera later (still playing)
  | @start others world later spec options still =>
    rcases tryStart_cases world spec options with same | ⟨scene, valid, chosen, started⟩
    · rw [same] at playing ⊢
      exact still playing
    · rw [started]
      exact start later valid chosen
  | stop later stopped still =>
    rcases Lived.stop_cases later stopped with same | idle
    · rw [same] at playing ⊢
      exact still playing
    · rw [idle.inactive] at playing
      cases playing
  | phase later active done still => exact law.phase later active (still active) done
  | draw later done still =>
    have active := (course_draw (Lived.sound later) done).scene.playing.symm.trans playing
    exact law.draw later active (still active) done

/-- A game is known by how many were started before it. -/
theorem law_generation : Law fun (_ : List Handle) (world : World S T) =>
    ∀ session, world.playing = some session → session.generation = world.starts where
  camera _ known := known
  phase lived _ known done := by
    have same := scene_runPhase lived.sound done
    rw [same.playing, same.starts]
    exact known
  draw lived _ known done := by
    have same := (course_draw lived.sound done).scene
    rw [same.playing, same.starts]
    exact known

theorem Lived.generation (lived : world.Lived others) (playing : world.playing = some session) :
    session.generation = world.starts := by
  refine law_generation.lived ?_ lived playing session playing
  intro others world spec options scene later _ _ started same
  obtain ⟨active, starts⟩ := session_playScene later.sound spec scene options.seed
  rw [active] at same
  cases same
  exact starts

/-- Games that were started stay counted. -/
theorem Later.starts_le (later : Later others₀ world₀ others world) (good : world₀.Sound others₀) :
    world₀.starts ≤ world.starts := by
  induction later with
  | refl => exact Nat.le_refl _
  | camera _ counted => exact counted
  | @start others world later spec options counted =>
    rcases tryStart_cases world spec options with same | ⟨scene, -, -, started⟩
    · rw [same]
      exact counted
    · rw [started, starts_playScene (later.sound good)]
      exact Nat.le_succ_of_le counted
  | stop later session counted =>
    rw [starts_stop (later.sound good)]
    exact counted
  | phase later _ done counted =>
    rw [(scene_runPhase (later.sound good) done).starts]
    exact counted
  | draw later done counted =>
    rw [(course_draw (later.sound good) done).scene.starts]
    exact counted

/-- A law that holds somewhere in a game holds to the end of that game. -/
theorem Law.later (law : Law holds) (lived : world₀.Lived others₀)
    (begun : world₀.playing = some session) (start : holds others₀ world₀)
    (later : Later others₀ world₀ others world) (playing : world.playing = some session) :
    holds others world := by
  have number := lived.generation begun
  induction later with
  | refl => exact start
  | camera later still => exact law.camera (lived.trans later) (still playing)
  | @start others world later spec options still =>
    rcases tryStart_cases world spec options with same | ⟨scene, -, -, started⟩
    · rw [same] at playing ⊢
      exact still playing
    · -- another game has another number
      have good := later.sound lived.sound
      obtain ⟨active, last⟩ := session_playScene good spec scene options.seed
      rw [started, active] at playing
      cases playing
      rw [last, starts_playScene good] at number
      exact absurd (number ▸ later.starts_le lived.sound) (Nat.not_succ_le_self _)
  | stop later stopped still =>
    have reached := lived.trans later
    rcases Lived.stop_cases reached stopped with same | idle
    · rw [same] at playing ⊢
      exact still playing
    · rw [idle.inactive] at playing
      cases playing
  | phase later active done still =>
    have reached := lived.trans later
    have same := (scene_runPhase (Lived.sound reached) done).playing
    exact law.phase reached active (still (same.symm.trans playing)) done
  | draw later done still =>
    have reached := lived.trans later
    have active := (course_draw (Lived.sound reached) done).scene.playing.symm.trans playing
    exact law.draw reached active (still active) done

/-! ### Laws of a world at rest -/

/-- A law of worlds in which no frame is under way. -/
structure Rest (holds : World S T → Prop) : Prop where
  idle : ∀ {world : World S T}, world.Idle → holds world
  start : ∀ {others : List Handle} {world : World S T} (spec : Spec S) (scene : Spec.Scene S)
    (seed : Option Nat), world.Lived others → holds (world.playScene spec scene seed).2
  camera : ∀ {world : World S T} (handles : Handles), holds world → holds { world with handles }
  step : ∀ {others : List Handle} {world after : World S T} {session : Session}
    {keyboard : Option (List Key)} {delta : T}, world.Lived others →
    world.playing = some session → holds world → world.step keyboard delta = .ok after → holds after
  draw : ∀ {others : List Handle} {world after : World S T} {pictures : Bool}, world.Lived others →
    holds world → world.draw pictures = .ok after → holds after

/-- A law of games that start and stop. -/
structure Handover (holds : World S T → Prop) : Prop where
  start : ∀ {others : List Handle} {world : World S T} {spec : Spec S} {options : StartOptions}
    {scene : Spec.Scene S}, world.Lived others → holds world → spec.validate = .ok () →
    spec.choose options.scene = .ok scene → holds (world.playScene spec scene options.seed).2
  stop : ∀ {others : List Handle} {world : World S T} (session : Session), world.Lived others →
    holds world → (world.stop session).Idle → holds (world.stop session)

/-- A law of what comes between frames. -/
structure Repose (holds : World S T → Prop) : Prop extends Handover holds where
  camera : ∀ {world : World S T} (handles : Handles), holds world → holds { world with handles }
  draw : ∀ {others : List Handle} {world after : World S T} {pictures : Bool}, world.Lived others →
    holds world → world.draw pictures = .ok after → holds after

variable {rests : World S T → Prop}

theorem Rest.repose (rest : Rest rests) : Repose rests where
  start lived _ _ _ := rest.start _ _ _ lived
  stop _ _ _ idle := rest.idle idle
  camera := rest.camera
  draw := rest.draw

theorem Handover.tryStart (rest : Handover rests) (lived : world.Lived others) (still : rests world)
    (spec : Spec S) (options : StartOptions) : rests (world.tryStart spec options).1 := by
  rcases tryStart_cases world spec options with same | ⟨scene, valid, chosen, started⟩
  · rwa [same]
  · rw [started]
    exact rest.start lived still valid chosen

theorem Handover.leave (rest : Handover rests) (lived : world.Lived others) (still : rests world)
    (session : Session) : rests (world.stop session) := by
  rcases lived.stop_cases session with same | idle
  · rwa [same]
  · exact rest.stop session lived still idle

theorem Handover.serve (rest : Handover rests) (lived : world.Lived others) (still : rests world)
    (command : Api.Command S) : rests (Api.serve world command).1 := by
  cases command with
  | start spec options => exact rest.tryStart lived still spec options
  | stop =>
    simp only [Api.serve, Api.stopCurrent]
    split
    · exact rest.leave lived still _
    · exact still
  | status => exact still
  | spec => exact still
  | events since name => exact still

theorem Handover.serveAll (rest : Handover rests) (lived : world.Lived others) (still : rests world)
    (commands : List (Api.Command S)) : rests (Api.serveAll world commands).1 := by
  induction commands generalizing world with
  | nil => exact still
  | cons command more ih => exact ih (lived.serve command) (rest.serve lived still command)

end World

namespace Cabinet

variable {cabinet after : Cabinet S T}

/-- What a cabinet holds besides the actors of its world. -/
def held (cabinet : Cabinet S T) : List Handle :=
  (cabinet.screen.bind fun screen => screen.camera).toList

/-- What a cabinet becomes. -/
def Later (cabinet after : Cabinet S T) : Prop :=
  World.Later cabinet.held cabinet.world after.held after.world

theorem later_switchOn (cabinet : Cabinet S T) : cabinet.Later cabinet.switchOn := by
  unfold switchOn
  split
  · exact .refl
  · rename_i screen shown
    split
    · exact .refl
    · rename_i dark
      have nothing : cabinet.held = [] := by
        rw [held, shown, Option.bind_some, Option.toList_eq_nil_iff]
        simpa using dark
      rw [Later, nothing]
      exact .camera .refl

theorem later_display (done : cabinet.display = .ok after) : cabinet.Later after := by
  unfold display at done
  split at done
  · cases done
    exact .refl
  · rename_i screen shown
    obtain ⟨world, drawn, done⟩ := bind_eq_ok done
    cases done
    have later : World.Later cabinet.held cabinet.world cabinet.held world := .draw .refl drawn
    rw [held, shown] at later
    rw [Later, held, held, shown]
    cases found : cabinet.world.spec with
    | none => exact later
    | some spec => exact later

theorem later_attend {service : Service} (done : cabinet.attend service = .ok after) :
    cabinet.Later after := by
  cases service with
  | screen =>
    cases done
    exact later_switchOn cabinet
  | display => exact later_display done
  | commands =>
    cases done
    exact World.Later.refl.serveAll _
  | pending =>
    cases done
    unfold startPending
    split
    · exact .refl
    · exact World.Later.refl.start _ _
  | changes =>
    cases done
    unfold lookForChanges
    split
    · exact .refl
    · exact .refl

theorem later_apply (good : cabinet.world.Sound cabinet.held) {operation : Operation S T}
    (done : cabinet.apply operation = .ok after) : cabinet.Later after := by
  cases operation with
  | start spec options =>
    cases done
    exact World.Later.refl.start spec options
  | stop session =>
    cases done
    exact World.Later.refl.stop session
  | stopCurrent =>
    cases done
    exact World.Later.refl.serve .stop
  | step keyboard delta =>
    obtain ⟨world, stepped, done⟩ := bind_eq_ok done
    cases done
    exact World.Later.refl.step good stepped
  | insert spec options =>
    cases done
    exact .refl
  | change contents =>
    cases done
    exact .refl
  | send command =>
    cases done
    exact .refl
  | service service => exact later_attend done

/-- The world of a cabinet is one that a game can live in. -/
def Alive (cabinet : Cabinet S T) : Prop := cabinet.world.Lived cabinet.held

theorem alive_new (entropy : Entropy) (watch : Option Watch) (pictures : Option Bool) :
    (new entropy watch (pictures.map Screen.start) : Cabinet S T).Alive := by
  have nothing : (new entropy watch (pictures.map Screen.start) : Cabinet S T).held = [] := by
    cases pictures <;> rfl
  rw [Alive, nothing]
  exact World.lived_empty entropy

theorem Alive.later (alive : cabinet.Alive) (later : cabinet.Later after) : after.Alive :=
  World.Lived.trans alive later

theorem Alive.run (alive : cabinet.Alive) {operations : List (Operation S T)}
    (ran : cabinet.run operations = .ok after) : after.Alive := by
  induction operations generalizing cabinet with
  | nil =>
    cases ran
    exact alive
  | cons operation rest ih =>
    obtain ⟨next, first, ran⟩ := bind_eq_ok ran
    exact ih (alive.later (later_apply alive.sound first)) ran

/-- After any run from the beginning the world of a cabinet is one that a game can live in. -/
theorem alive_of_run {entropy : Entropy} {watch : Option Watch} {pictures : Option Bool}
    {operations : List (Operation S T)}
    (ran : (new entropy watch (pictures.map Screen.start)).run operations = .ok cabinet) :
    cabinet.Alive :=
  (alive_new entropy watch pictures).run ran

/-! ### Between two operations -/

variable {rests : World S T → Prop} {operation : Operation S T}

theorem reposes_attend (rest : World.Repose rests) (alive : cabinet.Alive)
    (still : rests cabinet.world) {service : Service}
    (done : cabinet.attend service = .ok after) : rests after.world := by
  cases service with
  | screen =>
    cases done
    unfold switchOn
    split
    · exact still
    · split
      · exact still
      · exact rest.camera _ still
  | display =>
    simp only [attend, display] at done
    split at done
    · cases done
      exact still
    · obtain ⟨world, drawn, done⟩ := bind_eq_ok done
      cases done
      exact rest.draw alive still drawn
  | commands =>
    cases done
    exact rest.serveAll alive still _
  | pending =>
    cases done
    unfold startPending
    split
    · exact still
    · exact rest.tryStart alive still _ _
  | changes =>
    cases done
    unfold lookForChanges
    split
    · exact still
    · exact still

/-- What comes between frames keeps what holds between frames. -/
theorem reposes_apply (rest : World.Repose rests) (alive : cabinet.Alive)
    (still : rests cabinet.world) (between : ∀ keyboard delta, operation ≠ .step keyboard delta)
    (done : cabinet.apply operation = .ok after) : rests after.world := by
  cases operation with
  | start spec options =>
    cases done
    exact rest.tryStart alive still spec options
  | stop session =>
    cases done
    exact rest.leave alive still session
  | stopCurrent =>
    cases done
    exact rest.serve alive still .stop
  | step keyboard delta => exact absurd rfl (between keyboard delta)
  | insert spec options =>
    cases done
    exact still
  | change contents =>
    cases done
    exact still
  | send command =>
    cases done
    exact still
  | service service => exact reposes_attend rest alive still done

/-- What holds of a world at rest holds when the next operation is over. -/
theorem rests_apply (rest : World.Rest rests) (alive : cabinet.Alive)
    (still : rests cabinet.world) (done : cabinet.apply operation = .ok after) :
    rests after.world := by
  cases operation with
  | step keyboard delta =>
    obtain ⟨world, stepped, done⟩ := bind_eq_ok done
    cases done
    cases playing : cabinet.world.playing with
    | none =>
      rw [World.step, playing] at stepped
      cases stepped
      exact still
    | some session => exact rest.step alive playing still stepped
  | _ => exact reposes_apply rest.repose alive still (by simp) done

theorem rests_run (rest : World.Rest rests) (alive : cabinet.Alive) (still : rests cabinet.world)
    {operations : List (Operation S T)} (ran : cabinet.run operations = .ok after) :
    rests after.world := by
  induction operations generalizing cabinet with
  | nil =>
    cases ran
    exact still
  | cons operation more ih =>
    obtain ⟨next, first, ran⟩ := bind_eq_ok ran
    exact ih (alive.later (later_apply alive.sound first)) (rests_apply rest alive still first) ran

/-- Whatever is done to a cabinet, afterwards a game is played with all its parts in place, and it is
the one that its document describes; or none is played, no part is left over, and there are no
actors. -/
theorem playing_or_idle {entropy : Entropy} {watch : Option Watch} {pictures : Option Bool}
    {operations : List (Operation S T)}
    (ran : (new entropy watch (pictures.map Screen.start)).run operations = .ok cabinet) :
    (∃ session, cabinet.world.Playing session) ∨ cabinet.world.Idle :=
  (alive_of_run ran).whole

end Cabinet

/-! ### A small game -/

namespace Sample

/-- What games without a seed are given: each the state that its number makes as a seed. -/
def entropy : Entropy := fun number => .ofSeed (UInt64.ofNat number)

/-- A square that walks to and fro. -/
def walker (id : String) : Spec.Blueprint Float32 :=
  { Spec.Blueprint.plain id .rectangle 0 0 with
    shape := some ⟨none, none, none, none⟩
    behavior := some .patrol }

/-- Two crates of one name, and coins that are worth something to whoever is met by them. -/
def scene : Spec.Scene Float32 where
  name := "main"
  objects := [walker "crate", walker "crate"]
  logic := some {
    onCollision := none
    onOverlap := some ["crate, coin -> collect"]
    timers := none
    spawners := some [⟨"mint", walker "coin", 10, none, "corner", none⟩]
    actions := some [⟨"collect", .updateScore 5⟩] }

def spec : Spec Float32 where
  title := "Coins"
  description := ""
  settings := ⟨800, 600, "", ⟨true, ⟨0, 0⟩, false⟩⟩
  assets := []
  scenes := [scene]
  controlsDescription := []
  keyConcepts := []

/-- A game is started and played for a frame; then another start is refused. -/
def refused : List (Operation Float32 Float) :=
  [.start spec .default, .step none 25, .start spec ⟨some "bonus", none⟩]

end Sample

/-- The small game is played on after a start that was refused. -/
theorem Cabinet.playing_or_idle_refused :
    ∃ cabinet : Cabinet Float32 Float,
      (Cabinet.new Sample.entropy none (Option.map Screen.start (some true))).run Sample.refused =
          .ok cabinet ∧
        ((∃ session, cabinet.world.Playing session) ∨ cabinet.world.Idle) := by
  have fine : ((Cabinet.new Sample.entropy none (Option.map Screen.start (some true)) :
      Cabinet Float32 Float).run Sample.refused).isOk = true := by decide +kernel
  obtain ⟨cabinet, ran⟩ := eq_ok_of_isOk fine
  exact ⟨cabinet, ran, playing_or_idle ran⟩

end Arcade
