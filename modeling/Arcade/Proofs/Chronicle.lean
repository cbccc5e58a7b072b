import Arcade.Proofs.Life

/-! What is written of one game, frame by frame, over a run of all that can happen to a cabinet. A run
that fails is written of up to its last frame. What holds of a game with what was written of it so far
is shown for one frame, and for what comes between frames; then it is known of all that is ever written
of the game. -/

namespace Arcade

variable {S T α : Type} [Scalar S] [Scalar T] [Circular S] [Sampling S] [Rounding T S]

/-- A frame: the world that it finds, the keys that are held, and its length. -/
structure Frame (S T : Type) where
  world : World S T
  keyboard : Option (List Key)
  delta : T

namespace Cabinet

/-- What is written of a game while one thing happens. Only its frames are written of. -/
def chronicleAt (scribe : World S T → Option (List Key) → T → List α) (session : Session)
    (cabinet : Cabinet S T) : Operation S T → List α
  | .step keyboard delta =>
    if cabinet.world.playing = some session then scribe cabinet.world keyboard delta else []
  | _ => []

/-- What is written of a game while things happen one after the other, as long as the game can go
on. -/
def chronicle (scribe : World S T → Option (List Key) → T → List α) (session : Session)
    (cabinet : Cabinet S T) : List (Operation S T) → List α
  | [] => []
  | operation :: rest =>
    cabinet.chronicleAt scribe session operation ++
      match cabinet.apply operation with
      | .ok next => next.chronicle scribe session rest
      | .error _ => []

/-- The frames of a game. -/
def frames (session : Session) (cabinet : Cabinet S T) (operations : List (Operation S T)) :
    List (Frame S T) :=
  cabinet.chronicle (fun world keyboard delta => [⟨world, keyboard, delta⟩]) session operations

/-- What is written of a game is what is written of its frames. -/
theorem chronicle_eq_flatMap (scribe : World S T → Option (List Key) → T → List α)
    (session : Session) (cabinet : Cabinet S T) (operations : List (Operation S T)) :
    cabinet.chronicle scribe session operations = (cabinet.frames session operations).flatMap
      fun frame => scribe frame.world frame.keyboard frame.delta := by
  induction operations generalizing cabinet with
  | nil => rfl
  | cons operation rest ih =>
    have here : cabinet.chronicleAt scribe session operation =
        (cabinet.chronicleAt (fun world keyboard delta => [⟨world, keyboard, delta⟩]) session
          operation).flatMap fun frame : Frame S T =>
            scribe frame.world frame.keyboard frame.delta := by
      cases operation with
      | step keyboard delta =>
        simp only [chronicleAt]
        split
        · rw [List.flatMap_singleton]
        · rfl
      | _ => rfl
    rw [frames, chronicle, chronicle, List.flatMap_append, ← here]
    cases cabinet.apply operation with
    | ok next => exact congrArg _ (ih next)
    | error crash => rfl

end Cabinet

/-- What holds of a game as long as it is played, with what was written of it so far; and what this
tells of the writing alone, also when the game fails in a frame. -/
structure Saga (scribe : World S T → Option (List Key) → T → List α) (session : Session)
    (holds : List α → World S T → Prop) (tells : List α → Prop) : Prop where
  blank : tells []
  start : ∀ {others : List Handle} {world : World S T} {spec : Spec S} {options : StartOptions}
    {scene : Spec.Scene S}, world.Lived others → spec.validate = .ok () →
    spec.choose options.scene = .ok scene → (world.playScene spec scene options.seed).1 = session →
    holds [] (world.playScene spec scene options.seed).2
  camera : ∀ {past : List α} {world : World S T} (handles : Handles), holds past world →
    holds past { world with handles }
  draw : ∀ {past : List α} {others : List Handle} {world after : World S T} {pictures : Bool},
    world.Lived others → holds past world → world.draw pictures = .ok after → holds past after
  frame : ∀ {past : List α} {others : List Handle} {world : World S T} (keyboard : Option (List Key))
    (delta : T), world.Lived others → world.playing = some session → holds past world →
    tells (past ++ scribe world keyboard delta)
  step : ∀ {past : List α} {others : List Handle} {world after : World S T}
    {keyboard : Option (List Key)} {delta : T}, world.Lived others →
    world.playing = some session → holds past world → world.step keyboard delta = .ok after →
    holds (past ++ scribe world keyboard delta) after

namespace World

variable {world after : World S T} {others : List Handle} {keyboard : Option (List Key)} {delta : T}

/-- The game is played on to the end of some parts of a frame. -/
theorem scene_runPhases (good : world.Sound others) {phases : List Phase}
    (done : world.runPhases keyboard delta phases = .ok after) : SameScene world after := by
  induction phases generalizing world with
  | nil =>
    cases done
    exact .refl _
  | cons phase rest ih =>
    obtain ⟨next, first, done⟩ := bind_eq_ok done
    have sound := (course_runPhase good first).1.sound good
    exact (scene_runPhase good first).trans (ih sound done)

/-- What each of some parts of a frame keeps while a game is played holds after them. -/
theorem Lived.keeps_runPhases {session : Session} {holds : World S T → Prop} {phases : List Phase}
    (each : ∀ {world after : World S T} {phase : Phase}, phase ∈ phases → world.Lived others →
      world.playing = some session → holds world → world.runPhase keyboard delta phase = .ok after →
      holds after)
    (lived : world.Lived others) (playing : world.playing = some session) (start : holds world)
    (done : world.runPhases keyboard delta phases = .ok after) : holds after := by
  induction phases generalizing world with
  | nil =>
    cases done
    exact start
  | cons phase rest ih =>
    obtain ⟨next, first, done⟩ := bind_eq_ok done
    have still := (scene_runPhase lived.sound first).playing.trans playing
    exact ih (fun member => each (List.mem_cons_of_mem _ member)) (World.Lived.phase lived playing first)
      still (each List.mem_cons_self lived playing start first) done

theorem scene_step (good : world.Sound others) (done : world.step keyboard delta = .ok after) :
    SameScene world after := by
  unfold step at done
  split at done
  · cases done
    exact .refl _
  · exact scene_runPhases good done

end World

/-- What was written of a game so far is true, and as long as the game is played more is known.
Nothing is written before the game is started. -/
structure Written (session : Session) (holds : List α → World S T → Prop) (tells : List α → Prop)
    (past : List α) (world : World S T) : Prop where
  told : tells past
  begun : past ≠ [] → session.generation ≤ world.starts
  held : world.playing = some session → holds past world

namespace Saga

variable {scribe : World S T → Option (List Key) → T → List α} {session : Session}
  {holds : List α → World S T → Prop} {tells : List α → Prop} {past : List α}
  {cabinet after : Cabinet S T} {operation : Operation S T}

/-- Between frames nothing is written. -/
theorem repose (saga : Saga scribe session holds tells) (past : List α) :
    World.Repose (Written session holds tells past) where
  start {others world spec options scene} lived written valid chosen := by
    obtain ⟨active, number⟩ := World.session_playScene lived.sound spec scene options.seed
    have counted := World.starts_playScene lived.sound spec scene options.seed
    refine ⟨written.told, fun wrote => ?_, fun playing => ?_⟩
    · rw [counted]
      exact Nat.le_succ_of_le (written.begun wrote)
    · rw [active] at playing
      have same := Option.some.inj playing
      have nothing : past = [] := by
        by_contra wrote
        have begun := written.begun wrote
        rw [← same, number, counted] at begun
        exact Nat.not_succ_le_self _ begun
      rw [nothing]
      exact saga.start lived valid chosen same
  stop {others world} stopped lived written idle := by
    refine ⟨written.told, fun wrote => ?_, fun playing => ?_⟩
    · rw [World.starts_stop lived.sound]
      exact written.begun wrote
    · rw [idle.inactive] at playing
      cases playing
  camera handles written :=
    ⟨written.told, written.begun, fun playing => saga.camera handles (written.held playing)⟩
  draw lived written done := by
    have same := (World.course_draw lived.sound done).scene
    refine ⟨written.told, fun wrote => ?_, fun playing => ?_⟩
    · rw [same.starts]
      exact written.begun wrote
    · exact saga.draw lived (written.held (same.playing.symm.trans playing)) done

/-- A frame is written of if the game is played. -/
theorem written_step (saga : Saga scribe session holds tells) {others : List Handle}
    {world next : World S T} {keyboard : Option (List Key)} {delta : T}
    (lived : world.Lived others) (written : Written session holds tells past world)
    (done : world.step keyboard delta = .ok next) :
    Written session holds tells (past ++ if world.playing = some session then
      scribe world keyboard delta else []) next := by
  have same := World.scene_step lived.sound done
  split
  · rename_i playing
    have held := written.held playing
    refine ⟨saga.frame keyboard delta lived playing held, fun _ => ?_, fun _ => ?_⟩
    · rw [same.starts]
      exact Nat.le_of_eq (lived.generation playing)
    · exact saga.step lived playing held done
  · rename_i other
    rw [List.append_nil]
    refine ⟨written.told, fun wrote => ?_, fun playing => ?_⟩
    · rw [same.starts]
      exact written.begun wrote
    · exact absurd (same.playing.symm.trans playing) other

theorem written_apply (saga : Saga scribe session holds tells) (alive : cabinet.Alive)
    (written : Written session holds tells past cabinet.world)
    (done : cabinet.apply operation = .ok after) :
    Written session holds tells (past ++ cabinet.chronicleAt scribe session operation)
      after.world := by
  cases operation with
  | step keyboard delta =>
    obtain ⟨world, stepped, done⟩ := bind_eq_ok done
    cases done
    exact saga.written_step alive written stepped
  | _ =>
    rw [Cabinet.chronicleAt, List.append_nil]
    · exact Cabinet.reposes_apply (saga.repose past) alive written (by simp) done
    · simp

/-- What is written of an operation is true also when the game fails in it. -/
theorem told_apply (saga : Saga scribe session holds tells) (alive : cabinet.Alive)
    (written : Written session holds tells past cabinet.world) (operation : Operation S T) :
    tells (past ++ cabinet.chronicleAt scribe session operation) := by
  have nothing : tells (past ++ []) := by
    rw [List.append_nil]
    exact written.told
  cases operation with
  | step keyboard delta =>
    rw [Cabinet.chronicleAt]
    split
    · rename_i playing
      exact saga.frame keyboard delta alive playing (written.held playing)
    · exact nothing
  | _ => exact nothing

/-- All that is ever written of a game is true. -/
theorem chronicle (saga : Saga scribe session holds tells) (alive : cabinet.Alive)
    (written : Written session holds tells past cabinet.world) (operations : List (Operation S T)) :
    tells (past ++ cabinet.chronicle scribe session operations) := by
  induction operations generalizing cabinet past with
  | nil =>
    rw [Cabinet.chronicle, List.append_nil]
    exact written.told
  | cons operation rest ih =>
    rw [Cabinet.chronicle, ← List.append_assoc]
    cases done : cabinet.apply operation with
    | error crash =>
      rw [List.append_nil]
      exact saga.told_apply alive written operation
    | ok next =>
      have lives := alive.later (Cabinet.later_apply alive.sound done)
      exact ih lives (saga.written_apply alive written done)

/-- In each frame of a game the game is played, and what holds of it holds of the world that the frame
finds. -/
theorem holds_of_frame (saga : Saga scribe session holds tells) (alive : cabinet.Alive)
    (written : Written session holds tells past cabinet.world) (operations : List (Operation S T)) :
    ∀ frame ∈ cabinet.frames session operations, ∃ past others, frame.world.Lived others ∧
      frame.world.playing = some session ∧ holds past frame.world := by
  induction operations generalizing cabinet past with
  | nil =>
    intro frame never
    cases never
  | cons operation rest ih =>
    intro frame member
    rcases List.mem_append.mp member with here | later
    · cases operation with
      | step keyboard delta =>
        rw [Cabinet.chronicleAt] at here
        split at here
        · rename_i playing
          rw [List.mem_singleton.mp here]
          exact ⟨past, cabinet.held, alive, playing, written.held playing⟩
        · cases here
      | _ => cases here
    · cases done : cabinet.apply operation with
      | error crash =>
        rw [done] at later
        cases later
      | ok next =>
        rw [done] at later
        have lives := alive.later (Cabinet.later_apply alive.sound done)
        exact ih lives (saga.written_apply alive written done) frame later

theorem written_new (saga : Saga scribe session holds tells) (entropy : Entropy) (watch : Option Watch)
    (pictures : Option Bool) :
    Written session holds tells []
      (Cabinet.new entropy watch (pictures.map Screen.start) : Cabinet S T).world :=
  ⟨saga.blank, fun wrote => absurd rfl wrote, fun playing => by cases playing⟩

/-- Whatever is done to a new cabinet, all that is written of a game is true. -/
theorem chronicle_new (saga : Saga scribe session holds tells) (entropy : Entropy) (watch : Option Watch)
    (pictures : Option Bool) (operations : List (Operation S T)) :
    tells ((Cabinet.new entropy watch (pictures.map Screen.start)).chronicle scribe session
      operations) := by
  have told := saga.chronicle (Cabinet.alive_new entropy watch pictures)
    (saga.written_new entropy watch pictures) operations
  rwa [List.nil_append] at told

/-- Whatever is done to a new cabinet, what holds of a game holds in each of its frames. -/
theorem holds_of_frame_new (saga : Saga scribe session holds tells) {entropy : Entropy}
    {watch : Option Watch} {pictures : Option Bool} {operations : List (Operation S T)}
    {frame : Frame S T}
    (framed : frame ∈ (Cabinet.new entropy watch (pictures.map Screen.start)).frames session
      operations) :
    ∃ past others, frame.world.Lived others ∧ frame.world.playing = some session ∧
      holds past frame.world :=
  saga.holds_of_frame (Cabinet.alive_new entropy watch pictures)
    (saga.written_new entropy watch pictures) operations frame framed

/-- What is written in a run that goes well is true of the game that it leaves. -/
theorem written_run (saga : Saga scribe session holds tells) (alive : cabinet.Alive)
    (written : Written session holds tells past cabinet.world) {operations : List (Operation S T)}
    (ran : cabinet.run operations = .ok after) :
    Written session holds tells (past ++ cabinet.chronicle scribe session operations)
      after.world := by
  induction operations generalizing cabinet past with
  | nil =>
    cases ran
    rwa [Cabinet.chronicle, List.append_nil]
  | cons operation rest ih =>
    obtain ⟨next, first, ran⟩ := bind_eq_ok ran
    have lives := alive.later (Cabinet.later_apply alive.sound first)
    rw [Cabinet.chronicle, first, ← List.append_assoc]
    exact ih lives (saga.written_apply alive written first) ran

/-- Whatever was done to a new cabinet, what was written of the game that is played is true of it. -/
theorem held_new (saga : Saga scribe session holds tells) {entropy : Entropy} {watch : Option Watch}
    {pictures : Option Bool} {operations : List (Operation S T)}
    (ran : (Cabinet.new entropy watch (pictures.map Screen.start)).run operations = .ok after)
    (playing : after.world.playing = some session) :
    holds ((Cabinet.new entropy watch (pictures.map Screen.start)).chronicle scribe session operations)
      after.world := by
  have written := saga.written_run (Cabinet.alive_new entropy watch pictures)
    (saga.written_new entropy watch pictures) ran
  rw [List.nil_append] at written
  exact written.held playing

end Saga

end Arcade
