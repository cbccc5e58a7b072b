import Arcade.Proofs.Newcomer
import Arcade.Proofs.Copying

/-! The setting of a game: the time of its scene and the space in which it is played, whether it runs
or not. Time passes when a frame begins; nothing else that is done in a frame changes the setting. -/

namespace Arcade.World

variable {S T : Type} {world before after : World S T} {blueprint : Spec.Blueprint S} {id : String}
  {position : Vec S}

/-- The time of a scene, and the size and the gravity of its space. -/
def setting (world : World S T) :=
  (world.clock, world.arena.map fun arena => (arena.extent, arena.gravity))

/-- What is done one after the other leaves the setting as it is if each step does. -/
theorem setting_foldl {α : Type} {change : World S T → α → World S T}
    (each : ∀ world item, (change world item).setting = world.setting) (items : List α)
    (world : World S T) : (items.foldl change world).setting = world.setting := by
  induction items generalizing world with
  | nil => rfl
  | cons item rest ih => exact (ih _).trans (each world item)

theorem setting_emit (world : World S T) (signal : Signal) (source : Option Handle) :
    (world.emit signal source).setting = world.setting := by
  simp only [setting, emit]

theorem setting_report (world : World S T) (error : BuildError) :
    (world.report error).setting = world.setting := by
  simp only [setting, report, emit]

theorem setting_destroy (world : World S T) (handle : Handle) :
    (world.destroy handle).setting = world.setting := by
  unfold destroy
  split
  · rfl
  · split
    · rfl
    · exact setting_emit _ _ _

theorem setting_adopt (world : World S T) (handle : Handle) (group : String) :
    (world.adopt handle group).setting = world.setting := by
  unfold adopt
  split
  · rfl
  · exact setting_emit _ _ _

theorem setting_setText {id text : String} (changed : world.setText? id text = some after) :
    after.setting = world.setting := by
  simp only [setText?, Option.bind_eq_bind, Option.bind_eq_some_iff] at changed
  obtain ⟨handle, -, actor, -, changed⟩ := changed
  split at changed
  · cases changed
    rfl
  · cases changed

theorem setting_addPoints (world : World S T) (points : Int) :
    (world.addPoints points).setting = world.setting := by
  have shown (world : World S T) (id text : String) :
      ((world.setText? id text).getD world).setting = world.setting := by
    cases changed : world.setText? id text with
    | none => rfl
    | some after => exact setting_setText changed
  exact (setting_emit _ _ _).trans (shown _ _ _)

theorem setting_destroyTarget (world : World S T) (target : Option Handle) :
    (world.destroyTarget target).setting = world.setting := by
  cases target with
  | none => rfl
  | some handle => exact setting_destroy world handle

variable [Scalar S]

theorem setting_create {created : Created}
    (made : before.create blueprint id position = .ok (created, after)) :
    after.setting = before.setting := by
  cases created with
  | actor handle =>
    have same := (furniture_create made).1
    simp only [furniture, Prod.mk.injEq] at same
    rw [setting, same.1, same.2.1, setting]
  | group name =>
    rw [create_group made]
    rfl

/-! ### Rules at work -/

/-- A game that ends is paused in the space it is in. -/
theorem setting_endGame (world : World S T) : world.endGame.setting = world.setting := by
  have paused (world : World S T) :
      World.setting { world with arena := world.arena.map Arena.pause } = world.setting := by
    simp only [setting, Option.map_map]
    rfl
  simp only [endGame]
  split
  · rfl
  · rw [setting_emit, paused]
    split
    · rename_i made
      exact (setting_create made).trans rfl
    · rfl

theorem setting_execute (world : World S T) (effect : Spec.Effect) (target : Option Handle) :
    (world.execute effect target).setting = world.setting := by
  cases effect with
  | updateScore points => exact (setting_destroyTarget _ _).trans (setting_addPoints world points)
  | gameOver => exact setting_endGame world
  | destroy => exact setting_destroyTarget world target
  | updateText id text =>
    simp only [execute]
    split
    · rename_i changed
      exact (setting_emit _ _ _).trans (setting_setText changed)
    · rfl

theorem setting_fire (world : World S T) (site : RuleSite) (target : Option Handle) :
    (world.fire site target).setting = world.setting := by
  unfold fire
  split
  · rfl
  · split
    · cases site <;> rfl
    · split
      · exact setting_execute world _ target
      · rfl

theorem setting_dispatch (world : World S T) : world.dispatch.setting = world.setting := by
  unfold dispatch
  split
  · rfl
  · refine (setting_foldl ?_ _ _).trans rfl
    intro world contact
    unfold dispatchOne
    split
    · exact setting_fire world _ _
    · rfl

theorem setting_cleanUp (world : World S T) : world.cleanUp.setting = world.setting := by
  unfold cleanUp
  split
  · rfl
  · exact setting_foldl setting_destroy _ _

theorem setting_detect (world : World S T) : world.detect.setting = world.setting := by
  unfold detect
  split
  · split <;> rfl
  · rfl

/-! ### Copies and shots -/

theorem setting_shootOne (world : World S T) (shot : Shot S) :
    (world.shootOne shot).setting = world.setting := by
  simp only [shootOne]
  split
  · rfl
  · split
    · rename_i made
      exact ((setting_adopt _ _ _).trans (setting_create made)).trans rfl
    · rename_i made
      exact (setting_create made).trans rfl
    · exact (setting_report _ _).trans rfl

theorem setting_fireShots (world : World S T) : world.fireShots.setting = world.setting := by
  unfold fireShots
  split
  · rfl
  · exact setting_foldl setting_shootOne _ _

section

variable [Sampling S]

theorem setting_spawnOne {spawner : Spec.Spawner S} {more : Bool}
    (done : world.spawnOne spawner = .ok (after, more)) : after.setting = world.setting := by
  cases spawned_of_spawnOne done with
  | spent => rfl
  | copy _ created => exact ((setting_adopt _ _ _).trans (setting_create created)).trans rfl
  | group _ created => exact ((setting_report _ _).trans (setting_create created)).trans rfl
  | fault => exact (setting_report _ _).trans rfl

theorem setting_spawnMany {spawner : Spec.Spawner S} {number : Nat} {more : Bool}
    (done : spawnMany spawner number world = .ok (after, more)) : after.setting = world.setting := by
  induction number generalizing world with
  | zero =>
    cases done
    rfl
  | succ rest ih =>
    obtain ⟨⟨next, again⟩, first, done⟩ := bind_eq_ok done
    cases again with
    | true => exact (ih done).trans (setting_spawnOne first)
    | false =>
      cases done
      exact setting_spawnOne first

variable [Scalar T]

theorem setting_tickNests {now : T} {nests later : List (Nest S T)}
    (done : tickNests now nests world = .ok (after, later)) : after.setting = world.setting := by
  induction nests generalizing world later with
  | nil =>
    cases done
    rfl
  | cons nest rest ih =>
    obtain ⟨⟨next, ticked⟩, first, done⟩ := bind_eq_ok done
    obtain ⟨⟨last, others⟩, second, done⟩ := bind_eq_ok done
    cases done
    obtain ⟨⟨spawned, more⟩, made, ended⟩ := bind_eq_ok first
    cases ended
    exact (ih second).trans (setting_spawnMany made)

theorem setting_tickSpawners (done : world.tickSpawners = .ok after) :
    after.setting = world.setting := by
  unfold tickSpawners at done
  split at done
  · obtain ⟨⟨last, ticked⟩, made, done⟩ := bind_eq_ok done
    cases done
    have same : last.setting = world.setting := setting_tickNests made
    exact same
  · cases done
    rfl

end

/-! ### The parts of a frame -/

variable [Scalar T]

theorem setting_driveControls (world : World S T) (keyboard : Option (List Key)) :
    (world.driveControls keyboard).setting = world.setting := by
  unfold driveControls
  split <;> rfl

theorem setting_tickTimers (world : World S T) : world.tickTimers.setting = world.setting := by
  unfold tickTimers
  split
  · exact setting_foldl (fun world index => setting_fire world (.timer index) none) _ _
  · rfl

theorem setting_integrate [Rounding T S] (world : World S T) :
    world.integrate.setting = world.setting := by
  unfold integrate
  split
  · split <;> rfl
  · rfl

variable [Circular S] [Sampling S] [Rounding T S]

theorem setting_steer (world : World S T) (entry : String × Assignment) :
    (world.steer entry).setting = world.setting := by
  simp only [steer]
  split
  · rfl
  · split <;> rfl

theorem setting_runBehaviors (world : World S T) : world.runBehaviors.setting = world.setting := by
  unfold runBehaviors
  split
  · exact setting_foldl setting_steer _ _
  · rfl

/-- But for its clock a frame leaves the setting as it is. -/
theorem setting_runPhase {keyboard : Option (List Key)} {delta : T} {phase : Phase}
    (timeless : phase ≠ .clock) (done : world.runPhase keyboard delta phase = .ok after) :
    after.setting = world.setting := by
  cases phase with
  | clock => exact absurd rfl timeless
  | controls =>
    cases done
    exact setting_driveControls world keyboard
  | shots =>
    cases done
    exact setting_fireShots world
  | behaviors =>
    cases done
    exact setting_runBehaviors world
  | spawners => exact setting_tickSpawners done
  | timers =>
    cases done
    exact setting_tickTimers world
  | movement =>
    cases done
    exact setting_integrate world
  | contacts =>
    cases done
    exact setting_detect world
  | dispatch =>
    cases done
    exact setting_dispatch world
  | cleanUp =>
    cases done
    exact setting_cleanUp world

theorem setting_runPhases {keyboard : Option (List Key)} {delta : T} {phases : List Phase}
    (timeless : .clock ∉ phases) (done : world.runPhases keyboard delta phases = .ok after) :
    after.setting = world.setting := by
  induction phases generalizing world with
  | nil =>
    cases done
    rfl
  | cons phase rest ih =>
    obtain ⟨next, first, done⟩ := bind_eq_ok done
    rw [List.mem_cons, not_or] at timeless
    exact (ih timeless.2 done).trans (setting_runPhase (Ne.symm timeless.1) first)

end Arcade.World
