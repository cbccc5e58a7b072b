import Arcade.Proofs.Bookkeeping
import Arcade.Proofs.Dispatch
import Arcade.Proofs.Newcomer

/-! What is told in a game. Whatever happens adds to the history of a world, and what is added depends on
what happens: each part of a frame, and each effect of a rule, has its own news. -/

namespace Arcade

variable {S T : Type}

namespace Signal

/-- It is told that a copy came, or that something could not be made as it should. -/
def OfMaking : Signal → Prop
  | .objectSpawned .. | .diagnostic _ => True
  | _ => False

/-- It is told that an actor came, perhaps under an id that was taken. -/
def OfArrival : Signal → Prop
  | .objectSpawned .. => True
  | .diagnostic message => ∃ id, message = (BuildError.duplicateObjectId id).message
  | _ => False

theorem OfArrival.ofMaking {signal : Signal} (told : signal.OfArrival) : signal.OfMaking := by
  cases signal <;> first | exact trivial | exact told.elim

def OfRemoval : Signal → Prop
  | .objectDestroyed .. => True
  | _ => False

/-- What is told of an effect. -/
def OfEffect : Spec.Effect → Signal → Prop
  | .updateScore points => fun signal => (∃ score, signal = .scoreChanged score points) ∨ signal.OfRemoval
  | .gameOver => fun signal => (∃ score, signal = .gameOver score) ∨ signal.OfMaking
  | .destroy => OfRemoval
  | .updateText id text => fun signal => signal = .textUpdated id text

end Signal

/-- What is told in a part of a frame. -/
def Phase.tells : Phase → Signal → Prop
  | .shots | .spawners => Signal.OfMaking
  | .timers | .dispatch => fun signal => ∃ effect, signal.OfEffect effect
  | .cleanUp => Signal.OfRemoval
  | .clock | .controls | .behaviors | .movement | .contacts => fun _ => False

namespace World

/-- Only certain things are told, and nothing that was told is lost. -/
def Tells (may : Signal → Prop) (before after : World S T) : Prop :=
  ∃ news, after.log.history = news ++ before.log.history ∧ ∀ signal ∈ news, may signal

variable {may permits : Signal → Prop} {before middle after world : World S T}

namespace Tells

theorem of_log (same : after.log = before.log) : Tells may before after :=
  ⟨[], congrArg Log.history same, nofun⟩

theorem refl (world : World S T) : Tells may world world := of_log rfl

theorem trans (first : Tells may before middle) (second : Tells may middle after) :
    Tells may before after := by
  obtain ⟨early, earlyHistory, earlyAllowed⟩ := first
  obtain ⟨late, lateHistory, lateAllowed⟩ := second
  refine ⟨late ++ early, ?_, fun signal member => ?_⟩
  · rw [lateHistory, earlyHistory, List.append_assoc]
  · exact (List.mem_append.mp member).elim (lateAllowed signal) (earlyAllowed signal)

theorem mono (tells : Tells may before after) (more : ∀ signal, may signal → permits signal) :
    Tells permits before after := by
  obtain ⟨news, history, allowed⟩ := tells
  exact ⟨news, history, fun signal member => more signal (allowed signal member)⟩

theorem foldl {α : Type} {change : World S T → α → World S T} (items : List α) (world : World S T)
    (each : ∀ world item, Tells may world (change world item)) :
    Tells may world (items.foldl change world) := by
  induction items generalizing world with
  | nil => exact .refl world
  | cons item rest ih => exact (each world item).trans (ih _)

end Tells

theorem tells_emit (world : World S T) {signal : Signal} (source : Option Handle)
    (allowed : may signal) : Tells may world (world.emit signal source) := by
  refine ⟨[signal], ?_, fun other member => ?_⟩
  · simp only [emit, Log.emit, List.singleton_append]
  · rwa [List.mem_singleton.mp member]

theorem tells_report (world : World S T) {error : BuildError}
    (allowed : may (.diagnostic error.message)) : Tells may world (world.report error) := by
  have told : Tells may world (world.emit (.diagnostic error.message) none) :=
    tells_emit world none allowed
  exact told.trans (.of_log (by simp only [report]))

theorem tells_withRegistry (world : World S T) (change : Registry S T → Registry S T) :
    Tells may world (world.withRegistry change) := .of_log rfl

theorem tells_destroy (world : World S T) (handle : Handle) :
    Tells Signal.OfRemoval world (world.destroy handle) := by
  unfold destroy
  split
  · exact .refl world
  · split
    · exact .of_log rfl
    · rename_i registry _
      let removed := { world with
        roster := world.roster.remove handle
        handles := world.handles.release handle
        registry := some registry }
      have left : Tells Signal.OfRemoval world removed := .of_log rfl
      exact left.trans (tells_emit _ _ trivial)

theorem tells_adopt (world : World S T) (handle : Handle) (group : String) :
    Tells Signal.OfArrival world (world.adopt handle group) := by
  unfold adopt
  split
  · exact .refl world
  · let marked := { world with
      roster := world.roster.update handle fun actor =>
        { actor with group := some group, transient := true } }
    have joined : Tells Signal.OfArrival world
        (marked.withRegistry fun registry => registry.joinGroup group handle) := .of_log rfl
    exact joined.trans (tells_emit _ _ trivial)

theorem tells_enter (world : World S T) (id : String) (handle : Handle) :
    Tells Signal.OfArrival world (world.enter id handle) := by
  have registered : Tells Signal.OfArrival world
      (world.withRegistry fun registry => registry.register id handle) := tells_withRegistry world _
  simp only [enter]
  split
  · exact registered.trans (tells_report _ ⟨id, rfl⟩)
  · exact registered

theorem tells_setText {id text : String} (changed : world.setText? id text = some after) :
    Tells may world after := by
  simp only [setText?, Option.bind_eq_bind, Option.bind_eq_some_iff] at changed
  obtain ⟨handle, -, actor, -, changed⟩ := changed
  split at changed
  · cases changed
    exact .of_log rfl
  · cases changed

variable [Scalar S]

theorem tells_createActor {blueprint : Spec.Blueprint S} {id : String} {position : Vec S}
    {handle : Handle} (made : before.create blueprint id position = .ok (.actor handle, after)) :
    Tells Signal.OfArrival before after := by
  obtain ⟨look, -, rfl, rfl⟩ := eq_of_create made
  let arrived := (before.appear blueprint id position look).2.enter id before.handles.take.1
  have entered : Tells Signal.OfArrival before arrived :=
    tells_enter (before.appear blueprint id position look).2 id before.handles.take.1
  have silent := (silent_instruct ((arrived.embody before.handles.take.1 blueprint.body).attach
    before.handles.take.1 blueprint.controls) id blueprint).1
  rw [(silent_attach _ _ _).1, (silent_embody _ _ _).1] at silent
  exact entered.trans (.of_log (congrArg Prod.snd silent))

theorem tells_create {blueprint : Spec.Blueprint S} {id : String} {position : Vec S}
    {created : Created} (made : before.create blueprint id position = .ok (created, after)) :
    Tells Signal.OfMaking before after := by
  cases created with
  | group name =>
    rw [create_group made]
    exact tells_withRegistry before _
  | actor handle => exact (tells_createActor made).mono fun _ => Signal.OfArrival.ofMaking

/-- A copy comes, and nothing else is told. -/
theorem tells_copy {blueprint : Spec.Blueprint S} {id : String} {position : Vec S} {handle : Handle}
    (made : before.create blueprint id position = .ok (.actor handle, middle)) (group : String) :
    Tells Signal.OfArrival before (middle.adopt handle group) :=
  (tells_createActor made).trans (tells_adopt middle handle group)

/-! ### Rules at work -/

omit [Scalar S] in
theorem tells_destroyTarget (world : World S T) (target : Option Handle) :
    Tells Signal.OfRemoval world (world.destroyTarget target) := by
  cases target with
  | none => exact .refl world
  | some handle => exact tells_destroy world handle

omit [Scalar S] in
theorem tells_addPoints (world : World S T) (points : Int) :
    Tells (fun signal => ∃ score, signal = .scoreChanged score points) world
      (world.addPoints points) := by
  have shown (counted : World S T) (text : String) (same : counted.log = world.log) :
      ((counted.setText? scoreTextId text).getD counted).log = world.log := by
    cases changed : counted.setText? scoreTextId text with
    | none => exact same
    | some after =>
      exact (congrArg Books.log (books_setText changed)).trans same
  exact (Tells.of_log (shown { world with board := some _ } _ rfl)).trans
    (tells_emit _ none ⟨_, rfl⟩)

theorem tells_endGame (world : World S T) :
    Tells (Signal.OfEffect .gameOver) world world.endGame := by
  simp only [endGame]
  split
  · exact .of_log rfl
  · let closed : World S T :=
      { world with board := some { world.board.getD .start with ended := true } }
    have ended : Tells (Signal.OfEffect .gameOver) world closed := .of_log rfl
    refine (ended.trans ?_).trans (tells_emit _ none (.inl ⟨_, rfl⟩))
    split
    · rename_i made
      exact (tells_create made).mono fun _ => .inr
    · exact .refl _

theorem tells_execute (world : World S T) (effect : Spec.Effect) (target : Option Handle) :
    Tells (Signal.OfEffect effect) world (world.execute effect target) := by
  cases effect with
  | updateScore points =>
    have counted : Tells (Signal.OfEffect (.updateScore points)) world (world.addPoints points) :=
      (tells_addPoints world points).mono fun _ => .inl
    exact counted.trans ((tells_destroyTarget _ target).mono fun _ => .inr)
  | gameOver => exact tells_endGame world
  | destroy => exact tells_destroyTarget world target
  | updateText id text =>
    simp only [execute]
    split
    · rename_i changed
      exact (tells_setText changed).trans (tells_emit _ none rfl)
    · exact .refl world

/-- A rule tells nothing but what is told of its effect. -/
theorem tells_fire (world : World S T) (site : RuleSite) (target : Option Handle) :
    Tells (fun signal => ∃ effect, world.effectAt? site = some effect ∧ signal.OfEffect effect) world
      (world.fire site target) := by
  cases known : world.effectAt? site with
  | some effect =>
    rw [fire_of_effect known]
    exact (tells_execute world effect target).mono fun _ told => ⟨effect, rfl, told⟩
  | none =>
    refine .of_log ?_
    unfold fire
    split
    · rfl
    · rename_i name named
      split
      · cases site <;> rfl
      · split
        · rename_i effect means
          rw [effectAt?, named, Option.bind_some, means] at known
          cases known
        · rfl

/-! ### The parts of a frame -/

theorem tells_rule (world : World S T) (site : RuleSite) (target : Option Handle) :
    Tells Phase.dispatch.tells world (world.fire site target) :=
  (tells_fire world site target).mono fun _ told => by
    obtain ⟨effect, -, told⟩ := told
    exact ⟨effect, told⟩

theorem tells_dispatch (world : World S T) : Tells Phase.dispatch.tells world world.dispatch := by
  unfold dispatch
  split
  · exact .refl world
  · have emptied : Tells Phase.dispatch.tells world { world with contacts := some [] } := .of_log rfl
    refine emptied.trans (.foldl _ _ fun world contact => ?_)
    unfold dispatchOne
    split
    · exact tells_rule world _ _
    · exact .refl world

theorem tells_shootOne (world : World S T) (shot : Shot S) :
    Tells Signal.OfMaking world (world.shootOne shot) := by
  simp only [shootOne]
  split
  · exact .refl world
  · refine (tells_withRegistry world fun registry => registry.countShot shot.ownerId).trans ?_
    split
    · rename_i made
      exact (tells_copy made _).mono fun _ => Signal.OfArrival.ofMaking
    · rename_i made
      exact tells_create made
    · exact tells_report _ trivial

theorem tells_fireShots (world : World S T) : Tells Signal.OfMaking world world.fireShots := by
  unfold fireShots
  split
  · exact .refl world
  · have emptied : Tells Signal.OfMaking world { world with shots := some [] } := .of_log rfl
    exact emptied.trans (.foldl _ _ tells_shootOne)

theorem tells_cleanUp (world : World S T) : Tells Signal.OfRemoval world world.cleanUp := by
  unfold cleanUp
  split
  · exact .refl world
  · exact .foldl _ _ tells_destroy

section

variable [Sampling S]

theorem tells_spawnOne {spawner : Spec.Spawner S} {more : Bool}
    (done : world.spawnOne spawner = .ok (after, more)) : Tells Signal.OfMaking world after := by
  have silent (random : Random) : Tells Signal.OfMaking world { world with random := some random } :=
    .of_log rfl
  cases spawned_of_spawnOne done with
  | spent => exact .refl _
  | @copy random _ _ _ _ created =>
    exact (silent random).trans
      (((tells_copy created _).mono fun _ => Signal.OfArrival.ofMaking).trans
        (tells_withRegistry _ _))
  | @group random _ _ _ _ created =>
    exact (silent random).trans ((tells_create created).trans (tells_report _ trivial))
  | @fault random => exact (silent random).trans (tells_report _ trivial)

theorem tells_spawnMany {spawner : Spec.Spawner S} {number : Nat} {more : Bool}
    (done : spawnMany spawner number world = .ok (after, more)) :
    Tells Signal.OfMaking world after := by
  induction number generalizing world with
  | zero =>
    cases done
    exact .refl _
  | succ rest ih =>
    obtain ⟨⟨next, again⟩, first, done⟩ := bind_eq_ok done
    cases again with
    | true => exact (tells_spawnOne first).trans (ih done)
    | false =>
      cases done
      exact tells_spawnOne first

variable [Scalar T]

theorem tells_tickNests {now : T} {nests later : List (Nest S T)}
    (done : tickNests now nests world = .ok (after, later)) : Tells Signal.OfMaking world after := by
  induction nests generalizing world later with
  | nil =>
    cases done
    exact .refl _
  | cons nest rest ih =>
    obtain ⟨⟨next, ticked⟩, first, done⟩ := bind_eq_ok done
    obtain ⟨⟨last, others⟩, second, done⟩ := bind_eq_ok done
    cases done
    obtain ⟨⟨spawned, more⟩, made, ended⟩ := bind_eq_ok first
    cases ended
    exact (tells_spawnMany made).trans (ih second)

theorem tells_tickSpawners (done : world.tickSpawners = .ok after) :
    Tells Signal.OfMaking world after := by
  unfold tickSpawners at done
  split at done
  · obtain ⟨⟨last, ticked⟩, made, done⟩ := bind_eq_ok done
    cases done
    exact (tells_tickNests made).trans (.of_log rfl)
  · cases done
    exact .refl _

end

variable [Scalar T]

theorem tells_tickTimers (world : World S T) : Tells Phase.timers.tells world world.tickTimers := by
  unfold tickTimers
  split
  · rename_i clock alarms _ _
    have read : Tells Phase.timers.tells world
        { world with alarms := some ((pollAlarms clock.now alarms).map (·.1)) } := .of_log rfl
    exact read.trans (.foldl _ _ fun world index => tells_rule world (.timer index) none)
  · exact .refl world

variable [Circular S] [Sampling S] [Rounding T S]

/-- What is told in a part of a frame. -/
theorem tells_runPhase {keyboard : Option (List Key)} {delta : T} {phase : Phase}
    (done : world.runPhase keyboard delta phase = .ok after) : Tells phase.tells world after := by
  cases phase with
  | clock =>
    cases done
    exact ⟨[], rfl, nofun⟩
  | controls =>
    cases done
    exact .of_log (congrArg Books.log (books_driveControls world keyboard))
  | shots =>
    cases done
    exact tells_fireShots world
  | behaviors =>
    cases done
    unfold runBehaviors
    split
    · exact .foldl _ _ fun later entry => .of_log (congrArg Books.log (books_steer later entry))
    · exact .refl world
  | spawners => exact tells_tickSpawners done
  | timers =>
    cases done
    exact tells_tickTimers world
  | movement =>
    cases done
    exact .of_log (congrArg Books.log (books_integrate world))
  | contacts =>
    cases done
    exact .of_log (congrArg Books.log (books_detect world))
  | dispatch =>
    cases done
    exact tells_dispatch world
  | cleanUp =>
    cases done
    exact tells_cleanUp world

end World

end Arcade
