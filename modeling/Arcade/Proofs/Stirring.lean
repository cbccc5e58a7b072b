import Arcade.Proofs.Newcomer

/-! What happens to actors while a game is played, said once: somebody is made, somebody leaves,
actors change where they stand or go to another row, something is told, or all this stays as it is.
How actors may change is a rule: but for movement and contacts they change gently, and calmly where no
keys and no behaviors act on them either. A law of actors, of what is remembered of keys or of what is
told need only be checked on each of these. -/

namespace Arcade

variable {S T : Type}

/-! ### What is told -/

/-- The beginning or the end of a game. -/
inductive Milestone where
  | started (generation : Nat)
  | stopped (generation : Nat)
  deriving DecidableEq

def Signal.milestone? : Signal → Option Milestone
  | .gameStarted _ _ generation => some (.started generation)
  | .gameStopped _ generation => some (.stopped generation)
  | _ => none

/-! ### Gentle and calm changes -/

namespace Actor

/-- Whether the body of an actor can be moved, if it has one. -/
def mobility? (actor : Actor S T) : Option Bool := actor.body.map (·.movable)

theorem movable_eq_mobility? (actor : Actor S T) : actor.movable = actor.mobility?.getD false := by
  rw [movable, mobility?]
  cases actor.body <;> rfl

/-- An actor stays where it is, and can be moved as before; one that cannot be moved keeps its body as
it is. -/
structure Steady (before after : Actor S T) : Prop where
  position : after.position = before.position
  mobility : after.mobility? = before.mobility?
  body : before.movable = false → after.body = before.body

/-- An actor keeps its look and its drawing; a place or a text that was written leaves a mark. -/
structure Marked (before after : Actor S T) : Prop where
  drawing : after.drawing = before.drawing
  visual : after.visual = before.visual
  lettered : after.text.isSome = before.text.isSome
  moved : after.moved = false → before.moved = false ∧ after.position = before.position
  rewritten : after.rewritten = false → before.rewritten = false ∧ after.text = before.text

/-- An actor stays in place, and what is written of it leaves a mark. -/
structure Gentle (before after : Actor S T) : Prop extends Steady before after, Marked before after

/-- An actor keeps its place, its size, its body and its controls, and what is written of it leaves a
mark. -/
structure Calm (before after : Actor S T) : Prop extends Marked before after where
  position : after.position = before.position
  size : after.size = before.size
  body : after.body = before.body
  controls : after.controls = before.controls

/-- What there is to see of an actor, and its marks. -/
def sight (actor : Actor S T) :=
  (actor.drawing, actor.visual, actor.position, actor.text, actor.moved, actor.rewritten)

theorem marked_of_sight {before after : Actor S T} (same : after.sight = before.sight) :
    Marked before after := by
  simp only [sight, Prod.mk.injEq] at same
  obtain ⟨drawing, visual, position, text, moved, rewritten⟩ := same
  exact ⟨drawing, visual, congrArg Option.isSome text, fun still => ⟨moved.symm.trans still, position⟩,
    fun still => ⟨rewritten.symm.trans still, text⟩⟩

theorem Marked.trans {before middle after : Actor S T} (first : Marked before middle)
    (second : Marked middle after) : Marked before after := by
  refine ⟨second.drawing.trans first.drawing, second.visual.trans first.visual,
    second.lettered.trans first.lettered, fun still => ?_, fun still => ?_⟩
  · obtain ⟨earlier, later⟩ := second.moved still
    exact ⟨(first.moved earlier).1, later.trans (first.moved earlier).2⟩
  · obtain ⟨earlier, later⟩ := second.rewritten still
    exact ⟨(first.rewritten earlier).1, later.trans (first.rewritten earlier).2⟩

/-- Something else than the body and the place changes. -/
theorem steady_of_eq {before after : Actor S T} (position : after.position = before.position)
    (body : after.body = before.body) : Steady before after :=
  ⟨position, by rw [mobility?, mobility?, body], fun _ => body⟩

theorem Gentle.refl (actor : Actor S T) : Gentle actor actor :=
  ⟨steady_of_eq rfl rfl, marked_of_sight rfl⟩

theorem Calm.refl (actor : Actor S T) : Calm actor actor := ⟨marked_of_sight rfl, rfl, rfl, rfl, rfl⟩

theorem Calm.gentle {before after : Actor S T} (calm : Calm before after) : Gentle before after :=
  ⟨steady_of_eq calm.position calm.body, calm.toMarked⟩

theorem movable_eq {actor : Actor S T} {body : Body S} (has : actor.body = some body) :
    actor.movable = body.movable := by
  rw [movable, has, Option.any_some]

/-- Whoever can be moved may get another velocity. -/
theorem gentle_withVelocity {actor : Actor S T} {body : Body S} (has : actor.body = some body)
    (free : body.movable = true) (velocity : Vec S) : Gentle actor (actor.withVelocity velocity) := by
  have given : actor.withVelocity velocity = { actor with body := some { body with velocity } } := by
    rw [withVelocity, has]
  rw [given]
  refine ⟨⟨rfl, ?_, fun fixed => ?_⟩, marked_of_sight rfl⟩
  · rw [mobility?, mobility?, has]
    rfl
  · rw [movable_eq has, free] at fixed
    cases fixed

/-- A push changes nothing about whether a body can be moved. -/
theorem mobility_pushed [Scalar S] (push : Vec S) (actor : Actor S T) :
    (actor.pushed push).mobility? = actor.mobility? := by
  unfold pushed
  split
  · rfl
  · rw [mobility?, mobility?, Option.map_map]
    rfl

theorem gentle_driven [Scalar S] [Scalar T] (pressed : List Key) (now : T) (actor : Actor S T) :
    Gentle actor (World.driven pressed now actor) := by
  unfold World.driven
  split
  · rename_i body controls has _
    split
    · rename_i free
      refine ⟨⟨rfl, ?_, fun fixed => ?_⟩, marked_of_sight rfl⟩
      · rw [mobility?, mobility?, has]
        rfl
      · rw [movable_eq has, free] at fixed
        cases fixed
    · exact .refl actor
  · exact .refl actor

end Actor

namespace World

/-- The games that began and ended, in their order. -/
def milestones (world : World S T) : List Milestone :=
  world.log.history.reverse.filterMap Signal.milestone?

theorem milestones_of_log {before after : World S T} (same : after.log = before.log) :
    after.milestones = before.milestones := by
  rw [milestones, same, milestones]

theorem milestones_emit (world : World S T) (signal : Signal) (source : Option Handle) :
    (world.emit signal source).milestones = world.milestones ++ signal.milestone?.toList := by
  have last : [signal].filterMap Signal.milestone? = signal.milestone?.toList := by
    rw [List.filterMap_cons]
    cases signal.milestone? <;> rfl
  simp only [milestones, emit, Log.emit, List.reverse_cons, List.filterMap_append, last]

/-! ### The changes of a world -/

/-- What stays when nothing happens to actors and nothing is told. -/
def footing (world : World S T) :=
  (world.handles, world.roster, world.keys, world.births, world.cradles, world.log.history)

variable [Scalar S]

/-- What happens to actors, who change by a rule, and what is told of a game in the middle of it. -/
inductive Stirs (rule : Actor S T → Actor S T → Prop) : World S T → World S T → Prop where
  | beside {before after : World S T} (same : after.footing = before.footing) :
      Stirs rule before after
  | told {world : World S T} {signal : Signal} (source : Option Handle)
      (midway : signal.milestone? = none) : Stirs rule world (world.emit signal source)
  | made {before after : World S T} {blueprint : Spec.Blueprint S} {id : String}
      {position : Vec S} {handle : Handle}
      (made : before.create blueprint id position = .ok (.actor handle, after)) :
      Stirs rule before after
  | gone (world : World S T) (handle : Handle) : Stirs rule world (world.destroy handle)
  | changed {world : World S T} {change : Actor S T → Actor S T}
      (keeps : ∀ actor, (change actor).handle = actor.handle)
      (follows : ∀ handle actor, world.roster.find? handle = some actor →
        rule actor (change actor)) :
      Stirs rule world { world with roster := world.roster.map change }
  | updated {world : World S T} {change : Actor S T → Actor S T} (handle : Handle)
      (keeps : ∀ actor, (change actor).handle = actor.handle)
      (follows : ∀ actor, rule actor (change actor)) :
      Stirs rule world { world with roster := world.roster.update handle change }
  | trans {before middle after : World S T} (first : Stirs rule before middle)
      (second : Stirs rule middle after) : Stirs rule before after

theorem milestones_create {before after : World S T} {blueprint : Spec.Blueprint S} {id : String}
    {position : Vec S} {handle : Handle}
    (made : before.create blueprint id position = .ok (.actor handle, after)) :
    after.milestones = before.milestones := by
  have entered (world : World S T) (id : String) (handle : Handle) :
      (world.enter id handle).milestones = world.milestones := by
    let registered := world.withRegistry fun registry => registry.register id handle
    have told (error : BuildError) : (registered.report error).milestones =
        (registered.emit (.diagnostic error.message) none).milestones := by
      simp only [milestones, report]
    simp only [enter]
    split
    · rw [told, milestones_emit]
      exact List.append_nil _
    · rfl
  obtain ⟨look, -, rfl, rfl⟩ := eq_of_create made
  let arrived := (before.appear blueprint id position look).2.enter id before.handles.take.1
  have silent := (silent_instruct ((arrived.embody before.handles.take.1 blueprint.body).attach
    before.handles.take.1 blueprint.controls) id blueprint).1
  rw [(silent_attach _ _ _).1, (silent_embody _ _ _).1] at silent
  exact (milestones_of_log (congrArg Prod.snd silent)).trans (entered _ _ _)

variable {rule broader : Actor S T → Actor S T → Prop} {before middle after world : World S T}
  {others : List Handle} {blueprint : Spec.Blueprint S} {id : String} {position : Vec S}
  {handle : Handle}

omit [Scalar S] in
/-- Whoever is removed is gone, and the others are as they were. -/
theorem find?_destroy (good : world.Sound others) (handle other : Handle) :
    (world.destroy handle).roster.find? other =
      if handle = other then none else world.roster.find? other := by
  cases found : world.roster.find? handle with
  | none =>
    have nobody : world.destroy handle = world := by rw [destroy, found]
    rw [nobody]
    split
    · rename_i same
      rw [← same]
      exact found
    · rfl
  | some actor =>
    have left : (world.destroy handle).roster = world.roster.remove handle := by
      rw [destroy, found]
      cases world.registry <;> rfl
    rw [left, Roster.find?_remove good.distinct]

omit [Scalar S] in
theorem origins_destroy (world : World S T) (handle : Handle) :
    (world.destroy handle).origins = world.origins := by
  unfold destroy
  split
  · rfl
  · split
    · rfl
    · simp only [origins, emit]

namespace Stirs

theorem refl (world : World S T) : Stirs rule world world := .beside rfl

theorem mono (stirs : Stirs rule before after)
    (weaker : ∀ before after, rule before after → broader before after) :
    Stirs broader before after := by
  induction stirs with
  | beside same => exact .beside same
  | told source midway => exact .told source midway
  | made made => exact .made made
  | gone world handle => exact .gone world handle
  | changed keeps follows =>
    exact .changed keeps fun handle actor found => weaker _ _ (follows handle actor found)
  | updated handle keeps follows =>
    exact .updated handle keeps fun actor => weaker _ _ (follows actor)
  | trans first second firstWeaker secondWeaker => exact firstWeaker.trans secondWeaker

theorem foldl {α : Type} {change : World S T → α → World S T} (items : List α)
    (world : World S T) (each : ∀ world item, Stirs rule world (change world item)) :
    Stirs rule world (items.foldl change world) := by
  induction items generalizing world with
  | nil => exact .refl world
  | cons item rest ih => exact (each world item).trans (ih _)

/-- One actor changes where it stands. -/
theorem modify (handle : Handle) {change : Actor S T → Actor S T}
    (still : ∀ actor, rule actor actor) (keeps : ∀ actor, (change actor).handle = actor.handle)
    (follows : ∀ actor, world.roster.find? handle = some actor → rule actor (change actor)) :
    Stirs rule world { world with roster := world.roster.modify handle change } := by
  refine .changed ?_ ?_
  · intro actor
    split
    · exact keeps actor
    · rfl
  · intro other actor found
    split
    · rename_i hit
      have own : actor.handle = other := by simpa using List.find?_some found
      rw [← own, hit] at found
      exact follows actor found
    · exact still actor

theorem safe (stirs : Stirs rule before after) : Safe others before after := by
  have same {before after : World S T} (handles : after.handles = before.handles)
      (held : after.roster.handles.Perm before.roster.handles) : Safe others before after := by
    rw [Safe, World.Sound, World.Sound, handles]
    refine fun good => ⟨Handles.Sound.perm good (held.symm.append_right others), fun _ gone => ?_⟩
    rw [World.Spent, handles]
    exact Handles.Spent.perm gone (held.symm.append_right others)
  induction stirs with
  | beside alike =>
    simp only [footing, Prod.mk.injEq] at alike
    exact same alike.1 (.of_eq (by rw [alike.2.1]))
  | told source midway => exact same (by simp only [emit]) (.of_eq (by simp only [emit]))
  | made made =>
    exact fun good => ⟨(made_create good made).sound good, fun _ => (made_create good made).spent⟩
  | gone world handle => exact fun good => (course_destroy good handle).safe good
  | changed keeps follows => exact same rfl (.of_eq (Roster.handles_map keeps))
  | updated handle keeps follows =>
    exact fun good => same rfl (Roster.handles_update_perm good.distinct keeps handle) good
  | trans first second firstSafe secondSafe => exact firstSafe.trans secondSafe

/-- Whoever is there stays there and changes by the rule, or is gone for good. -/
theorem keeps (stirs : Stirs rule before after) (good : before.Sound others)
    {holds : Actor S T → Prop}
    (kept : ∀ before after, rule before after → holds before → holds after) {actor : Actor S T}
    (found : before.roster.find? handle = some actor) (held : holds actor) :
    (∃ later, after.roster.find? handle = some later ∧ holds later) ∨
      after.Spent others handle := by
  induction stirs generalizing actor with
  | beside same =>
    simp only [footing, Prod.mk.injEq] at same
    rw [same.2.1]
    exact .inl ⟨actor, found, held⟩
  | told source midway =>
    simp only [emit]
    exact .inl ⟨actor, found, held⟩
  | made made =>
    obtain ⟨look, -, welcomes⟩ := welcomes_create good made
    rw [welcomes, if_neg]
    · exact .inl ⟨actor, found, held⟩
    · rintro rfl
      exact (made_create good made).fresh good (Roster.mem_handles_iff.mpr (by
        rw [Roster.contains, found]
        rfl))
  | gone world other =>
    by_cases hit : other = handle
    · rw [← hit] at found ⊢
      exact .inr ((removed_destroy good found).spent_self good)
    · rw [find?_destroy good, if_neg hit]
      exact .inl ⟨actor, found, held⟩
  | changed keeps follows =>
    rw [Roster.find?_map keeps, found]
    exact .inl ⟨_, rfl, kept _ _ (follows _ _ found) held⟩
  | updated other keeps follows =>
    rw [Roster.find?_update good.distinct keeps, found]
    split
    · exact .inl ⟨_, rfl, kept _ _ (follows _) held⟩
    · exact .inl ⟨_, rfl, held⟩
  | trans first second firstKeeps secondKeeps =>
    obtain ⟨sound, spent⟩ := first.safe good
    rcases firstKeeps good found held with ⟨later, there, still⟩ | gone
    · exact secondKeeps sound there still
    · exact .inr ((second.safe sound).2 handle gone)

/-- No game begins or ends in the middle of one. -/
theorem milestones (stirs : Stirs rule before after) : after.milestones = before.milestones := by
  induction stirs with
  | beside same =>
    simp only [footing, Prod.mk.injEq] at same
    rw [World.milestones, same.2.2.2.2.2]
    rfl
  | told source midway => rw [milestones_emit, midway, Option.toList_none, List.append_nil]
  | made made => exact milestones_create made
  | gone world handle =>
    unfold destroy
    split
    · rfl
    · split
      · rfl
      · rw [milestones_emit]
        exact List.append_nil _
  | changed keeps follows => rfl
  | updated handle keeps follows => rfl
  | trans first second firstSame secondSame => exact secondSame.trans firstSame

/-- What is known of keys stays true. -/
theorem faithful (stirs : Stirs rule before after) (known : before.keys.Faithful) :
    after.keys.Faithful := by
  induction stirs with
  | beside same =>
    simp only [footing, Prod.mk.injEq] at same
    rw [same.2.2.1]
    exact known
  | told source midway =>
    simp only [emit]
    exact known
  | made made => exact faithful_create known made
  | gone world handle =>
    unfold destroy
    split
    · exact known
    · split
      · exact known
      · simp only [emit]
        exact known
  | changed keeps follows => exact known
  | updated handle keeps follows => exact known
  | trans first second firstKeeps secondKeeps => exact secondKeeps (firstKeeps known)

end Stirs

/-! ### Making and telling -/

theorem stirs_withRegistry (change : Registry S T → Registry S T) :
    Stirs rule world (world.withRegistry change) :=
  .beside (by simp only [footing, withRegistry])

theorem stirs_report (world : World S T) (error : BuildError) :
    Stirs rule world (world.report error) := by
  have told : Stirs rule world (world.emit (.diagnostic error.message) none) := .told none rfl
  exact told.trans (.beside (by simp only [footing, report]))

theorem stirs_create {created : Created}
    (made : before.create blueprint id position = .ok (created, after)) :
    Stirs rule before after := by
  cases created with
  | actor handle => exact .made made
  | group name =>
    rw [create_group made]
    exact stirs_withRegistry _

theorem stirs_adopt (world : World S T) (handle : Handle) (group : String) :
    Stirs Actor.Calm world (world.adopt handle group) := by
  unfold adopt
  split
  · exact .refl world
  · let mark : Actor S T → Actor S T :=
      fun actor => { actor with group := some group, transient := true }
    let marked : World S T := { world with roster := world.roster.update handle mark }
    have changed : Stirs Actor.Calm world marked :=
      .updated handle (fun _ => rfl) fun _ => ⟨Actor.marked_of_sight rfl, rfl, rfl, rfl, rfl⟩
    exact (changed.trans (stirs_withRegistry _)).trans (.told _ rfl)

/-! ### Rules at work -/

theorem stirs_setText {id text : String} (changed : world.setText? id text = some after) :
    Stirs Actor.Calm world after := by
  simp only [setText?, Option.bind_eq_bind, Option.bind_eq_some_iff] at changed
  obtain ⟨handle, -, actor, known, changed⟩ := changed
  split at changed
  · rename_i lettered
    cases changed
    refine .modify handle Actor.Calm.refl (fun _ => rfl) fun other same => ?_
    rw [known] at same
    cases same
    refine ⟨⟨rfl, rfl, lettered.symm, fun still => ⟨still, rfl⟩, ?_⟩, rfl, rfl, rfl, rfl⟩
    intro fresh
    cases fresh
  · cases changed

theorem stirs_addPoints (world : World S T) (points : Int) :
    Stirs Actor.Calm world (world.addPoints points) := by
  have shown (world : World S T) (id text : String) :
      Stirs Actor.Calm world ((world.setText? id text).getD world) := by
    cases changed : world.setText? id text with
    | none => exact .refl world
    | some after => exact stirs_setText changed
  have counted : Stirs Actor.Calm world { world with
      board := some { world.board.getD .start with
        score := (world.board.getD .start).score + points } } := .beside rfl
  exact (counted.trans (shown _ _ _)).trans (.told none rfl)

theorem stirs_endGame (world : World S T) : Stirs Actor.Calm world world.endGame := by
  simp only [endGame]
  split
  · exact .beside rfl
  · have closed : Stirs Actor.Calm world
        { world with board := some ⟨(world.board.getD .start).score, true⟩ } := .beside rfl
    have paused (world : World S T) :
        Stirs Actor.Calm world { world with arena := world.arena.map Arena.pause } := .beside rfl
    refine (closed.trans (Stirs.trans ?_ (paused _))).trans (.told none rfl)
    split
    · rename_i made
      exact stirs_create made
    · exact .refl _

theorem stirs_destroyTarget (world : World S T) (target : Option Handle) :
    Stirs rule world (world.destroyTarget target) := by
  cases target with
  | none => exact .refl world
  | some handle => exact .gone world handle

theorem stirs_execute (world : World S T) (effect : Spec.Effect) (target : Option Handle) :
    Stirs Actor.Calm world (world.execute effect target) := by
  cases effect with
  | updateScore points =>
    exact (stirs_addPoints world points).trans (stirs_destroyTarget _ target)
  | gameOver => exact stirs_endGame world
  | destroy => exact stirs_destroyTarget world target
  | updateText id text =>
    simp only [execute]
    split
    · rename_i changed
      exact (stirs_setText changed).trans (.told none rfl)
    · exact .refl world

theorem stirs_fire (world : World S T) (site : RuleSite) (target : Option Handle) :
    Stirs Actor.Calm world (world.fire site target) := by
  unfold fire
  split
  · exact .refl world
  · split
    · cases site <;> exact .beside rfl
    · split
      · exact stirs_execute world _ target
      · exact .refl world

theorem stirs_dispatch (world : World S T) : Stirs Actor.Calm world world.dispatch := by
  unfold dispatch
  split
  · exact .refl world
  · have emptied : Stirs Actor.Calm world { world with contacts := some [] } := .beside rfl
    refine emptied.trans (.foldl _ _ ?_)
    intro world contact
    unfold dispatchOne
    split
    · exact stirs_fire world _ _
    · exact .refl world

/-! ### Copies and shots -/

theorem stirs_shootOne (world : World S T) (shot : Shot S) :
    Stirs Actor.Calm world (world.shootOne shot) := by
  simp only [shootOne]
  split
  · exact .refl world
  · have counted : Stirs Actor.Calm world
        (world.withRegistry fun registry => registry.countShot shot.ownerId) :=
      stirs_withRegistry _
    refine counted.trans ?_
    split
    · rename_i made
      exact (Stirs.made made).trans (stirs_adopt _ _ _)
    · rename_i made
      exact stirs_create made
    · exact stirs_report _ _

theorem stirs_fireShots (world : World S T) : Stirs Actor.Calm world world.fireShots := by
  unfold fireShots
  split
  · exact .refl world
  · have emptied : Stirs Actor.Calm world { world with shots := some [] } := .beside rfl
    exact emptied.trans (.foldl _ _ stirs_shootOne)

theorem stirs_cleanUp (world : World S T) : Stirs rule world world.cleanUp := by
  unfold cleanUp
  split
  · exact .refl world
  · exact .foldl _ _ Stirs.gone

section

variable [Sampling S]

theorem stirs_spawnOne {spawner : Spec.Spawner S} {more : Bool}
    (done : world.spawnOne spawner = .ok (after, more)) : Stirs Actor.Calm world after := by
  have drawn (random : Random) : Stirs Actor.Calm world { world with random := some random } :=
    .beside rfl
  cases spawned_of_spawnOne done with
  | spent => exact .refl _
  | @copy random _ _ _ _ created =>
    exact (drawn random).trans
      (((Stirs.made created).trans (stirs_adopt _ _ _)).trans (stirs_withRegistry _))
  | @group random _ _ _ _ created =>
    exact (drawn random).trans ((stirs_create created).trans (stirs_report _ _))
  | @fault random => exact (drawn random).trans (stirs_report _ _)

theorem stirs_spawnMany {spawner : Spec.Spawner S} {number : Nat} {more : Bool}
    (done : spawnMany spawner number world = .ok (after, more)) :
    Stirs Actor.Calm world after := by
  induction number generalizing world with
  | zero =>
    cases done
    exact .refl _
  | succ rest ih =>
    obtain ⟨⟨next, again⟩, first, done⟩ := bind_eq_ok done
    cases again with
    | true => exact (stirs_spawnOne first).trans (ih done)
    | false =>
      cases done
      exact stirs_spawnOne first

theorem stirs_tickNests [Scalar T] {now : T} {nests later : List (Nest S T)}
    (done : tickNests now nests world = .ok (after, later)) : Stirs Actor.Calm world after := by
  induction nests generalizing world later with
  | nil =>
    cases done
    exact .refl _
  | cons nest rest ih =>
    obtain ⟨⟨next, ticked⟩, first, done⟩ := bind_eq_ok done
    obtain ⟨⟨last, others⟩, second, done⟩ := bind_eq_ok done
    cases done
    obtain ⟨⟨spawned, more⟩, made, ended⟩ := bind_eq_ok first
    cases ended
    exact (stirs_spawnMany made).trans (ih second)

theorem stirs_tickSpawners [Scalar T] (done : world.tickSpawners = .ok after) :
    Stirs Actor.Calm world after := by
  unfold tickSpawners at done
  split at done
  · obtain ⟨⟨last, ticked⟩, made, done⟩ := bind_eq_ok done
    cases done
    exact (stirs_tickNests made).trans (.beside rfl)
  · cases done
    exact .refl _

end

/-! ### Steering -/

section

variable [Scalar T]

theorem stirs_driveControls (world : World S T) (keyboard : Option (List Key)) :
    Stirs Actor.Gentle world (world.driveControls keyboard) := by
  unfold driveControls
  split
  · rename_i pressed clock shots _ _
    have driven : Stirs Actor.Gentle world
        { world with roster := world.roster.map (driven pressed clock.now) } :=
      .changed (fun actor => (keeps_driven pressed clock.now actor).1)
        fun _ actor _ => Actor.gentle_driven pressed clock.now actor
    exact driven.trans (.beside rfl)
  · exact .refl world

theorem stirs_tickTimers (world : World S T) : Stirs Actor.Calm world world.tickTimers := by
  unfold tickTimers
  split
  · rename_i clock alarms _ _
    have read : Stirs Actor.Calm world
        { world with alarms := some ((pollAlarms clock.now alarms).map (·.1)) } := .beside rfl
    exact read.trans (.foldl _ _ fun world index => stirs_fire world (.timer index) none)
  · exact .refl world

variable [Circular S] [Sampling S] [Rounding T S]

/-- Whoever is steered can be moved. -/
theorem stirs_steer (world : World S T) (entry : String × Assignment) :
    Stirs Actor.Gentle world (world.steer entry) := by
  simp only [steer]
  split
  · exact .refl world
  · rename_i handle steering found
    simp only [Option.bind_eq_bind, Option.bind_eq_some_iff] at found
    obtain ⟨clock, -, registry, -, random, -, meant, -, actor, known, body, has, found⟩ := found
    split at found
    · rename_i free
      simp only [Option.some.injEq, Prod.mk.injEq] at found
      obtain ⟨same, -⟩ := found
      rw [same] at known
      have steered : Stirs Actor.Gentle world { world with
          roster := world.roster.modify handle (·.withVelocity steering.velocity) } := by
        refine .modify handle Actor.Gentle.refl ?_ ?_
        · intro actor
          unfold Actor.withVelocity
          split <;> rfl
        · intro other same
          rw [known] at same
          cases same
          exact Actor.gentle_withVelocity has free _
      have drawn : Stirs Actor.Gentle world { world with
          roster := world.roster.modify handle (·.withVelocity steering.velocity)
          random := some steering.random } := steered.trans (.beside rfl)
      split
      · exact drawn.trans (stirs_withRegistry _)
      · exact drawn
    · cases found

theorem stirs_runBehaviors (world : World S T) :
    Stirs Actor.Gentle world world.runBehaviors := by
  unfold runBehaviors
  split
  · exact .foldl _ _ stirs_steer
  · exact .refl world

/-- Where actors are not driven, steered, moved or pushed, they change calmly. -/
theorem stirs_calmly {keyboard : Option (List Key)} {delta : T} {phase : Phase}
    (calm : phase ∉ [.controls, .behaviors, .movement, .contacts])
    (done : world.runPhase keyboard delta phase = .ok after) : Stirs Actor.Calm world after := by
  cases phase with
  | clock =>
    cases done
    exact .beside rfl
  | shots =>
    cases done
    exact stirs_fireShots world
  | spawners => exact stirs_tickSpawners done
  | timers =>
    cases done
    exact stirs_tickTimers world
  | dispatch =>
    cases done
    exact stirs_dispatch world
  | cleanUp =>
    cases done
    exact stirs_cleanUp world
  | _ => exact absurd (by decide) calm

end

end World

/-! ### Movement and contacts -/

/-- A body that cannot be moved takes no share of a push. -/
theorem Box.shares_of_separate [Scalar S] {a b : Box S} {aMovable bMovable : Bool}
    {pushA pushB : Vec S} (apart : Box.separate a b aMovable bMovable = some (pushA, pushB)) :
    (aMovable = false → ∃ push : Vec S, pushA = push.scale 0) ∧
      (bMovable = false → ∃ push : Vec S, pushB = push.scale 0) := by
  cases aMovable <;> cases bMovable <;>
    simp only [separate, shares?, Option.ite_none_left_eq_some, Option.some.injEq, Prod.mk.injEq,
      reduceCtorEq] at apart
  · obtain ⟨-, rfl, rfl⟩ := apart
    exact ⟨fun _ => ⟨_, rfl⟩, nofun⟩
  · obtain ⟨-, rfl, rfl⟩ := apart
    exact ⟨nofun, fun _ => ⟨_, rfl⟩⟩
  · exact ⟨nofun, nofun⟩

namespace World

variable [Scalar S] {rule : Actor S T → Actor S T → Prop} {before after world : World S T}

/-- A rule by which actors may change while a game is played. -/
structure Lenient (rule : Actor S T → Actor S T → Prop) : Prop where
  gentle : ∀ {before after : Actor S T}, Actor.Gentle before after → rule before after
  moves : ∀ (arena : Arena S) (seconds : S) (actor : Actor S T),
    rule actor (actor.integrated arena seconds)
  pushes : ∀ {actor : Actor S T} {push : Vec S},
    (actor.movable = false → ∃ whole : Vec S, push = whole.scale 0) →
    rule actor (actor.pushed push)

/-- Without a rule actors may change as they like. -/
theorem lenient_any : Lenient fun (_ _ : Actor S T) => True :=
  ⟨fun _ => trivial, fun _ _ _ => trivial, fun _ => trivial⟩

namespace Lenient

theorem still (lenient : Lenient rule) (actor : Actor S T) : rule actor actor :=
  lenient.gentle (.refl actor)

/-- Of two bodies that meet each takes its share of the push. -/
theorem stirs_parted (lenient : Lenient rule) (world : World S T) (kind : Contact.Kind)
    {first second : Actor S T} (left : world.roster.find? first.handle = some first)
    (right : world.roster.find? second.handle = some second) :
    Stirs rule world { world with roster := parted world.roster kind first second } := by
  unfold parted
  split
  · rename_i a b hasFirst hasSecond
    split
    · rename_i pushFirst pushSecond apart
      obtain ⟨spareFirst, spareSecond⟩ := Box.shares_of_separate apart
      rw [← Actor.movable_eq hasFirst] at spareFirst
      rw [← Actor.movable_eq hasSecond] at spareSecond
      have keeps (push : Vec S) (actor : Actor S T) : (actor.pushed push).handle = actor.handle :=
        (keeps_pushed push actor).1
      have free : (second.pushed pushFirst).movable = second.movable := by
        rw [Actor.movable_eq_mobility?, Actor.mobility_pushed, ← Actor.movable_eq_mobility?]
      let pushed : World S T := { world with
        roster := world.roster.modify first.handle (·.pushed pushFirst) }
      have moved : Stirs rule world pushed := by
        refine .modify first.handle lenient.still (keeps pushFirst) ?_
        intro actor found
        rw [left] at found
        cases found
        exact lenient.pushes spareFirst
      have settled : Stirs rule pushed { pushed with
          roster := pushed.roster.modify second.handle (·.pushed pushSecond) } := by
        refine .modify second.handle lenient.still (keeps pushSecond) ?_
        intro actor found
        apply lenient.pushes
        have same : actor.movable = second.movable := by
          rw [Roster.find?_modify (keeps pushFirst), right] at found
          split at found
          · cases found
            exact free
          · cases found
            rfl
        rwa [same]
      exact moved.trans settled
    · exact .refl world
  · exact .refl world

theorem stirs_meet (lenient : Lenient rule) (world : World S T) (kind : Contact.Kind) (index : Nat)
    (state : Roster S T × List Contact) (pair : Handle × Handle) :
    Stirs rule { world with roster := state.1 }
      { world with roster := (meet kind index state pair).1 } := by
  simp only [meet]
  split
  · rename_i first second left right
    have own {handle : Handle} {actor : Actor S T} (found : state.1.find? handle = some actor) :
        state.1.find? actor.handle = some actor := by
      have same : actor.handle = handle := by simpa using List.find?_some found
      rw [same]
      exact found
    split
    · exact lenient.stirs_parted { world with roster := state.1 } kind (own left) (own right)
    · exact .refl _
  · exact .refl _

/-- What happens to a roster step by step happens to the world of the roster. -/
theorem stirs_roster {α : Type}
    {change : Roster S T × List Contact → α → Roster S T × List Contact} (world : World S T)
    (each : ∀ (state : Roster S T × List Contact) (item : α),
      Stirs rule { world with roster := state.1 } { world with roster := (change state item).1 })
    (state : Roster S T × List Contact) (items : List α) :
    Stirs rule { world with roster := state.1 }
      { world with roster := (items.foldl change state).1 } := by
  induction items generalizing state with
  | nil => exact .refl _
  | cons item rest ih => exact (each state item).trans (ih (change state item))

theorem stirs_detect (lenient : Lenient rule) (world : World S T) :
    Stirs rule world world.detect := by
  unfold detect
  split
  · rename_i arena registry bindings contacts _ _ _ _
    split
    · have met (state : Roster S T × List Contact) (entry : Binding × Nat) :
          Stirs rule { world with roster := state.1 }
            { world with roster := (detectBinding registry state entry).1 } :=
        stirs_roster world (lenient.stirs_meet world _ _) state _
      have searched := stirs_roster world met (world.roster, contacts) bindings.zipIdx
      exact searched.trans (.beside rfl)
    · exact .refl world
  · exact .refl world

variable [Scalar T]

theorem stirs_integrate [Rounding T S] (lenient : Lenient rule) (world : World S T) :
    Stirs rule world world.integrate := by
  unfold integrate
  split
  · split
    · exact .changed (fun actor => (keeps_integrated _ _ actor).1)
        fun _ actor _ => lenient.moves _ _ actor
    · exact .refl world
  · exact .refl world

/-- Whatever happens in a part of a frame, actors change by a lenient rule. -/
theorem stirs_runPhase [Circular S] [Sampling S] [Rounding T S] (lenient : Lenient rule)
    {keyboard : Option (List Key)} {delta : T} {phase : Phase}
    (done : world.runPhase keyboard delta phase = .ok after) : Stirs rule world after := by
  have gentle {after : World S T} (stirs : Stirs Actor.Gentle world after) :
      Stirs rule world after := stirs.mono fun _ _ => lenient.gentle
  cases phase with
  | controls =>
    cases done
    exact gentle (stirs_driveControls world keyboard)
  | behaviors =>
    cases done
    exact gentle (stirs_runBehaviors world)
  | movement =>
    cases done
    exact lenient.stirs_integrate world
  | contacts =>
    cases done
    exact lenient.stirs_detect world
  | _ => exact gentle ((stirs_calmly (by decide) done).mono fun _ _ => Actor.Calm.gentle)

end Lenient

/-! ### Drawing, building and leaving -/

theorem stirs_draw {pictures : Bool} (done : world.draw pictures = .ok after) :
    Stirs Actor.Steady world after := by
  have attached (handles : List Handle) (world : World S T) :
      Stirs Actor.Steady world (handles.foldl (attachDrawing pictures) world) := by
    refine .foldl handles world ?_
    intro world handle
    exact .updated handle (fun _ => rfl) fun _ => Actor.steady_of_eq rfl rfl
  unfold draw at done
  split at done
  · cases done
  · cases done
    have drawn : Stirs Actor.Steady world (world.attachDrawings pictures) := attached _ world
    exact drawn.trans (.changed (fun _ => rfl) fun _ _ _ => Actor.steady_of_eq rfl rfl)

theorem stirs_placeObject (world : World S T) (object : Spec.Blueprint S) :
    Stirs rule world (world.placeObject object) := by
  unfold placeObject
  split
  · rename_i made
    exact stirs_create made
  · exact stirs_report _ _

theorem stirs_placeInteraction (kind : Contact.Kind) (world : World S T) (line : String) :
    Stirs rule world (world.placeInteraction kind line) := by
  unfold placeInteraction
  split
  · exact .beside rfl
  · exact stirs_report _ _

theorem stirs_vacate (world : World S T) :
    Stirs rule { world with playing := none, registry := none } world.vacate :=
  .foldl _ _ Stirs.gone

variable [Scalar T]

theorem stirs_placeSpawner (world : World S T) (spawner : Spec.Spawner S) :
    Stirs rule world (world.placeSpawner spawner) := by
  have grouped : Stirs rule world
      (world.withRegistry fun registry => registry.ensureGroup spawner.template.id) :=
    stirs_withRegistry _
  exact grouped.trans (.beside rfl)

theorem stirs_placeTimer (world : World S T) (line : String) :
    Stirs rule world (world.placeTimer line) := by
  unfold placeTimer
  split
  · exact .beside rfl
  · exact stirs_report _ _

theorem stirs_build (world : World S T) (scene : Spec.Scene S) :
    Stirs rule world (world.build scene) := by
  let logic := scene.logic.getD .empty
  have known : Stirs rule world { world with library := some (libraryOf (logic.actions.getD [])) } :=
    .beside rfl
  have shots (world : World S T) : Stirs rule world
      (if scene.objects.any shoots then
        world.withRegistry fun registry => registry.ensureGroup projectileGroup else world) := by
    split
    · exact stirs_withRegistry _
    · exact .refl world
  have objects := known.trans (.foldl scene.objects _ stirs_placeObject)
  have spawners := objects.trans (.foldl (logic.spawners.getD []) _ stirs_placeSpawner)
  have rules := (spawners.trans (shots _)).trans
    (.foldl (logic.onCollision.getD []) _ (stirs_placeInteraction .collision))
  have overlaps := rules.trans
    (.foldl (logic.onOverlap.getD []) _ (stirs_placeInteraction .overlap))
  exact overlaps.trans (.foldl (logic.timers.getD []) _ stirs_placeTimer)

end World

end Arcade
