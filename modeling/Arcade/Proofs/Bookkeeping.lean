import Arcade.Proofs.Copying
import Arcade.Proofs.Ledger

/-! The bookkeeping of a game: what each operation of a world enters in its books. -/

namespace Arcade

variable {S T : Type}

namespace World

def books (world : World S T) : Books S T where
  log := world.log
  board := world.board
  arena := world.arena
  copies := (world.registry.getD .empty).copies
  shots := (world.registry.getD .empty).shots
  births := world.births
  nests := world.nests

/-- Whether the game has ended. -/
def ended (world : World S T) : Bool := world.books.ended

variable {before middle after world : World S T} {blueprint : Spec.Blueprint S} {id : String}
  {handle : Handle} {position : Vec S}

theorem books_withRegistry {change : Registry S T → Registry S T}
    (copies : ∀ registry, (change registry).copies = registry.copies)
    (shots : ∀ registry, (change registry).shots = registry.shots) :
    (world.withRegistry change).books = world.books := by
  rw [books, withRegistry, Option.getD_some, copies, shots]
  rfl

/-- What is done one after the other is entered one after the other. -/
theorem runs_foldl {α : Type} {may : Entry S T → Prop} {change : World S T → α → World S T}
    {items : List α} (world : World S T)
    (each : ∀ world, ∀ item ∈ items, Books.Runs may world.books (change world item).books) :
    Books.Runs may world.books (items.foldl change world).books := by
  induction items generalizing world with
  | nil => exact .refl
  | cons item rest ih =>
    exact (each world item List.mem_cons_self).trans
      (ih _ fun world other member => each world other (List.mem_cons_of_mem _ member))

/-! ### What is told -/

theorem books_emit (world : World S T) (signal : Signal) (source : Option Handle) :
    (world.emit signal source).books = world.books.enter (.news signal source) := by
  simp only [books, emit, Books.enter]

theorem runs_emit (world : World S T) {signal : Signal} (source : Option Handle)
    (other : ∀ score, signal ≠ .gameOver score) :
    Books.Runs Entry.OfNews world.books (world.emit signal source).books := by
  rw [books_emit]
  exact Books.Runs.refl.enter trivial other

theorem runs_report (world : World S T) (error : BuildError) :
    Books.Runs Entry.OfNews world.books (world.report error).books := by
  have same : (world.report error).books =
      (world.emit (.diagnostic error.message) none).books := by
    simp only [report, books, emit]
  rw [same]
  exact runs_emit world none fun _ => Signal.noConfusion

theorem runs_destroy (world : World S T) (handle : Handle) :
    Books.Runs Entry.OfNews world.books (world.destroy handle).books := by
  unfold destroy
  split
  · exact .refl
  · split
    · exact .refl
    · rename_i registry named
      refine .trans (.of_eq ?_) (runs_emit _ _ fun _ => Signal.noConfusion)
      simp only [books, Option.getD_some, named, Registry.forget]

theorem runs_adopt (world : World S T) (handle : Handle) (group : String) :
    Books.Runs Entry.OfNews world.books (world.adopt handle group).books := by
  unfold adopt
  split
  · exact .refl
  · exact .trans (.of_eq (books_withRegistry (fun _ => rfl) fun _ => rfl))
      (runs_emit _ _ fun _ => Signal.noConfusion)

/-! ### Making -/

theorem books_instruct (world : World S T) (id : String) (blueprint : Spec.Blueprint S) :
    (world.instruct id blueprint).books = world.books := by
  unfold instruct
  split
  · exact books_withRegistry (fun _ => rfl) fun _ => rfl
  · rfl

theorem runs_enter (world : World S T) (id : String) (handle : Handle) :
    Books.Runs Entry.OfNews world.books (world.enter id handle).books := by
  have registered : (world.withRegistry fun registry => registry.register id handle).books =
      world.books := books_withRegistry (fun _ => rfl) fun _ => rfl
  simp only [enter]
  split
  · exact .trans (.of_eq registered) (runs_report _ _)
  · exact .of_eq registered

variable [Scalar S]

theorem books_embody (world : World S T) (handle : Handle) (body : Option (Spec.Body S)) :
    (world.embody handle body).books = world.books := by
  unfold embody
  split <;> rfl

theorem books_attach (world : World S T) (handle : Handle)
    (controls : Option (Spec.Controls S (Spec.Blueprint S))) :
    (world.attach handle controls).books = world.books := by
  unfold attach
  split <;> rfl

/-- Once it is entered who was made, the rest of the making is only told of. -/
theorem runs_create (made : before.create blueprint id position = .ok (.actor handle, after)) :
    Books.Runs Entry.OfNews
      { before.books with births := ⟨handle, id, blueprint⟩ :: before.births } after.books := by
  unfold create at made
  split at made
  · cases made
  · split at made
    · cases made
    · rename_i look _
      simp only [Except.ok.injEq, Prod.mk.injEq, Created.actor.injEq] at made
      obtain ⟨rfl, rfl⟩ := made
      refine .trans (runs_enter (before.appear blueprint id position look).2 id
        (before.appear blueprint id position look).1) (.of_eq ?_)
      rw [books_instruct, books_attach, books_embody]

theorem books_createGroup {name : String}
    (made : before.create blueprint id position = .ok (.group name, after)) :
    after.books = before.books := by
  rw [create_group made]
  exact books_withRegistry (fun _ => rfl) fun _ => rfl

/-! ### Rules at work -/

omit [Scalar S] in
theorem books_setText {id text : String} (changed : world.setText? id text = some after) :
    after.books = world.books := by
  simp only [setText?, Option.bind_eq_bind, Option.bind_eq_some_iff] at changed
  obtain ⟨handle, -, actor, -, changed⟩ := changed
  split at changed
  · cases changed
    rfl
  · cases changed

omit [Scalar S] in
theorem runs_addPoints (world : World S T) (points : Int) :
    Books.Runs Entry.OfRules world.books (world.addPoints points).books := by
  let board := world.board.getD .start
  let counted : World S T := { world with board := some ⟨board.score + points, board.ended⟩ }
  let text := "Score: " ++ toString (board.score + points)
  have scored : counted.books = world.books.enter (.score points) := rfl
  have shown : ((counted.setText? scoreTextId text).getD counted).books = counted.books := by
    cases changed : counted.setText? scoreTextId text with
    | none => rfl
    | some after => exact books_setText changed
  have entered : Books.Runs Entry.OfRules world.books (world.books.enter (.score points)) :=
    Books.Runs.refl.enter trivial trivial
  rw [← scored, ← shown] at entered
  exact entered.trans ((runs_emit _ _ fun _ => Signal.noConfusion).mono Entry.ofRules_of_news)

/-- A banner is always made. -/
theorem exists_banner (world : World S T) (center : Vec S) :
    ∃ handle after,
      world.create (banner center) gameOverTextId center = .ok (.actor handle, after) :=
  ⟨_, _, rfl⟩

theorem runs_endGame (world : World S T) :
    Books.Runs Entry.OfRules world.books world.endGame.books := by
  simp only [endGame]
  split
  · rename_i ended
    -- a board on which the game has ended is there
    have same : some (world.board.getD .start) = world.board := by
      cases kept : world.board with
      | none =>
        rw [kept] at ended
        cases ended
      | some board => rfl
    refine .of_eq ?_
    simp only [books, same]
  · rename_i going
    let closed : World S T :=
      { world with board := some ⟨(world.board.getD .start).score, true⟩ }
    obtain ⟨handle, shown, made⟩ := closed.exists_banner closed.center
    have news := (runs_create made).elsewhere world.books rfl
    have kept := (runs_create made).told
    simp only [closed] at made
    rw [made]
    refine (news.mono Entry.ofRules_of_news).trans ?_
    have result : (World.emit { shown with arena := shown.arena.map Arena.pause }
        (.gameOver (world.board.getD .start).score) none).books =
        Books.enter { world.books with log := shown.books.log }
          (.ending handle closed.center) := by
      have paused : World.books { shown with arena := shown.arena.map Arena.pause } =
          { shown.books with arena := shown.books.arena.map Arena.pause } := rfl
      rw [books_emit, paused, kept]
      simp only [Books.enter, closed, books]
    have still : Books.ended { world.books with log := shown.books.log } = false :=
      Bool.eq_false_iff.mpr going
    rw [result]
    exact Books.Runs.refl.enter trivial still

omit [Scalar S] in
theorem runs_destroyTarget (world : World S T) (target : Option Handle) :
    Books.Runs Entry.OfNews world.books (world.destroyTarget target).books := by
  cases target with
  | none => exact .refl
  | some handle => exact runs_destroy world handle

theorem runs_execute (world : World S T) (effect : Spec.Effect) (target : Option Handle) :
    Books.Runs Entry.OfRules world.books (world.execute effect target).books := by
  cases effect with
  | updateScore points =>
    exact (runs_addPoints world points).trans
      ((runs_destroyTarget _ target).mono Entry.ofRules_of_news)
  | gameOver => exact runs_endGame world
  | destroy => exact (runs_destroyTarget world target).mono Entry.ofRules_of_news
  | updateText id text =>
    simp only [execute]
    split
    · rename_i shown changed
      have told : Books.Runs Entry.OfNews shown.books
          (shown.emit (.textUpdated id text) none).books :=
        runs_emit shown none fun _ => Signal.noConfusion
      exact .trans (.of_eq (books_setText changed)) (told.mono Entry.ofRules_of_news)
    · exact .refl

omit [Scalar S] in
theorem books_warn (world : World S T) (site : RuleSite) :
    (world.warn site).books = world.books := by
  cases site <;> rfl

theorem runs_fire (world : World S T) (site : RuleSite) (target : Option Handle) :
    Books.Runs Entry.OfRules world.books (world.fire site target).books := by
  unfold fire
  split
  · exact .refl
  · split
    · exact .of_eq (books_warn world site)
    · split
      · exact runs_execute world _ target
      · exact .refl

theorem runs_dispatch (world : World S T) :
    Books.Runs Entry.OfRules world.books world.dispatch.books := by
  unfold dispatch
  split
  · exact .refl
  · rename_i contacts _
    refine runs_foldl { world with contacts := some [] } fun later contact _ => ?_
    unfold dispatchOne
    split
    · exact runs_fire later _ _
    · exact .refl

/-! ### Movement and contacts -/

theorem books_integrate [Scalar T] [Rounding T S] (world : World S T) :
    world.integrate.books = world.books := by
  unfold integrate
  split
  · split <;> rfl
  · rfl

theorem books_detect (world : World S T) : world.detect.books = world.books := by
  unfold detect
  split
  · split <;> rfl
  · rfl

/-! ### Copies and shots -/

theorem runs_shootOne (world : World S T) (shot : Shot S) :
    Books.Runs Entry.OfShots world.books (world.shootOne shot).books := by
  simp only [shootOne]
  split
  · exact .refl
  · rename_i template _
    let counted := world.withRegistry fun registry => registry.countShot shot.ownerId
    have missed : counted.books = world.books.enter (.miss shot.ownerId) := rfl
    have numbered : Books.Runs Entry.OfShots world.books counted.books := by
      rw [missed]
      exact Books.Runs.refl.enter trivial trivial
    split
    · rename_i handle made created
      have shot : Books.Runs Entry.OfShots world.books
          (world.books.enter (.shot handle shot.ownerId template)) :=
        Books.Runs.refl.enter trivial trivial
      have told := (runs_create created).trans (runs_adopt made handle projectileGroup)
      exact shot.trans (told.mono Entry.ofShots_of_news)
    · rename_i made created
      exact numbered.trans (.of_eq (books_createGroup created))
    · exact numbered.trans ((runs_report _ _).mono Entry.ofShots_of_news)

theorem runs_fireShots (world : World S T) :
    Books.Runs Entry.OfShots world.books world.fireShots.books := by
  unfold fireShots
  split
  · exact .refl
  · rename_i shots _
    exact runs_foldl { world with shots := some [] } fun later shot _ =>
      runs_shootOne later shot

/-- A copy is numbered as it is made. -/
theorem runs_copy {spawner : Spec.Spawner S}
    (made : world.create spawner.template
      (copyId spawner.id (world.books.copyCount spawner.id)) position = .ok (.actor handle, after)) :
    Books.Runs Entry.OfNews (world.books.enter (.copy handle spawner))
      ((after.adopt handle spawner.template.id).withRegistry
        fun registry => registry.countCopy spawner.id).books := by
  have told := (runs_create made).trans (runs_adopt after handle spawner.template.id)
  generalize after.adopt handle spawner.template.id = adopted at told ⊢
  have counted : (adopted.withRegistry fun registry => registry.countCopy spawner.id).books =
      { adopted.books with
        copies := adopted.books.copies.insert spawner.id
          (adopted.books.copyCount spawner.id + 1) } := rfl
  refine (told.elsewhere (world.books.enter (.copy handle spawner)) rfl).trans (.of_eq ?_)
  rw [counted, told.told]
  simp only [Books.enter, Books.copyCount]
  rfl

/-! ### Controls and timers -/

theorem books_driveControls [Scalar T] (world : World S T) (keyboard : Option (List Key)) :
    (world.driveControls keyboard).books = world.books := by
  unfold driveControls
  split <;> rfl

theorem runs_tickTimers [Scalar T] (world : World S T) :
    Books.Runs Entry.OfRules world.books world.tickTimers.books := by
  unfold tickTimers
  split
  · rename_i clock alarms _ _
    exact runs_foldl { world with alarms := some ((pollAlarms clock.now alarms).map (·.1)) }
      fun later index _ => runs_fire later (.timer index) none
  · exact .refl

/-! ### Spawners -/

variable [Sampling S]

/-- What a firing of a spawner comes to: nothing, as all copies are made; a copy; or only what is told
of a template that makes no actor. -/
theorem spawnOne_cases {spawner : Spec.Spawner S} {more : Bool}
    (done : world.spawnOne spawner = .ok (after, more)) :
    (exhausted spawner (world.books.copyCount spawner.id) = true ∧ after = world ∧ more = false) ∨
    (exhausted spawner (world.books.copyCount spawner.id) = false ∧
      ((∃ handle, more = true ∧
          Books.Runs Entry.OfNews (world.books.enter (.copy handle spawner)) after.books) ∨
        (more = false ∧ (∀ look, spawner.template.appearance? ≠ .ok (some look)) ∧
          Books.Runs Entry.OfNews world.books after.books))) := by
  -- which random numbers come next is not entered
  have same (random : Random) : World.books { world with random := some random } = world.books := rfl
  cases spawned_of_spawnOne done with
  | spent all => exact .inl ⟨all, rfl, rfl⟩
  | @copy random _ handle _ left created =>
    refine .inr ⟨left, .inl ⟨handle, rfl, ?_⟩⟩
    rw [← same random]
    exact runs_copy created
  | @group _ _ _ made left created =>
    have told := runs_report made (.templateNotSpawnable spawner.id "group templates have no entity")
    rw [books_createGroup created, same] at told
    exact .inr ⟨left, .inr ⟨rfl, unable_of_create created (by simp), told⟩⟩
  | @fault random _ error left created =>
    have told := runs_report { world with random := some random }
      (.templateNotSpawnable spawner.id error.message)
    rw [same] at told
    exact .inr ⟨left, .inr ⟨rfl, unable_of_create created (by simp), told⟩⟩

theorem runs_spawnOne {spawner : Spec.Spawner S} {more : Bool}
    (done : world.spawnOne spawner = .ok (after, more)) :
    Books.Runs Entry.OfCopies world.books after.books := by
  rcases spawnOne_cases done with ⟨-, rfl, -⟩ | ⟨-, ⟨handle, -, told⟩ | ⟨-, -, told⟩⟩
  · exact .refl
  · have copied : Books.Runs Entry.OfCopies world.books
        (world.books.enter (.copy handle spawner)) := Books.Runs.refl.enter trivial trivial
    exact copied.trans (told.mono Entry.ofCopies_of_news)
  · exact told.mono Entry.ofCopies_of_news

theorem runs_spawnMany {spawner : Spec.Spawner S} {number : Nat} {more : Bool}
    (done : spawnMany spawner number world = .ok (after, more)) :
    Books.Runs Entry.OfCopies world.books after.books := by
  induction number generalizing world with
  | zero =>
    cases done
    exact .refl
  | succ rest ih =>
    obtain ⟨⟨next, again⟩, first, done⟩ := bind_eq_ok done
    have runs := runs_spawnOne first
    cases again with
    | true => exact runs.trans (ih done)
    | false =>
      cases done
      exact runs

variable [Scalar T]

theorem runs_tickNest {nest later : Nest S T} {now : T}
    (done : world.tickNest nest now = .ok (after, later)) :
    Books.Runs Entry.OfCopies world.books after.books := by
  obtain ⟨⟨next, more⟩, spawned, done⟩ := bind_eq_ok done
  cases done
  exact runs_spawnMany spawned

theorem runs_tickNests {now : T} {nests later : List (Nest S T)}
    (done : tickNests now nests world = .ok (after, later)) :
    Books.Runs Entry.OfCopies world.books after.books := by
  induction nests generalizing world later with
  | nil =>
    cases done
    exact .refl
  | cons nest rest ih =>
    obtain ⟨⟨next, ticked⟩, first, done⟩ := bind_eq_ok done
    obtain ⟨⟨last, others⟩, second, done⟩ := bind_eq_ok done
    cases done
    exact (runs_tickNest first).trans (ih second)

/-! ### The parts of a frame -/

theorem runs_tickSpawners (done : world.tickSpawners = .ok after) :
    Books.Runs Phase.spawners.enters world.books after.books := by
  unfold tickSpawners at done
  split at done
  · rename_i nests clock _ _
    obtain ⟨⟨last, ticked⟩, made, done⟩ := bind_eq_ok done
    cases done
    have wound : World.books { last with nests := some ticked } =
        last.books.enter (.nests ticked) := rfl
    rw [wound]
    exact ((runs_tickNests made).mono .inl).enter (.inr ⟨ticked, rfl⟩) trivial
  · cases done
    exact .refl

variable [Circular S] [Rounding T S]

theorem books_steer (world : World S T) (entry : String × Assignment) :
    (world.steer entry).books = world.books := by
  simp only [steer]
  split
  · rfl
  · split
    · exact books_withRegistry (fun _ => rfl) fun _ => rfl
    · rfl

/-- What is entered in the books in a part of a frame. -/
theorem runs_runPhase {keyboard : Option (List Key)} {delta : T} {phase : Phase}
    (done : world.runPhase keyboard delta phase = .ok after) :
    Books.Runs phase.enters world.books after.books := by
  cases phase with
  | clock =>
    cases done
    have allowed : Phase.clock.enters (.frame : Entry S T) := rfl
    exact Books.Runs.refl.enter allowed trivial
  | controls =>
    cases done
    exact .of_eq (books_driveControls world keyboard)
  | shots =>
    cases done
    exact runs_fireShots world
  | behaviors =>
    cases done
    unfold runBehaviors
    split
    · exact runs_foldl _ fun later entry _ => .of_eq (books_steer later entry)
    · exact .refl
  | spawners => exact runs_tickSpawners done
  | timers =>
    cases done
    exact runs_tickTimers world
  | movement =>
    cases done
    exact .of_eq (books_integrate world)
  | contacts =>
    cases done
    exact .of_eq (books_detect world)
  | dispatch =>
    cases done
    exact runs_dispatch world
  | cleanUp =>
    cases done
    unfold cleanUp
    split
    · exact .refl
    · exact runs_foldl _ fun later handle _ => runs_destroy later handle

end World

namespace World

variable {before after world : World S T} {others : List Handle} [Scalar S]

/-! ### Showing and building a scene -/

theorem books_draw {pictures : Bool} (done : world.draw pictures = .ok after) :
    after.books = world.books := by
  have attached (handles : List Handle) (world : World S T) :
      (handles.foldl (attachDrawing pictures) world).books = world.books := by
    induction handles generalizing world with
    | nil => rfl
    | cons handle rest ih => exact ih (world.attachDrawing pictures handle)
  unfold draw at done
  split at done
  · cases done
  · cases done
    exact attached _ world

theorem runs_placeObject (world : World S T) (object : Spec.Blueprint S) :
    Books.Runs Entry.OfBuilding world.books (world.placeObject object).books := by
  unfold placeObject
  split
  · rename_i created made placed
    cases created with
    | actor handle =>
      have entered : Books.Runs Entry.OfBuilding world.books
          (world.books.enter (.object handle object)) := Books.Runs.refl.enter trivial trivial
      exact entered.trans ((runs_create placed).mono Entry.ofBuilding_of_news)
    | group name => exact .of_eq (books_createGroup placed)
  · exact (runs_report _ _).mono Entry.ofBuilding_of_news

omit [Scalar S] in
theorem runs_placeInteraction (kind : Contact.Kind) (world : World S T) (line : String) :
    Books.Runs Entry.OfNews world.books (world.placeInteraction kind line).books := by
  unfold placeInteraction
  split
  · exact .refl
  · exact runs_report _ _

omit [Scalar S] in
theorem books_groupShots (world : World S T) (scene : Spec.Scene S) :
    World.books (if scene.objects.any shoots then
      world.withRegistry fun registry => registry.ensureGroup projectileGroup else world) =
      world.books := by
  split
  · exact books_withRegistry (fun _ => rfl) fun _ => rfl
  · rfl

variable [Scalar T]

omit [Scalar S] in
theorem books_placeSpawner (world : World S T) (spawner : Spec.Spawner S) :
    (world.placeSpawner spawner).books =
      { world.books with nests := world.nests.map (· ++ [.start spawner 0]) } := by
  have grouped : (world.withRegistry fun registry =>
      registry.ensureGroup spawner.template.id).books = world.books :=
    books_withRegistry (fun _ => rfl) fun _ => rfl
  rw [← grouped]
  rfl

omit [Scalar S] in
/-- Spawners are set to work in their order. -/
theorem books_placeSpawners (spawners : List (Spec.Spawner S)) {nests : List (Nest S T)}
    (working : world.nests = some nests) :
    (spawners.foldl placeSpawner world).books =
      { world.books with nests := some (nests ++ spawners.map fun spawner => .start spawner 0) } := by
  induction spawners generalizing world nests with
  | nil =>
    rw [List.map_nil, List.append_nil, ← working]
    rfl
  | cons spawner rest ih =>
    have placed := books_placeSpawner world spawner
    rw [working, Option.map_some] at placed
    have next : (world.placeSpawner spawner).nests = some (nests ++ [.start spawner 0]) :=
      congrArg Books.nests placed
    rw [List.foldl_cons, ih next, placed, List.append_assoc]
    rfl

omit [Scalar S] in
theorem runs_placeTimer (world : World S T) (line : String) :
    Books.Runs Entry.OfNews world.books (world.placeTimer line).books := by
  unfold placeTimer
  split
  · exact .refl
  · exact runs_report _ _

/-- Building a scene makes its objects and sets its spawners to work. -/
theorem runs_build (world : World S T) (scene : Spec.Scene S) (idle : world.nests = some []) :
    ∃ books, Books.Runs Entry.OfBuilding world.books books ∧ (world.build scene).books =
      { books with nests := some (scene.spawners.map fun spawner => .start spawner 0) } := by
  let logic := scene.logic.getD .empty
  let objects := scene.objects.foldl placeObject { world with library := some (actionsOf scene) }
  let spawners := scene.spawners.foldl placeSpawner objects
  let shots := if scene.objects.any shoots then
    spawners.withRegistry fun registry => registry.ensureGroup projectileGroup else spawners
  let collisions := (logic.onCollision.getD []).foldl (placeInteraction .collision) shots
  let overlaps := (logic.onOverlap.getD []).foldl (placeInteraction .overlap) collisions
  have made : Books.Runs Entry.OfBuilding world.books objects.books :=
    runs_foldl { world with library := some (actionsOf scene) }
      fun later object _ => runs_placeObject later object
  have still : objects.nests = some [] := (congrArg Books.nests made.built).trans idle
  have working : spawners.books = { objects.books with
      nests := some (scene.spawners.map fun spawner => .start spawner 0) } :=
    books_placeSpawners scene.spawners still
  have told : Books.Runs Entry.OfNews spawners.books (world.build scene).books := by
    have grouped : Books.Runs Entry.OfNews spawners.books shots.books :=
      .of_eq (books_groupShots spawners scene)
    have collided : Books.Runs Entry.OfNews shots.books collisions.books :=
      runs_foldl _ fun later line _ => runs_placeInteraction .collision later line
    have overlapped : Books.Runs Entry.OfNews collisions.books overlaps.books :=
      runs_foldl _ fun later line _ => runs_placeInteraction .overlap later line
    exact ((grouped.trans collided).trans overlapped).trans
      (runs_foldl _ fun later line _ => runs_placeTimer later line)
  refine ⟨{ objects.books with log := (world.build scene).books.log }, ?_, ?_⟩
  · have same : objects.books.log = spawners.books.log := by rw [working]
    exact made.trans ((told.elsewhere objects.books same).mono Entry.ofBuilding_of_news)
  · conv_lhs => rw [told.told, working]

/-- A game starts when its scene is built. -/
theorem runs_playScene (world : World S T) (spec : Spec S) (scene : Spec.Scene S)
    (seed : Option Nat) :
    ∃ books, Books.Runs Entry.OfBuilding (world.tearDown.setUp spec seed).books books ∧
      (world.playScene spec scene seed).2.books =
        { books with nests := some (scene.spawners.map fun spawner => .start spawner 0) } := by
  obtain ⟨books, runs, built⟩ :=
    runs_build (world.tearDown.setUp spec seed) scene rfl
  have begun : Books.Runs Entry.OfNews ((world.tearDown.setUp spec seed).build scene).books
      (world.playScene spec scene seed).2.books :=
    runs_emit { (world.tearDown.setUp spec seed).build scene with
      playing := some (world.playScene spec scene seed).1 } none fun _ => Signal.noConfusion
  have same : books.log = ((world.tearDown.setUp spec seed).build scene).books.log := by rw [built]
  refine ⟨_, runs.trans ((begun.elsewhere books same).mono Entry.ofBuilding_of_news), ?_⟩
  conv_lhs => rw [begun.told, built]

/-- A game that was started is played. -/
theorem active_of_tryStart (good : world.Sound others) {spec : Spec S} {options : StartOptions}
    {session : Session} (start : world.tryStart spec options = (after, .ok session)) :
    after.playing = some session := by
  unfold tryStart at start
  split at start
  · cases start
  · split at start
    · cases start
    · cases start
      exact (session_playScene good spec _ options.seed).1

theorem opened_playScene (world : World S T) (spec : Spec S) (scene : Spec.Scene S)
    (seed : Option Nat) :
    (world.playScene spec scene seed).2.books.Opened spec.settings scene.spawners := by
  obtain ⟨books, runs, played⟩ := runs_playScene world spec scene seed
  rw [played, runs.built]
  exact ⟨rfl, rfl, rfl, rfl, rfl⟩

/-! ### Laws -/

variable [Circular S] [Sampling S] [Rounding T S]

/-- What every entry keeps that a frame may make is a law of a game. -/
theorem law_books {holds : Books S T → Prop}
    (each : ∀ (books : Books S T) (entry : Entry S T), entry.OfFrame → books.Admits entry →
      holds books → holds (books.enter entry)) :
    Law fun (_ : List Handle) (world : World S T) => holds world.books where
  camera _ still := still
  phase {_ _ _ _ _ _ phase} _ _ still done :=
    (runs_runPhase done).keeps holds (fun books entry allowed => each books entry ⟨phase, allowed⟩) still
  draw _ _ still done := (books_draw done).symm ▸ still

/-- Numbers only rise as long as a game is played. -/
theorem Later.grown {others₀ : List Handle} {world₀ : World S T}
    (later : Later others₀ world₀ others world) (lived : world₀.Lived others₀)
    (begun : world₀.playing = some session) (playing : world.playing = some session) :
    Books.Grown world₀.books world.books := by
  have law : Law fun (_ : List Handle) (world : World S T) =>
      Books.Grown world₀.books world.books :=
    law_books fun books entry _ _ grown => grown.trans (Books.grown_enter books entry)
  exact law.later lived begun (.refl world₀.books) later playing

omit [Scalar S] [Scalar T] [Circular S] [Sampling S] [Rounding T S] in
/-- A law of logs holds whatever is entered. -/
theorem log_of_runs {holds : Log Signal → Prop} (law : Log.Law holds) {may : Entry S T → Prop}
    {before after : Books S T} (runs : Books.Runs may before after) (start : holds before.log) :
    holds after.log := by
  refine runs.keeps (fun books => holds books.log) ?_ start
  intro books entry _ _ still
  cases entry with
  | frame => exact law.tick still
  | news signal source => exact law.emit signal source still
  | ending handle center => exact law.emit _ none still
  | _ => exact still

omit [Scalar S] [Scalar T] [Circular S] [Sampling S] [Rounding T S] in
theorem log_of_tearDown {holds : Log Signal → Prop} (law : Log.Law holds) {world : World S T}
    (start : holds world.log) : holds world.tearDown.log := by
  unfold tearDown
  split
  · exact start
  · have left : Books.Runs Entry.OfNews
        (World.books { world with playing := none, registry := none }) world.vacate.books :=
      runs_foldl _ fun later handle _ => runs_destroy later handle
    exact law.emit _ none (log_of_runs law left start)

/-- A law of logs holds of the log of every world of a game. -/
theorem Lived.log {holds : Log Signal → Prop} (law : Log.Law holds) {others : List Handle}
    {world : World S T} (lived : world.Lived others) : holds world.log := by
  induction lived using Lived.induction with
  | empty entropy => exact law.empty
  | camera _ still => exact still
  | @start others world _ spec options still =>
    rcases tryStart_cases world spec options with same | ⟨scene, -, -, started⟩
    · rwa [same]
    · obtain ⟨books, runs, played⟩ := runs_playScene world spec scene options.seed
      have kept : holds books.log := log_of_runs law runs (log_of_tearDown law still)
      rw [started]
      generalize (world.playScene spec scene options.seed).2 = begun at played ⊢
      have same : begun.log = books.log := congrArg Books.log played
      rwa [same]
  | @stop others world _ session still =>
    unfold stop
    split
    · split
      · exact log_of_tearDown law still
      · exact still
    · exact still
  | phase _ _ done still => exact log_of_runs law (runs_runPhase done) still
  | @draw others world after pictures _ done still =>
    have same : after.log = world.log := congrArg Books.log (books_draw done)
    rwa [same]

/-- The events that a world tells of are the latest of all that happened in it. -/
theorem Lived.faithful {others : List Handle} {world : World S T} (lived : world.Lived others) :
    world.log.Faithful :=
  lived.log Log.law_faithful

end World

end Arcade
