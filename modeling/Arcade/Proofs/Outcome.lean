import Arcade.Proofs.Firing
import Arcade.Proofs.Telling

/-! What comes of the firings of spawners. A firing leaves behind a copy that is there as a whole, or
nothing but, perhaps, a diagnostic. In a turn each firing starts from what the one before it left; and
what all of them made and told is what there is more of when the turn is over. -/

namespace Arcade

variable {S T : Type}

/-! ### What a world gains -/

/-- The world once it was told that an actor came, and before that its id was taken from somebody who is
there. -/
def World.welcome (world : World S T) (id group : String) (handle : Handle) : World S T :=
  let noted := if (world.handle? id).any world.alive then world.report (.duplicateObjectId id) else world
  noted.emit (.objectSpawned id group) (some handle)

/-- From one world to another nobody left. Those who were made came, and are noted; and what was told is
in the history. -/
structure World.Gains (before : World S T) (made : List (Birth S)) (told : List Signal)
    (after : World S T) : Prop where
  births : after.births = made.reverse ++ before.births
  new : ∀ birth ∈ made, before.alive birth.handle = false
  alive : ∀ handle, after.alive handle =
    (before.alive handle || made.any fun birth => decide (birth.handle = handle))
  told : after.log.history = told.reverse ++ before.log.history

namespace World.Gains

variable {before middle after : World S T} {first second : List (Birth S)} {early late : List Signal}

theorem refl (world : World S T) : Gains world [] [] world where
  births := rfl
  new _ never := absurd never List.not_mem_nil
  alive _ := (Bool.or_false _).symm
  told := rfl

theorem trans (earlier : Gains before first early middle) (later : Gains middle second late after) :
    Gains before (first ++ second) (early ++ late) after where
  births := by rw [later.births, earlier.births, List.reverse_append, List.append_assoc]
  new birth member := by
    rcases List.mem_append.mp member with old | new
    · exact earlier.new birth old
    · have unknown := later.new birth new
      rw [earlier.alive, Bool.or_eq_false_iff] at unknown
      exact unknown.1
  alive handle := by rw [later.alive, earlier.alive, List.any_append, Bool.or_assoc]
  told := by rw [later.told, earlier.told, List.reverse_append, List.append_assoc]

end World.Gains

/-! ### What a firing tells -/

/-- It is told that a spawner cannot make an actor of its template. -/
def Signal.Faults (spawner : String) (signal : Signal) : Prop :=
  ∃ reason, signal = .diagnostic (BuildError.templateNotSpawnable spawner reason).message

theorem BuildError.message_ne_of_duplicate (id spawner reason : String) :
    (duplicateObjectId id).message ≠ (templateNotSpawnable spawner reason).message := by
  intro same
  unfold message at same
  have letters := congrArg (fun text : String => text.toList.head?) same
  simp at letters

/-- That an actor came is no fault of a spawner. -/
theorem Signal.OfArrival.not_faults {signal : Signal} {spawner : String} (told : signal.OfArrival) :
    ¬ signal.Faults spawner := by
  intro ⟨reason, same⟩
  cases signal with
  | diagnostic message =>
    obtain ⟨id, taken⟩ := told
    exact BuildError.message_ne_of_duplicate id spawner reason
      (taken.symm.trans (Signal.diagnostic.inj same))
  | _ => cases same

/-- What a firing tells, in its order. -/
def Firing.told [Scalar S] [Sampling S] (firing : Firing S T) : List Signal :=
  match firing.world.spawnOne firing.spawner with
  | .ok (after, _) =>
    (after.log.history.take
      (after.log.history.length - firing.world.log.history.length)).reverse
  | .error _ => []

/-- What is told in a turn. -/
def Turn.told [Scalar S] [Scalar T] [Sampling S] (turn : Turn S T) : List Signal :=
  turn.firings.flatMap Firing.told

variable [Scalar S] [Sampling S]

/-- How a firing ends that goes well: with a copy; with nothing, as all copies are made; or with nothing
but the diagnostic that the template makes no actor. Only after a copy are there more firings. -/
inductive Firing.Ends (firing : Firing S T) : World S T → Bool → Prop where
  | copy {after : World S T} {handle : Handle}
    (left : World.exhausted firing.spawner (firing.world.books.copyCount firing.spawner.id) = false)
    (one : firing.made = [⟨handle, World.copyId firing.spawner.id
      (firing.world.books.copyCount firing.spawner.id), firing.spawner.template⟩])
    (arrival : ∀ signal ∈ firing.told, signal.OfArrival) : Ends firing after true
  | spent
    (all : World.exhausted firing.spawner (firing.world.books.copyCount firing.spawner.id) = true)
    (nobody : firing.made = []) (nothing : firing.told = []) : Ends firing firing.world false
  | fault {after : World S T} (reason : String)
    (unable : ∀ look, firing.spawner.template.appearance? ≠ .ok (some look))
    (nobody : firing.made = [])
    (once : firing.told =
      [.diagnostic (BuildError.templateNotSpawnable firing.spawner.id reason).message])
    (cast : firing.world.SameCast after)
    (news : after.news =
      (firing.world.report (.templateNotSpawnable firing.spawner.id reason)).news) :
    Ends firing after false

/-- Who is made by a firing is there as a whole, and is told of. -/
structure Firing.Whole (firing : Firing S T) (birth : Birth S) (after : World S T) : Prop where
  copied : firing.world.Copied birth.id firing.spawner.template.id birth.handle after
  news : after.news =
    (firing.world.welcome birth.id firing.spawner.template.id birth.handle).news

namespace World

variable {world idle after : World S T} {others : List Handle} {spawner : Spec.Spawner S} {more : Bool}

theorem told_of_history {news : List Signal} (done : world.spawnOne spawner = .ok (after, more))
    (history : after.log.history = news ++ world.log.history) :
    Firing.told ⟨world, spawner⟩ = news.reverse := by
  simp only [Firing.told, done, history, List.length_append, Nat.add_sub_cancel, List.take_left]

omit [Scalar S] [Sampling S] in
theorem history_report (world : World S T) (error : BuildError) :
    (world.report error).log.history = .diagnostic error.message :: world.log.history := by
  simp only [report, emit, Log.emit]

/-- A firing that only tells of its template ends so. -/
theorem ends_report {reason : String}
    (done : world.spawnOne spawner =
      .ok (idle.report (.templateNotSpawnable spawner.id reason), false))
    (unable : ∀ look, spawner.template.appearance? ≠ .ok (some look)) (cast : world.SameCast idle)
    (births : idle.births = world.births) (news : idle.news = world.news) :
    Firing.Ends ⟨world, spawner⟩ (idle.report (.templateNotSpawnable spawner.id reason)) false := by
  have log : idle.log = world.log := congrArg Prod.snd news
  have born : (idle.report (.templateNotSpawnable spawner.id reason)).births = world.births := by
    simp only [report, emit, births]
  have history := history_report idle (.templateNotSpawnable spawner.id reason)
  rw [log, ← List.singleton_append] at history
  exact .fault reason unable (made_of_births done born) (told_of_history done history)
    (cast.trans (sameCast_report _ _)) (news_report news _)

omit [Sampling S] in
/-- The birth of a copy is noted. -/
theorem births_copy {random : Random} {place : Vec S} {handle : Handle} {made : World S T}
    (created : create { world with random := some random } spawner.template
      (copyId spawner.id (world.books.copyCount spawner.id)) place = .ok (.actor handle, made)) :
    ((made.adopt handle spawner.template.id).withRegistry
        fun registry => registry.countCopy spawner.id).births =
      [⟨handle, copyId spawner.id (world.books.copyCount spawner.id), spawner.template⟩] ++
        world.births :=
  congrArg Books.births (runs_copy created).told

/-- Each firing that goes well ends in one of three ways. -/
theorem ends_spawnOne (done : world.spawnOne spawner = .ok (after, more)) :
    Firing.Ends ⟨world, spawner⟩ after more := by
  cases spawned_of_spawnOne done with
  | spent all =>
    exact .spent all (made_of_births done (List.nil_append _).symm)
      (told_of_history done (List.nil_append _).symm)
  | copy left created =>
    obtain ⟨news, history, arrival⟩ := tells_copy created spawner.template.id
    refine .copy left (made_of_births done (births_copy created)) fun signal member => arrival signal ?_
    rwa [told_of_history done history, List.mem_reverse] at member
  | @group random _ _ _ _ created =>
    have unable := unable_of_create created (by simp)
    have drawn : SameCast world { world with random := some random } := sameCast_of_eq rfl rfl
    rw [create_group created] at done ⊢
    exact ends_report done unable (drawn.trans (sameCast_noted (Registry.noted_ensureGroup _ _))) rfl
      rfl
  | fault _ created =>
    exact ends_report done (unable_of_create created (by simp)) (sameCast_of_eq rfl rfl) rfl rfl

theorem nobody_of_done (done : world.spawnOne spawner = .ok (after, false)) :
    Firing.made ⟨world, spawner⟩ = [] := by
  cases ends_spawnOne done with
  | spent _ nobody => exact nobody
  | fault _ _ nobody => exact nobody

omit [Scalar S] [Sampling S] in
theorem news_emit (same : after.news = idle.news) (signal : Signal) (source : Option Handle) :
    (after.emit signal source).news = (idle.emit signal source).news := by
  obtain ⟨diagnostics, log⟩ := Prod.mk.injEq .. ▸ same
  simp only [news, emit, diagnostics, log]

omit [Scalar S] [Sampling S] in
/-- Which random numbers come next is not told. -/
theorem news_welcome_random (world : World S T) (random : Option Random) (id group : String)
    (handle : Handle) :
    (welcome { world with random } id group handle).news = (world.welcome id group handle).news := by
  refine news_emit ?_ _ _
  by_cases taken : (world.handle? id).any world.alive = true
  · rw [if_pos taken]
    exact (congrArg news (if_pos taken)).trans (news_report rfl _)
  · rw [if_neg taken]
    exact (congrArg news (if_neg taken)).trans rfl

omit [Sampling S] in
theorem news_copy (good : world.Sound others) {made : World S T} {template : Spec.Blueprint S}
    {id : String} {place : Vec S} {handle : Handle}
    (created : world.create template id place = .ok (.actor handle, made)) (group : String) :
    (made.adopt handle group).news = (world.welcome id group handle).news := by
  obtain ⟨look, -, welcomes⟩ := welcomes_create good created
  let copy : Actor S T := template.newcomer world.keys look handle id place
  have arrived : made.roster.find? handle = some copy := by rw [welcomes handle, if_pos rfl]
  have told : made.news = _ := news_create good created
  simp only [adopt, arrived]
  refine news_emit ?_ _ _
  change made.news = _
  rw [told]
  split <;> rfl

/-- Whoever is made by a firing is there as a whole, and is told of. -/
theorem whole_spawnOne (good : world.Sound others)
    (done : world.spawnOne spawner = .ok (after, more)) :
    ∀ birth ∈ Firing.made ⟨world, spawner⟩, Firing.Whole ⟨world, spawner⟩ birth after := by
  intro birth member
  cases spawned_of_spawnOne done with
  | @copy random _ handle made left created =>
    have sound : World.Sound { world with random := some random } others := good
    rw [made_of_births done (births_copy created), List.mem_singleton] at member
    rw [member]
    have copied : Copied world _ spawner.template.id handle
        (made.adopt handle spawner.template.id) :=
      (copied_adopt sound created spawner.template.id).of_roster rfl
    refine ⟨copied.noted (·.countCopy spawner.id) (Registry.noted_countCopy _ _), ?_⟩
    exact (news_copy sound created spawner.template.id).trans (news_welcome_random _ _ _ _ _)
  | _ =>
    rw [nobody_of_done done] at member
    cases member

/-- What comes of a firing: whom it made, and what it told. -/
theorem gains_spawnOne (good : world.Sound others)
    (done : world.spawnOne spawner = .ok (after, more)) :
    world.Gains (Firing.made ⟨world, spawner⟩) (Firing.told ⟨world, spawner⟩) after := by
  have births := (made_spawnOne done).1
  have told : after.log.history =
      (Firing.told ⟨world, spawner⟩).reverse ++ world.log.history := by
    obtain ⟨news, history, -⟩ := tells_spawnOne done
    rw [told_of_history done history, List.reverse_reverse, history]
  have barren (nobody : Firing.made ⟨world, spawner⟩ = []) (same : after.roster = world.roster) :
      world.Gains (Firing.made ⟨world, spawner⟩) (Firing.told ⟨world, spawner⟩) after := by
    rw [nobody] at births ⊢
    refine ⟨births, fun _ never => absurd never List.not_mem_nil, fun handle => ?_, told⟩
    rw [alive, same, List.any_nil, Bool.or_false, alive]
  have whole := whole_spawnOne good done
  cases ends_spawnOne done with
  | @copy _ handle _ one _ =>
    rw [one] at births whole ⊢
    have copy := (whole _ (List.mem_singleton_self _)).copied
    refine ⟨births, fun birth member => ?_, fun other => ?_, told⟩
    · rw [List.mem_singleton.mp member]
      exact copy.new
    · rw [List.any_cons, List.any_nil, Bool.or_false]
      by_cases same : handle = other
      · obtain ⟨weapon, known⟩ := copy.who
        rw [← same, decide_eq_true rfl, Bool.or_true, alive_eq_isSome, known]
        rfl
      · rw [decide_eq_false same, Bool.or_false]
        exact copy.others other (Ne.symm same)
  | spent _ nobody => exact barren nobody rfl
  | fault _ _ nobody _ cast => exact barren nobody cast.roster

end World

/-! ### Firings and turns one after the other -/

/-- Each firing starts from what the one before it left. It ends as it should, and what it made is there
as a whole. -/
def Firing.Linked : World S T → List (Firing S T) → World S T → Prop
  | before, [], after => after = before
  | before, firing :: rest, after =>
    firing.world = before ∧ ∃ next more, before.spawnOne firing.spawner = .ok (next, more) ∧
      firing.Ends next more ∧ before.Gains firing.made firing.told next ∧
      (∀ birth ∈ firing.made, firing.Whole birth next) ∧
      Linked next rest after

/-- What firings made and told is what comes of them. -/
theorem Firing.Linked.gains {before after : World S T} {firings : List (Firing S T)}
    (linked : Linked before firings after) :
    before.Gains (firings.flatMap Firing.made) (firings.flatMap Firing.told) after := by
  induction firings generalizing before with
  | nil =>
    cases linked
    exact .refl _
  | cons firing rest ih =>
    obtain ⟨-, next, more, -, -, gains, -, linked⟩ := linked
    exact gains.trans (ih linked)

/-- A firing that tells that the template makes no actor tells nothing else, and makes nobody. -/
theorem Firing.told_of_faults {firing : Firing S T} {signal : Signal} {spawner : String}
    (member : signal ∈ firing.told) (faults : signal.Faults spawner) :
    firing.told = [signal] ∧ firing.made = [] := by
  cases done : firing.world.spawnOne firing.spawner with
  | error crash =>
    rw [told, done] at member
    cases member
  | ok outcome =>
    obtain ⟨after, more⟩ := outcome
    cases World.ends_spawnOne done with
    | copy _ _ arrival => exact absurd faults (arrival signal member).not_faults
    | spent _ _ nothing =>
      rw [nothing] at member
      cases member
    | fault _ _ nobody once =>
      rw [once] at member ⊢
      rw [List.mem_singleton.mp member]
      exact ⟨rfl, nobody⟩

/-- Where there are no more firings after one that makes nothing, it is told at most once that the template
makes no actor. -/
theorem Ceases.once {firings : List (Firing S T)} (ceases : Ceases firings) (spawner : String) :
    (firings.flatMap Firing.told).Pairwise fun first second =>
      ¬ (first.Faults spawner ∧ second.Faults spawner) := by
  rw [List.pairwise_flatMap]
  constructor
  · intro firing _
    by_cases any : ∃ signal ∈ firing.told, signal.Faults spawner
    · obtain ⟨signal, member, faults⟩ := any
      rw [(Firing.told_of_faults member faults).1]
      exact List.pairwise_singleton _ _
    · exact .imp_of_mem (fun member _ _ both => any ⟨_, member, both.1⟩)
        (List.pairwise_of_forall fun _ _ => trivial)
  · induction firings with
    | nil => exact .nil
    | cons firing rest ih =>
      refine .cons (fun other later first member _ _ both => ?_) (ih ceases.tail)
      rw [ceases [] firing rest rfl (Firing.told_of_faults member both.1).2] at later
      cases later

variable [Scalar T]

/-- Each turn starts from what the one before it left. What is done in it are its firings, and what is
there afterwards is what they made and told. -/
def Turn.Linked : World S T → List (Turn S T) → World S T → List (Nest S T) → Prop
  | before, [], after, nests => after = before ∧ nests = []
  | before, turn :: rest, after, nests =>
    turn.world = before ∧ ∃ next nest later, before.tickNest turn.nest turn.now = .ok (next, nest) ∧
      Firing.Linked before turn.firings next ∧ before.Gains turn.made turn.told next ∧
      Linked next rest after later ∧ nests = nest :: later

namespace World

variable {world after : World S T} {others : List Handle} {nests ticked : List (Nest S T)} {now : T}

omit [Scalar T] in
theorem linked_firings {spawner : Spec.Spawner S} {number : Nat} {more : Bool}
    (good : world.Sound others) (working : spawner ∈ world.scenery.spawners)
    (done : spawnMany spawner number world = .ok (after, more)) :
    Firing.Linked world (firings spawner number world) after := by
  induction number generalizing world with
  | zero =>
    cases done
    rfl
  | succ rest ih =>
    obtain ⟨⟨next, again⟩, first, done⟩ := bind_eq_ok done
    rw [firings, first]
    refine ⟨rfl, next, again, first, ends_spawnOne first, gains_spawnOne good first,
      whole_spawnOne good first, ?_⟩
    cases again with
    | true =>
      have course := course_spawnOne good working first
      rw [← scenery_ofSpawners course] at working
      exact ih (course.sound good) working done
    | false =>
      cases done
      rfl

theorem linked_turnsOf (good : world.Sound others)
    (working : ∀ nest ∈ nests, nest.spawner ∈ world.scenery.spawners)
    (done : tickNests now nests world = .ok (after, ticked)) :
    Turn.Linked world (turnsOf now nests world) after ticked := by
  induction nests generalizing world ticked with
  | nil =>
    cases done
    exact ⟨rfl, rfl⟩
  | cons nest rest ih =>
    obtain ⟨⟨next, later⟩, here, done⟩ := bind_eq_ok done
    obtain ⟨⟨last, others⟩, there, done⟩ := bind_eq_ok done
    cases done
    have own := working nest List.mem_cons_self
    have fired : Firing.Linked world (Turn.firings ⟨world, nest, now⟩) next := by
      obtain ⟨⟨made, more⟩, spawned, ended⟩ := bind_eq_ok here
      cases ended
      exact linked_firings good own spawned
    obtain ⟨course, -⟩ := course_tickNest good own here
    rw [turnsOf, here]
    refine ⟨rfl, next, later, others, here, fired, fired.gains, ih (course.sound good) ?_ there, rfl⟩
    intro other member
    rw [scenery_ofSpawners course]
    exact working other (List.mem_cons_of_mem _ member)

/-- The spawners at work take their turns, and then their clocks are set. -/
theorem linked_turns {clock : Clock T} (good : world.Sound others) (working : world.nests = some nests)
    (running : world.clock = some clock) (done : world.tickSpawners = .ok after) :
    ∃ last ticked, Turn.Linked world world.turns last ticked ∧
      after = { last with nests := some ticked } := by
  unfold turns
  unfold tickSpawners at done
  rw [working, running] at done ⊢
  obtain ⟨⟨last, ticked⟩, made, done⟩ := bind_eq_ok done
  cases done
  refine ⟨last, ticked, linked_turnsOf good (fun nest member => ?_) made, rfl⟩
  rw [scenery, working]
  exact List.mem_map_of_mem member

end World

end Arcade
