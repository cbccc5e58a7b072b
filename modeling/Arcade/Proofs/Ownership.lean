import Arcade.Proofs.Naming

/-! Whose behavior an id has. Behaviors and what they remember are kept by id, while actors come and
go under it. An actor that declares a behavior has exactly that one, and all that is remembered
under its id was remembered since the id means it. An actor that declares none finds the id as it
was: after an actor that is gone, without a behavior; in place of one that is still there, with the
behavior that was declared last. -/

namespace Arcade

variable {S T : Type}

/-- The behavior that a blueprint declares. -/
def Spec.Blueprint.assignment? (blueprint : Spec.Blueprint S) : Option Assignment :=
  blueprint.behavior.map fun kind => ⟨kind, blueprint.parameters.getD .null⟩

/-- The actor that came last under an id. -/
def latest? (births : List (Birth S)) (id : String) : Option (Birth S) :=
  births.find? fun birth => birth.id = id

/-- The behavior that was declared last under an id. -/
def declared? (births : List (Birth S)) (id : String) : Option Assignment :=
  births.findSome? fun birth => if birth.id = id then birth.blueprint.assignment? else none

section

variable (birth : Birth S) (births : List (Birth S)) {id : String}

theorem latest?_cons_self : latest? (birth :: births) birth.id = some birth := by
  simp [latest?]

theorem latest?_cons_of_ne (different : birth.id ≠ id) :
    latest? (birth :: births) id = latest? births id := by
  simp [latest?, different]

theorem declared?_cons_self :
    declared? (birth :: births) birth.id =
      birth.blueprint.assignment?.or (declared? births birth.id) := by
  simp only [declared?, List.findSome?_cons, ↓reduceIte]
  cases birth.blueprint.assignment? <;> rfl

theorem declared?_cons_of_ne (different : birth.id ≠ id) :
    declared? (birth :: births) id = declared? births id := by
  simp [declared?, different]

end

/-- What was declared last under an id was declared by an actor that came under it. -/
theorem exists_of_declared? {births : List (Birth S)} {id : String} {assignment : Assignment}
    (declared : declared? births id = some assignment) :
    ∃ birth ∈ births, birth.id = id ∧ birth.blueprint.assignment? = some assignment := by
  obtain ⟨birth, member, found⟩ := List.exists_of_findSome?_eq_some declared
  split at found
  · rename_i same
    exact ⟨birth, member, same, found⟩
  · cases found

/-- An actor that declares a behavior and came last under an id declared it last. -/
theorem declared?_of_latest? {births : List (Birth S)} {id : String} {birth : Birth S}
    (latest : latest? births id = some birth) {assignment : Assignment}
    (declares : birth.blueprint.assignment? = some assignment) :
    declared? births id = some assignment := by
  induction births with
  | nil => cases latest
  | cons first rest ih =>
    by_cases same : first.id = id
    · subst same
      rw [latest?_cons_self] at latest
      cases latest
      rw [declared?_cons_self, declares, Option.some_or]
    · rw [latest?_cons_of_ne _ _ same] at latest
      rw [declared?_cons_of_ne _ _ same]
      exact ih latest

namespace Registry

variable {registry after : Registry S T}

/-- A new actor has the behavior that it declares; if it declares none, its id keeps what it had. -/
theorem behaviors_joined (registry : Registry S T) (blueprint : Spec.Blueprint S) (id : String)
    (group : Option String) (handle : Handle) (other : String) :
    (registry.joined blueprint id group handle).behaviors.get? other =
      if id = other then blueprint.assignment?.or (registry.behaviors.get? other)
      else registry.behaviors.get? other := by
  have entered : (registry.entered blueprint id handle).behaviors.get? other =
      if id = other then blueprint.assignment?.or (registry.behaviors.get? other)
      else registry.behaviors.get? other := by
    unfold entered Spec.Blueprint.assignment?
    cases blueprint.behavior with
    | none => exact (ite_self _).symm
    | some kind => exact Index.get?_insert _ _ _ _
  cases group with
  | none => exact entered
  | some name => exact entered

/-- A new actor that declares a behavior remembers nothing. -/
theorem memories_joined (registry : Registry S T) (blueprint : Spec.Blueprint S) (id : String)
    (group : Option String) (handle : Handle) (other : String) :
    (registry.joined blueprint id group handle).memories.get? other =
      if id = other ∧ blueprint.assignment?.isSome = true then none
      else registry.memories.get? other := by
  have entered : (registry.entered blueprint id handle).memories.get? other =
      if id = other ∧ blueprint.assignment?.isSome = true then none
      else registry.memories.get? other := by
    unfold entered Spec.Blueprint.assignment?
    cases blueprint.behavior with
    | none => simp [register]
    | some kind => simp [register, assign, Index.get?_erase]
  cases group with
  | none => exact entered
  | some name => exact entered

theorem behaviors_forget (registry : Registry S T) (id other : String) (handle : Handle)
    (group : Option String) :
    (registry.forget id handle group).behaviors.get? other =
      if id = other ∧ registry.handle? id = some handle then none
      else registry.behaviors.get? other := by
  by_cases owner : registry.handle? id = some handle
  · simp [forget, owner, Index.get?_erase]
  · simp [forget, owner]

theorem memories_forget (registry : Registry S T) (id other : String) (handle : Handle)
    (group : Option String) :
    (registry.forget id handle group).memories.get? other =
      if id = other ∧ registry.handle? id = some handle then none
      else registry.memories.get? other := by
  by_cases owner : registry.handle? id = some handle
  · simp [forget, owner, Index.get?_erase]
  · simp [forget, owner]

end Registry

/-! ### What happens to what is said of ids -/

namespace World

variable {may : World S T → Deed S → Prop} {world before after origin : World S T}
  {others : List Handle} {id : String} {handle : Handle}

/-- What the behaviors of ids remember. -/
def memories (world : World S T) : Index (Memory S T) := (world.registry.getD .empty).memories

theorem handle?_eq (world : World S T) (id : String) :
    world.handle? id = (world.registry.getD .empty).handle? id := by
  unfold handle?
  cases world.registry <;> rfl

/-- Ids mean the same actors, and these behave in the same way. -/
structure SameOwners (before after : World S T) : Prop where
  births : after.births = before.births
  meant : after.handle? = before.handle?
  behaviors : after.behaviors = before.behaviors

/-- The same is said of every id. -/
structure SameIds (before after : World S T) : Prop extends SameOwners before after where
  memories : after.memories = before.memories

theorem SameOwners.trans {middle : World S T} (first : SameOwners before middle)
    (second : SameOwners middle after) : SameOwners before after :=
  ⟨second.births.trans first.births, second.meant.trans first.meant,
    second.behaviors.trans first.behaviors⟩

theorem SameNames.ids (same : SameNames before after) : SameIds before after where
  births := same.births
  meant := by
    funext id
    rw [handle?, same.registry]
    rfl
  behaviors := by rw [World.behaviors, same.registry, World.behaviors]
  memories := by rw [World.memories, same.registry, World.memories]

theorem sameIds_noted {registry : Registry S T}
    (noted : Registry.Noted (world.registry.getD .empty) registry) :
    SameIds world { world with registry := some registry } where
  births := rfl
  meant := by
    funext id
    rw [handle?_eq world, Registry.handle?, ← noted.objects]
    rfl
  behaviors := noted.behaviors
  memories := noted.memories

theorem sameOwners_remember (world : World S T) (id : String) (memory : Memory S T) :
    SameOwners world (world.withRegistry fun registry => registry.remember id memory) where
  births := rfl
  meant := by
    funext other
    exact (handle?_eq world other).symm
  behaviors := rfl

/-- What is said of ids after a new actor came under one of them. -/
structure CameUnder (before : World S T) (birth : Birth S) (after : World S T) : Prop where
  births : after.births = birth :: before.births
  meant : ∀ other, after.handle? other =
    if birth.id = other then some birth.handle else before.handle? other
  behaviors : ∀ other, after.behaviors.get? other =
    if birth.id = other then birth.blueprint.assignment?.or (before.behaviors.get? other)
    else before.behaviors.get? other
  memories : ∀ other, after.memories.get? other =
    if birth.id = other ∧ birth.blueprint.assignment?.isSome = true then none
    else before.memories.get? other

theorem Made.cameUnder {blueprint : Spec.Blueprint S} {identity : Identity S}
    {group : Option String}
    (made : Made before blueprint identity handle
      (some ((before.registry.getD .empty).joined blueprint identity.id group handle)) after) :
    CameUnder before ⟨handle, identity.id, blueprint⟩ after where
  births := made.births
  meant other := by
    rw [handle?_eq, handle?_eq, made.registry]
    exact Registry.handle?_joined _ _ _ _ _ _
  behaviors other := by
    rw [World.behaviors, made.registry]
    exact Registry.behaviors_joined _ _ _ _ _ _
  memories other := by
    rw [World.memories, made.registry]
    exact Registry.memories_joined _ _ _ _ _ _

/-- What is said of ids after an actor is gone: nothing of its own id, if that still meant it. -/
structure LeftFrom (before : World S T) (id : String) (handle : Handle) (after : World S T) :
    Prop where
  births : after.births = before.births
  meant : ∀ other, after.handle? other =
    if id = other ∧ before.handle? id = some handle then none else before.handle? other
  behaviors : ∀ other, after.behaviors.get? other =
    if id = other ∧ before.handle? id = some handle then none else before.behaviors.get? other
  memories : ∀ other, after.memories.get? other =
    if id = other ∧ before.handle? id = some handle then none else before.memories.get? other

theorem Removed.leftFrom {identity : Identity S}
    (removed : Removed before handle identity after) :
    LeftFrom before identity.id handle after := by
  have left := removed.registry
  cases names : before.registry with
  | none =>
    rw [names, Option.map_none] at left
    refine ⟨removed.births, ?_, ?_, ?_⟩ <;> intro other
    · simp [handle?, left, names]
    · simp [World.behaviors, handle?, left, names]
    · simp [World.memories, handle?, left, names]
  | some registry =>
    rw [names, Option.map_some] at left
    refine ⟨removed.births, ?_, ?_, ?_⟩ <;> intro other
    · rw [handle?, handle?, handle?, left, names]
      exact Registry.handle?_forget _ _ _ _ _
    · rw [World.behaviors, World.behaviors, handle?, left, names]
      exact Registry.behaviors_forget _ _ _ _ _
    · rw [World.memories, World.memories, handle?, left, names]
      exact Registry.memories_forget _ _ _ _ _

/-- What a course does to what is said of ids is what its elementary changes do. -/
theorem Course.ids (course : Course may before after) (holds : World S T → Prop)
    (start : holds before)
    (same : ∀ {before after : World S T}, SameIds before after → holds before → holds after)
    (birth : ∀ {before after : World S T} {birth : Birth S} {group : Option String},
      may before (.birth birth.blueprint birth.id group) → CameUnder before birth after →
      holds before → holds after)
    (death : ∀ {before after : World S T} {id : String} {handle : Handle},
      may before (.death handle) → LeftFrom before id handle after → holds before → holds after)
    (record : ∀ {before after : World S T} {id : String},
      may before (.record id) → SameOwners before after → holds before → holds after) :
    holds after := by
  induction course with
  | quiet quiet => exact same quiet.names.ids start
  | birth allowed made => exact birth allowed made.cameUnder start
  | death allowed removed => exact death allowed removed.leftFrom start
  | note _ noted => exact same (sameIds_noted noted) start
  | record allowed _ memory => exact record allowed (sameOwners_remember _ _ memory) start
  | arrange _ arranged => exact same arranged.names.ids start
  | trans first second firstKeeps secondKeeps => exact secondKeeps (firstKeeps start)

/-! ### Behaviors -/

/-- An id has the behavior that was declared last under it; or it has none, and means nobody or an
actor that declared none. -/
def Tended (world : World S T) : Prop :=
  ∀ id, world.behaviors.get? id = declared? world.births id ∨
    world.behaviors.get? id = none ∧ (world.handle? id = none ∨
      ∀ birth, latest? world.births id = some birth → birth.blueprint.assignment? = none)

theorem Tended.same (tended : before.Tended) (same : SameOwners before after) : after.Tended := by
  intro id
  rw [same.births, same.meant, same.behaviors]
  exact tended id

theorem Tended.birth {birth : Birth S} (tended : before.Tended)
    (came : CameUnder before birth after) : after.Tended := by
  intro id
  rw [came.births, came.behaviors, came.meant]
  by_cases own : birth.id = id
  · subst own
    rw [if_pos rfl, declared?_cons_self, latest?_cons_self]
    cases declares : birth.blueprint.assignment? with
    | some assignment => exact .inl rfl
    | none =>
      rw [Option.none_or, Option.none_or]
      rcases tended birth.id with last | ⟨nothing, -⟩
      · exact .inl last
      · refine .inr ⟨nothing, .inr ?_⟩
        rintro _ ⟨⟩
        exact declares
  · rw [if_neg own, if_neg own, declared?_cons_of_ne _ _ own, latest?_cons_of_ne _ _ own]
    exact tended id

theorem Tended.death (tended : before.Tended) (left : LeftFrom before id handle after) :
    after.Tended := by
  intro other
  rw [left.births, left.behaviors, left.meant]
  split
  · exact .inr ⟨rfl, .inl rfl⟩
  · exact tended other

theorem Tended.course (tended : before.Tended) (course : Course may before after) :
    after.Tended :=
  course.ids Tended tended (fun same tended => tended.same same.toSameOwners)
    (fun _ came tended => tended.birth came) (fun _ left tended => tended.death left)
    (fun _ same tended => tended.same same)

/-! ### Memories -/

/-- The actor that came last under an id declares a behavior. -/
def Declares (world : World S T) (id : String) : Prop :=
  ∃ birth, latest? world.births id = some birth ∧ birth.blueprint.assignment?.isSome = true

/-- Since an earlier time each id means the same actor, or it means a new one that remembers nothing
if it declares a behavior. -/
def Fresh (origin world : World S T) : Prop :=
  ∀ id handle, world.handle? id = some handle →
    (origin.handle? id = some handle ∧ latest? world.births id = latest? origin.births id) ∨
      (world.Declares id → world.memories.get? id = none)

theorem Fresh.refl (origin : World S T) : Fresh origin origin := fun _ _ meant => .inl ⟨meant, rfl⟩

theorem Fresh.sameIds (fresh : Fresh origin before) (same : SameIds before after) :
    Fresh origin after := by
  intro id handle meant
  rw [Declares, same.births, same.memories]
  rw [same.meant] at meant
  exact fresh id handle meant

theorem Fresh.birth {birth : Birth S} (fresh : Fresh origin before)
    (came : CameUnder before birth after) : Fresh origin after := by
  intro id handle meant
  rw [came.meant] at meant
  rw [Declares, came.births, came.memories]
  by_cases own : birth.id = id
  · subst own
    right
    rw [latest?_cons_self]
    rintro ⟨_, ⟨⟩, declares⟩
    rw [if_pos ⟨rfl, declares⟩]
  · rw [if_neg own] at meant
    rw [latest?_cons_of_ne _ _ own, if_neg (fun both => own both.1)]
    exact fresh id handle meant

theorem Fresh.death (fresh : Fresh origin before) (left : LeftFrom before id handle after) :
    Fresh origin after := by
  intro other owner meant
  rw [left.meant] at meant
  rw [Declares, left.births, left.memories]
  split at meant
  · cases meant
  · rename_i kept
    rw [if_neg kept]
    exact fresh other owner meant

/-- Where nothing is remembered anew, ids stay fresh. -/
theorem Fresh.course (fresh : Fresh origin before) (course : Course may before after)
    (silent : ∀ (world : World S T) (id : String), ¬ may world (.record id)) :
    Fresh origin after :=
  course.ids (Fresh origin) fresh (fun same fresh => fresh.sameIds same)
    (fun _ came fresh => fresh.birth came) (fun _ left fresh => fresh.death left)
    (fun allowed _ _ => absurd allowed (silent _ _))

/-- While behaviors steer, every id means whom it meant. -/
theorem sameOwners_ofBehaviors (course : Course Deed.OfBehaviors before after) :
    SameOwners before after := by
  refine course.ids (SameOwners before) ⟨rfl, rfl, rfl⟩ ?_ ?_ ?_ ?_
  · intro _ _ same kept
    exact kept.trans same.toSameOwners
  · intro _ _ _ _ allowed
    exact allowed.elim
  · intro _ _ _ _ allowed
    exact allowed.elim
  · intro _ _ _ _ same kept
    exact kept.trans same

/-- Where there is no behavior nothing is remembered. -/
theorem Named.memory_eq_none {registry : Registry S T} (named : world.Named others registry)
    (found : world.registry = some registry) (nothing : world.behaviors.get? id = none) :
    world.memories.get? id = none := by
  rw [World.behaviors, found] at nothing
  rw [World.memories, found]
  by_contra remembered
  have behaves := named.keyed.memories id (Option.isSome_iff_ne_none.mpr remembered)
  rw [Index.contains] at behaves
  exact absurd nothing (Option.isSome_iff_ne_none.mp behaves)

/-! ### Handles that were given out -/

/-- A handle was given out, and its actor is there or gone for good. -/
def Issued (world : World S T) (others : List Handle) (handle : Handle) : Prop :=
  world.alive handle = true ∨ world.Spent others handle

theorem alive_eq_isSome (world : World S T) (handle : Handle) :
    world.alive handle = (world.roster.who? handle).isSome := by
  rw [alive, Roster.contains, Roster.who?, Option.isSome_map]

theorem Issued.of_sameNames (issued : before.Issued others handle) (same : SameNames before after) :
    after.Issued others handle := by
  rcases issued with here | gone
  · exact .inl ((same.alive handle).trans here)
  · exact .inr (gone.of_sameNames same)

theorem Issued.ne_take (issued : world.Issued others handle) (good : world.Sound others) :
    handle ≠ world.handles.take.1 := by
  rcases issued with here | gone
  · intro same
    have held := Roster.mem_handles_iff.mpr here
    rw [same] at held
    exact Handles.Sound.take_not_mem good (List.mem_append_left _ held)
  · exact Handles.Spent.ne_take gone

theorem Issued.course (issued : before.Issued others handle) (good : before.Sound others)
    (course : Course may before after) : after.Issued others handle := by
  induction course with
  | quiet quiet => exact issued.of_sameNames quiet.names
  | birth _ made =>
    rcases issued with here | gone
    · left
      rw [alive_eq_isSome] at here ⊢
      rw [made.who]
      split
      · rfl
      · exact here
    · exact .inr (made.spent gone)
  | @death before _ removedHandle _ _ removed =>
    rcases issued with here | gone
    · by_cases same : removedHandle = handle
      · rw [← same]
        exact .inr (removed.spent_self good)
      · left
        rw [alive_eq_isSome] at here ⊢
        rw [removed.who, if_neg same]
        exact here
    · exact .inr (removed.spent gone)
  | note _ noted => exact issued
  | record _ _ _ => exact issued
  | arrange _ arranged => exact issued.of_sameNames arranged.names
  | trans first second firstKeeps secondKeeps =>
    exact secondKeeps (firstKeeps issued good) (first.sound good)

theorem Issued.camera (issued : world.Issued [] handle) :
    World.Issued { world with handles := world.handles.take.2 } [world.handles.take.1] handle :=
  issued.imp_right Spent.camera

/-- An id comes to mean new actors only. -/
theorem Course.meant_before (course : Course may before after) (good : before.Sound others)
    (issued : before.Issued others handle) (meant : after.handle? id = some handle) :
    before.handle? id = some handle := by
  induction course with
  | quiet quiet => rwa [quiet.names.ids.meant] at meant
  | birth _ made =>
    rw [made.cameUnder.meant] at meant
    split at meant
    · cases meant
      exact absurd made.taken (issued.ne_take good)
    · exact meant
  | death _ removed =>
    rw [removed.leftFrom.meant] at meant
    split at meant
    · cases meant
    · exact meant
  | note _ noted => rwa [(sameIds_noted noted).meant] at meant
  | record _ _ memory => rwa [(sameOwners_remember _ _ memory).meant] at meant
  | arrange _ arranged => rwa [arranged.names.ids.meant] at meant
  | trans first second firstBefore secondBefore =>
    exact firstBefore good issued
      (secondBefore (first.sound good) (issued.course good first) meant)

theorem Issued.tearDown (issued : world.Issued others handle) (good : world.Sound others) :
    world.tearDown.Issued others handle := by
  cases playing : world.playing with
  | none =>
    rw [World.tearDown, playing]
    exact issued
  | some session =>
    have nameless : World.Issued { world with playing := none, registry := none } others handle :=
      issued
    have left := nameless.course good (course_vacate good)
    exact left.of_sameNames (names_tearDown playing)

theorem Issued.stop (issued : world.Issued others handle) (good : world.Sound others)
    (session : Session) : (world.stop session).Issued others handle := by
  unfold World.stop
  split
  · split
    · exact issued.tearDown good
    · exact issued
  · exact issued

variable [Scalar S] [Scalar T]

/-- A game that begins gives none of its ids to an actor of a game before it. -/
theorem Issued.playScene (issued : world.Issued others handle) (good : world.Sound others)
    (spec : Spec S) (scene : Spec.Scene S) (seed : Option Nat) :
    (world.playScene spec scene seed).2.Issued others handle ∧
      ∀ id, (world.playScene spec scene seed).2.handle? id ≠ some handle := by
  have ready : (world.tearDown.setUp spec seed).Sound others := (safe_tearDown world others good).1
  have blank : World.Issued
      { world.tearDown.setUp spec seed with library := some (actionsOf scene) } others handle :=
    issued.tearDown good
  have course := course_build ready scene
  have same := names_playScene world spec scene seed
  refine ⟨(blank.course ready course).of_sameNames same, ?_⟩
  intro id meant
  rw [same.ids.meant] at meant
  cases course.meant_before ready blank meant

variable [Circular S] [Sampling S] [Rounding T S]

/-- Nothing brings an id back to an actor that it does not mean any more. -/
theorem Later.issued {others₀ : List Handle} (later : Later others₀ origin others world)
    (lived : origin.Lived others₀) (issued : origin.Issued others₀ handle) :
    world.Issued others handle ∧
      ∀ id, world.handle? id = some handle → origin.handle? id = some handle := by
  induction later with
  | refl => exact ⟨issued, fun _ meant => meant⟩
  | camera later kept => exact ⟨kept.1.camera, kept.2⟩
  | @start others world later spec options kept =>
    rcases tryStart_cases world spec options with same | ⟨scene, -, -, started⟩
    · rw [same]
      exact kept
    · rw [started]
      have good : world.Sound others := later.sound lived.sound
      obtain ⟨still, none⟩ := kept.1.playScene good spec scene options.seed
      exact ⟨still, fun id meant => absurd meant (none id)⟩
  | @stop others world later session kept =>
    have good : world.Sound others := later.sound lived.sound
    rcases Lived.stop_cases (World.Lived.trans lived later) session with same | idle
    · rw [same]
      exact kept
    · refine ⟨kept.1.stop good session, ?_⟩
      intro id meant
      have nameless : (world.stop session).registry = none := by
        simpa [has] using idle.parts .registry
      rw [handle?, nameless] at meant
      cases meant
  | @phase others world after _ _ _ _ later _ done kept =>
    have good : world.Sound others := later.sound lived.sound
    have course := (course_runPhase good done).1
    have still : World.Issued { world with contacts := after.contacts } others handle := kept.1
    refine ⟨still.course good course, ?_⟩
    intro id meant
    exact kept.2 id (course.meant_before good still meant)
  | @draw others world after _ later done kept =>
    have good : world.Sound others := later.sound lived.sound
    have course := course_draw good done
    refine ⟨kept.1.course good course, ?_⟩
    intro id meant
    exact kept.2 id (course.meant_before good kept.1 meant)

/-! ### What is remembered -/

/-- An id meant an actor at some time and remembered nothing then. -/
def BlankSince (others : List Handle) (world : World S T) (id : String) (handle : Handle) : Prop :=
  ∃ (held : List Handle) (origin : World S T), origin.Lived held ∧
    Later held origin others world ∧ origin.handle? id = some handle ∧
      origin.memories.get? id = none

/-- What an id remembers was remembered while it meant an actor: since some time at which it
remembered nothing it has meant that actor. -/
def OwnMemory (others : List Handle) (world : World S T) (id : String) (handle : Handle) : Prop :=
  ∃ (held : List Handle) (origin : World S T), origin.Lived held ∧
    Later held origin others world ∧ origin.memories.get? id = none ∧
      ∀ (held₁ : List Handle) (between : World S T), Later held origin held₁ between →
        Later held₁ between others world → between.handle? id = some handle

omit [Scalar T] [Circular S] [Sampling S] [Rounding T S] in
/-- Only behaviors remember. -/
theorem silent_of_ne {phase : Phase} (other : phase ≠ .behaviors) (world : World S T)
    (id : String) : ¬ phase.permits world (.record id) := by
  cases phase with
  | behaviors => exact absurd rfl other
  | _ => exact fun never => never

/-- An id that means an actor that declares a behavior remembered nothing when it came to mean it. -/
theorem law_blankSince : Law fun (others : List Handle) (world : World S T) =>
    ∀ id handle, world.handle? id = some handle → world.Declares id →
      BlankSince others world id handle where
  camera := by
    intro world _ blank id handle meant declares
    obtain ⟨held, origin, lived, later, own, nothing⟩ := blank id handle meant declares
    exact ⟨held, origin, lived, later.camera, own, nothing⟩
  phase := by
    intro others world after _ _ _ phase lived playing blank done id handle meant declares
    have course := (course_runPhase lived.sound done).1
    have extended : world.handle? id = some handle → world.Declares id →
        BlankSince others after id handle := by
      intro before declared
      obtain ⟨held, origin, old, later, own, nothing⟩ := blank id handle before declared
      exact ⟨held, origin, old, later.phase playing done, own, nothing⟩
    by_cases behaves : phase = .behaviors
    · subst behaves
      have same := sameOwners_ofBehaviors course
      refine extended ((congrFun same.meant id).symm.trans meant) ?_
      rw [Declares, same.births] at declares
      exact declares
    · have fresh := (Fresh.refl _).course course (silent_of_ne behaves)
      rcases fresh id handle meant with ⟨before, latest⟩ | nothing
      · rw [Declares, latest] at declares
        exact extended before declares
      · exact ⟨others, after, lived.phase playing done, .refl, meant, nothing declares⟩
  draw := by
    intro others world after _ _ lived _ blank done id handle meant declares
    have fresh := (Fresh.refl _).course (course_draw lived.sound done) fun _ _ none => none
    rcases fresh id handle meant with ⟨before, latest⟩ | nothing
    · rw [Declares, latest] at declares
      obtain ⟨held, origin, old, later, own, nothing⟩ := blank id handle before declares
      exact ⟨held, origin, old, later.draw done, own, nothing⟩
    · exact ⟨others, after, World.Lived.draw lived done, .refl, meant, nothing declares⟩

theorem Lived.blankSince (lived : world.Lived others) {session : Session}
    (playing : world.playing = some session) (meant : world.handle? id = some handle)
    (declares : world.Declares id) : BlankSince others world id handle := by
  refine law_blankSince.lived ?_ lived playing id handle meant declares
  intro others world spec options scene later valid chosen id handle meant declares
  have ready : (world.tearDown.setUp spec options.seed).Sound others :=
    (safe_tearDown world others later.sound).1
  have same := (names_playScene world spec scene options.seed).ids
  have built := (Fresh.refl _).course (course_build ready scene) fun _ _ silent => silent
  rcases (built.sameIds same) id handle meant with ⟨before, -⟩ | nothing
  · cases before
  · exact ⟨others, _, later.start (tryStart_of_choose valid chosen), .refl, meant,
      nothing declares⟩

theorem law_tended : Law fun (_ : List Handle) (world : World S T) => world.Tended where
  camera _ tended := tended
  phase := by
    intro others world after _ _ _ _ lived _ tended done
    have still : World.Tended { world with contacts := after.contacts } := tended
    exact still.course (course_runPhase lived.sound done).1
  draw lived _ tended done := tended.course (course_draw lived.sound done)

theorem Lived.tended (lived : world.Lived others) {session : Session}
    (playing : world.playing = some session) : world.Tended := by
  refine law_tended.lived ?_ lived playing
  intro others world spec options scene later _ _
  have ready : (world.tearDown.setUp spec options.seed).Sound others :=
    (safe_tearDown world others later.sound).1
  have blank : World.Tended
      { world.tearDown.setUp spec options.seed with library := some (actionsOf scene) } :=
    fun _ => .inl rfl
  have same := (names_playScene world spec scene options.seed).ids
  exact (blank.course (course_build ready scene)).same same.toSameOwners

/-- Whom an id means is there. -/
theorem Lived.alive_of_meant (lived : world.Lived others) (meant : world.handle? id = some handle) :
    world.alive handle = true := by
  rcases lived.whole with ⟨session, playing⟩ | idle
  · obtain ⟨registry, found, named⟩ := lived.named playing.active
    rw [handle?, found] at meant
    obtain ⟨who, known, -⟩ := named.meant id handle meant
    rw [alive_eq_isSome, known]
    rfl
  · have nameless : world.registry = none := by simpa [has] using idle.parts .registry
    rw [handle?, nameless] at meant
    cases meant

/-- What an id remembers for an actor that declares a behavior is the actor's own. -/
theorem Lived.ownMemory (lived : world.Lived others) {session : Session}
    (playing : world.playing = some session) (meant : world.handle? id = some handle)
    (declares : world.Declares id) : OwnMemory others world id handle := by
  obtain ⟨held, origin, begun, later, own, nothing⟩ := lived.blankSince playing meant declares
  refine ⟨held, origin, begun, later, nothing, ?_⟩
  intro held₁ between before after
  have issued := (before.issued begun (.inl (begun.alive_of_meant own))).1
  exact (after.issued (World.Lived.trans begun before) issued).2 id meant

end World

variable [Scalar S] [Scalar T] [Circular S] [Sampling S] [Rounding T S]

/-- Whatever was done before and however far a frame has come: who declares a behavior has this one
under its id, and what is remembered there was remembered since the id means it. Who declares none
has none, and nothing is remembered; or it has the behavior that another actor declared last. -/
theorem Cabinet.behaves_as_declared {entropy : Entropy} {watch : Option Watch} {pictures : Option Bool}
    {operations : List (Operation S T)} {cabinet : Cabinet S T} {session : Session}
    {keyboard : Option (List Key)} {delta : T} {phases : List Phase} {world : World S T}
    {id : String} {handle : Handle}
    (ran : (new entropy watch (pictures.map Screen.start)).run operations = .ok cabinet)
    (playing : cabinet.world.playing = some session)
    (framed : cabinet.world.runPhases keyboard delta phases = .ok world)
    (meant : world.handle? id = some handle) :
    ∃ birth, latest? world.births id = some birth ∧ birth.handle = handle ∧
      match birth.blueprint.assignment? with
      | some assignment => world.behaviors.get? id = some assignment ∧
          world.OwnMemory cabinet.held id handle
      | none => (world.behaviors.get? id = none ∧ world.memories.get? id = none) ∨
          ∃ other ∈ world.births, other.id = id ∧ other.handle ≠ handle ∧
            ∃ assignment, other.blueprint.assignment? = some assignment ∧
              world.behaviors.get? id = some assignment := by
  have alive := alive_of_run ran
  obtain ⟨lived, still⟩ := World.Lived.phases alive playing framed
  have lived : world.Lived cabinet.held := lived
  obtain ⟨registry, found, named⟩ := lived.named still
  have known := meant
  rw [World.handle?, found] at known
  obtain ⟨birth, latest, own⟩ := Option.map_eq_some_iff.mp (named.latest id handle known)
  refine ⟨birth, latest, own, ?_⟩
  split
  · rename_i assignment declares
    have declared := declared?_of_latest? latest declares
    refine ⟨?_, lived.ownMemory still meant ⟨birth, latest, by rw [declares]; rfl⟩⟩
    rcases lived.tended still id with last | ⟨-, nobody | silent⟩
    · exact last.trans declared
    · rw [meant] at nobody
      cases nobody
    · rw [silent birth latest] at declares
      cases declares
  · rename_i silent
    cases behaves : world.behaviors.get? id with
    | none => exact .inl ⟨rfl, named.memory_eq_none found behaves⟩
    | some assignment =>
      right
      rcases lived.tended still id with last | ⟨nothing, -⟩
      · obtain ⟨other, member, same, declares⟩ := exists_of_declared? (last.symm.trans behaves)
        refine ⟨other, member, same, ?_, assignment, declares, rfl⟩
        intro equal
        have one := List.inj_on_of_nodup_map named.once member (List.mem_of_find?_eq_some latest)
          (equal.trans own.symm)
        rw [one, silent] at declares
        cases declares
      · rw [behaves] at nothing
        cases nothing

/-- The small game in the middle of its second frame: the later one of two crates has the name, and
walks as it declares. -/
theorem Cabinet.behaves_as_declared_crate :
    ∃ (cabinet : Cabinet Float32 Float) (session : Session) (world : World Float32 Float)
      (handle : Handle) (birth : Birth Float32),
      (new Sample.entropy none (Option.map Screen.start none)).run
          [.start Sample.spec .default, .step none 5] = .ok cabinet ∧
        cabinet.world.playing = some session ∧
        cabinet.world.runPhases none 25 (Phase.order.take 6) = .ok world ∧
        world.handle? "crate" = some handle ∧ latest? world.births "crate" = some birth ∧
        birth.handle = handle ∧
        match birth.blueprint.assignment? with
        | some assignment => world.behaviors.get? "crate" = some assignment ∧
            world.OwnMemory cabinet.held "crate" handle
        | none => (world.behaviors.get? "crate" = none ∧ world.memories.get? "crate" = none) ∨
            ∃ other ∈ world.births, other.id = "crate" ∧ other.handle ≠ handle ∧
              ∃ assignment, other.blueprint.assignment? = some assignment ∧
                world.behaviors.get? "crate" = some assignment := by
  have fine : ((new Sample.entropy none (Option.map Screen.start none) : Cabinet Float32 Float).run
      [.start Sample.spec .default, .step none 5]).toOption.any (fun cabinet =>
        cabinet.world.playing.isSome &&
          (cabinet.world.runPhases none 25 (Phase.order.take 6)).toOption.any fun world =>
            (world.handle? "crate").isSome) = true := by decide +kernel
  obtain ⟨cabinet, ran, fine⟩ := exists_ok_of_any fine
  obtain ⟨active, fine⟩ := (Bool.and_eq_true _ _).mp fine
  obtain ⟨session, playing⟩ := Option.isSome_iff_exists.mp active
  obtain ⟨world, framed, fine⟩ := exists_ok_of_any fine
  obtain ⟨handle, meant⟩ := Option.isSome_iff_exists.mp fine
  obtain ⟨birth, latest, own, behaves⟩ := behaves_as_declared ran playing framed meant
  exact ⟨cabinet, session, world, handle, birth, ran, playing, framed, meant, latest, own, behaves⟩

namespace Sample

/-- A square that can be moved and declares no behavior. -/
def idler (id : String) : Spec.Blueprint Float32 :=
  { walker id with
    behavior := none
    body := some ⟨.dynamic, none, none, none⟩ }

/-- An idler that comes in place of a walker. -/
def relieved : Spec Float32 :=
  { spec with scenes := [⟨"main", [walker "guard", idler "guard"], none⟩] }

end Sample

/-- Who comes in place of a walker, and declares no behavior, walks. -/
theorem Cabinet.behaves_as_replaced :
    ∃ (cabinet : Cabinet Float32 Float) (birth : Birth Float32),
      (new Sample.entropy none (Option.map Screen.start none)).run
          [.start Sample.relieved .default, .step none 25] = .ok cabinet ∧
        latest? cabinet.world.births "guard" = some birth ∧
        cabinet.world.handle? "guard" = some birth.handle ∧
        birth.blueprint.behavior = none ∧
        (cabinet.world.behaviors.get? "guard").map (·.kind) = some .patrol ∧
        (cabinet.world.memories.get? "guard").isSome = true := by
  have fine : ((new Sample.entropy none (Option.map Screen.start none) : Cabinet Float32 Float).run
      [.start Sample.relieved .default, .step none 25]).toOption.any (fun cabinet =>
        (latest? cabinet.world.births "guard").any fun birth =>
          decide (cabinet.world.handle? "guard" = some birth.handle ∧
            birth.blueprint.behavior = none ∧
            (cabinet.world.behaviors.get? "guard").map (·.kind) = some .patrol ∧
            (cabinet.world.memories.get? "guard").isSome = true)) = true := by decide +kernel
  obtain ⟨cabinet, ran, fine⟩ := exists_ok_of_any fine
  obtain ⟨birth, latest, fine⟩ := (Option.any_eq_true _ _).mp fine
  exact ⟨cabinet, birth, ran, latest, of_decide_eq_true fine⟩

end Arcade
