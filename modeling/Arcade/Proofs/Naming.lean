import Arcade.Proofs.Life

/-! The registry tells the truth about the actors. An id means the actor that came under it last, as
long as that actor is there; the members of a group are the actors of that group, in the order in
which they came; and what is said of behaviors is said of ids that mean something. -/

namespace Arcade

/-! ### Entries of a registry -/

namespace Registry

variable {S T : Type} {registry after : Registry S T}

/-- Only ids with a behavior remember, and only ids that mean an actor have a behavior. -/
structure Keyed (registry : Registry S T) : Prop where
  memories : ∀ id, registry.memories.contains id = true → registry.behaviors.contains id = true
  behaviors : ∀ id, registry.behaviors.contains id = true → registry.objects.contains id = true

theorem keyed_empty : (empty : Registry S T).Keyed where
  memories _ known := by cases known
  behaviors _ known := by cases known

theorem Keyed.register (keyed : registry.Keyed) (id : String) (handle : Handle) :
    (registry.register id handle).Keyed where
  memories := keyed.memories
  behaviors other known := by
    have meant := keyed.behaviors other known
    simp only [Registry.register, Index.contains, Index.get?_insert]
    split
    · rfl
    · exact meant

theorem Keyed.assign (keyed : registry.Keyed) {id : String}
    (meant : registry.objects.contains id = true) (assignment : Assignment) :
    (registry.assign id assignment).Keyed where
  memories other known := by
    simp only [Registry.assign, Index.contains, Index.get?_erase, Index.get?_insert] at known ⊢
    split
    · rfl
    · rename_i different
      rw [if_neg different] at known
      exact keyed.memories other known
  behaviors other known := by
    simp only [Registry.assign, Index.contains, Index.get?_insert] at known ⊢
    split at known
    · rename_i same
      rw [← same]
      exact meant
    · exact keyed.behaviors other known

theorem Keyed.joined (keyed : registry.Keyed) (blueprint : Spec.Blueprint S) (id : String)
    (group : Option String) (handle : Handle) :
    (registry.joined blueprint id group handle).Keyed := by
  have entered : (registry.entered blueprint id handle).Keyed := by
    have registered := keyed.register id handle
    unfold Registry.entered
    split
    · apply registered.assign
      simp [Registry.register, Index.contains]
    · exact registered
  cases group with
  | none => exact entered
  | some name => exact ⟨entered.memories, entered.behaviors⟩

theorem Keyed.forget (keyed : registry.Keyed) (id : String) (handle : Handle)
    (group : Option String) : (registry.forget id handle group).Keyed := by
  by_cases owner : registry.handle? id = some handle
  · constructor
    · intro other known
      simp only [Registry.forget, owner, ↓reduceIte, Index.contains, Index.get?_erase] at known ⊢
      split at known
      · cases known
      · rename_i different
        rw [if_neg different]
        exact keyed.memories other known
    · intro other known
      simp only [Registry.forget, owner, ↓reduceIte, Index.contains, Index.get?_erase] at known ⊢
      split at known
      · cases known
      · rename_i different
        rw [if_neg different]
        exact keyed.behaviors other known
  · constructor
    · simpa only [Registry.forget, owner, ↓reduceIte] using keyed.memories
    · simpa only [Registry.forget, owner, ↓reduceIte] using keyed.behaviors

theorem Keyed.noted (keyed : registry.Keyed) (noted : Noted registry after) : after.Keyed where
  memories := by
    rw [noted.memories, noted.behaviors]
    exact keyed.memories
  behaviors := by
    rw [noted.behaviors, noted.objects]
    exact keyed.behaviors

theorem Keyed.remember (keyed : registry.Keyed) {id : String}
    (behaves : registry.behaviors.contains id = true) (memory : Memory S T) :
    (registry.remember id memory).Keyed where
  memories other known := by
    by_cases same : id = other
    · rw [← same]
      exact behaves
    · apply keyed.memories other
      simpa [Registry.remember, Index.contains, Index.get?_insert, same] using known
  behaviors := keyed.behaviors

theorem handle?_joined (registry : Registry S T) (blueprint : Spec.Blueprint S) (id : String)
    (group : Option String) (handle : Handle) (other : String) :
    (registry.joined blueprint id group handle).handle? other =
      if id = other then some handle else registry.handle? other := by
  have entered : (registry.entered blueprint id handle).handle? other =
      if id = other then some handle else registry.handle? other := by
    unfold Registry.entered
    split <;> exact handle?_register registry id other handle
  cases group with
  | none => exact entered
  | some name => exact entered

theorem members_joined (registry : Registry S T) (blueprint : Spec.Blueprint S) (id : String)
    (group : Option String) (handle : Handle) (name : String) :
    (registry.joined blueprint id group handle).members name =
      if group = some name ∧ handle ∉ registry.members name then
        registry.members name ++ [handle]
      else registry.members name := by
  have entered : (registry.entered blueprint id handle).members = registry.members := by
    unfold Registry.entered
    split <;> rfl
  cases group with
  | none => simp only [joined, entered, reduceCtorEq, false_and, ↓reduceIte]
  | some own =>
    simp only [joined, members_joinGroup, entered, Option.some.injEq]
    by_cases same : own = name
    · rw [same]
    · simp only [same, false_and, ↓reduceIte]

end Registry

/-! ### Names and actors -/

namespace World

variable {S T : Type} {world before after : World S T} {others : List Handle}
  {registry : Registry S T}

/-- What a registry says is true of the actors of a world. -/
structure Named (world : World S T) (others : List Handle) (registry : Registry S T) : Prop where
  once : (world.births.map (·.handle)).Nodup
  past : ∀ birth ∈ world.births,
    birth.handle ∈ world.roster.handles ∨ world.Spent others birth.handle
  copies : ∀ handle who, world.roster.who? handle = some who → who.transient = who.group.isSome
  meant : ∀ id handle, registry.handle? id = some handle →
    ∃ who, world.roster.who? handle = some who ∧ who.id = id
  latest : ∀ id handle, registry.handle? id = some handle →
    (world.births.find? (·.id = id)).map (·.handle) = some handle
  grouped : ∀ name handle, handle ∈ registry.members name ↔
    ∃ who, world.roster.who? handle = some who ∧ who.group = some name
  single : ∀ name, (registry.members name).Nodup
  order : ∀ name, (registry.members name).Sublist (world.births.reverse.map (·.handle))
  keyed : registry.Keyed

theorem named_empty (nobody : world.roster.actors = []) (unborn : world.births = []) :
    world.Named others .empty := by
  have absent : ∀ handle, world.roster.who? handle = none := by
    intro handle
    rw [Roster.who?_eq_none_iff, Roster.handles, nobody]
    exact List.not_mem_nil
  constructor
  · rw [unborn]
    exact List.nodup_nil
  · intro birth member
    rw [unborn] at member
    cases member
  · intro handle who known
    rw [absent handle] at known
    cases known
  · intro id handle known
    cases known
  · intro id handle known
    cases known
  · intro name handle
    constructor
    · intro member
      cases member
    · rintro ⟨who, known, -⟩
      rw [absent handle] at known
      cases known
  · intro name
    exact List.nodup_nil
  · intro name
    exact List.nil_sublist _
  · exact Registry.keyed_empty

theorem Named.quiet (named : before.Named others registry) (same : SameNames before after) :
    after.Named others registry := by
  obtain ⟨once, past, copies, meant, latest, grouped, single, order, keyed⟩ := named
  constructor
  · rw [same.births]
    exact once
  · intro birth member
    rw [same.births] at member
    rcases past birth member with here | gone
    · exact .inl (same.held.mem_iff.mpr here)
    · exact .inr (gone.of_sameNames same)
  · rw [same.who]
    exact copies
  · rw [same.who]
    exact meant
  · rw [same.births]
    exact latest
  · rw [same.who]
    exact grouped
  · exact single
  · rw [same.births]
    exact order
  · exact keyed

theorem Named.noted {later : Registry S T} (named : world.Named others registry)
    (noted : Registry.Noted registry later) :
    World.Named { world with registry := some later } others later := by
  obtain ⟨once, past, copies, meant, latest, grouped, single, order, keyed⟩ := named
  have sameObjects : later.handle? = registry.handle? := by
    funext id
    rw [Registry.handle?, noted.objects]
    rfl
  constructor
  · exact once
  · exact past
  · exact copies
  · rw [sameObjects]
    exact meant
  · rw [sameObjects]
    exact latest
  · rw [noted.members]
    exact grouped
  · rw [noted.members]
    exact single
  · rw [noted.members]
    exact order
  · exact keyed.noted noted

theorem Named.record (named : world.Named others registry) {id : String}
    (behaves : registry.behaviors.contains id = true) (memory : Memory S T) :
    World.Named { world with registry := some (registry.remember id memory) } others
      (registry.remember id memory) :=
  ⟨named.once, named.past, named.copies, named.meant, named.latest, named.grouped, named.single,
    named.order, named.keyed.remember behaves memory⟩

/-- Nothing was ever known of the handle of a new actor. -/
theorem Named.fresh {blueprint : Spec.Blueprint S} {identity : Identity S} {handle : Handle}
    {names : Option (Registry S T)} (named : before.Named others registry)
    (good : before.Sound others) (made : Made before blueprint identity handle names after) :
    before.roster.who? handle = none ∧ handle ∉ before.births.map (·.handle) := by
  have unheld := made.fresh good
  constructor
  · exact Roster.who?_eq_none_iff.mpr unheld
  · intro member
    obtain ⟨birth, born, same⟩ := List.mem_map.mp member
    rcases named.past birth born with here | gone
    · exact unheld (same ▸ here)
    · exact Handles.Spent.ne_take gone (same.trans made.taken)

/-- A new actor comes last in its group. -/
theorem Named.members_birth (named : world.Named others registry) {handle : Handle}
    (unknown : world.roster.who? handle = none) (blueprint : Spec.Blueprint S) (id : String)
    (group : Option String) (name : String) :
    (registry.joined blueprint id group handle).members name =
      if group = some name then registry.members name ++ [handle] else registry.members name := by
  have outside : handle ∉ registry.members name := by
    intro member
    obtain ⟨who, known, -⟩ := (named.grouped name handle).mp member
    rw [unknown] at known
    cases known
  simp only [Registry.members_joined, outside, not_false_eq_true, and_true]

theorem Named.birth {blueprint : Spec.Blueprint S} {id : String} {group : Option String}
    {handle : Handle} (named : before.Named others registry) (good : before.Sound others)
    (made : Made before blueprint ⟨id, group, group.isSome, blueprint.weapon?⟩ handle
      (some (registry.joined blueprint id group handle)) after) :
    after.Named others (registry.joined blueprint id group handle) := by
  obtain ⟨unknown, unborn⟩ := named.fresh good made
  have self : after.roster.who? handle = some ⟨id, group, group.isSome, blueprint.weapon?⟩ := by
    rw [made.who, if_pos rfl]
  have joins := named.members_birth unknown blueprint id group
  constructor
  · rw [made.births]
    exact List.nodup_cons.mpr ⟨unborn, named.once⟩
  · intro birth member
    rw [made.births] at member
    rcases List.mem_cons.mp member with same | old
    · rw [same]
      exact .inl (made.held.mem_iff.mpr List.mem_cons_self)
    · rcases named.past birth old with here | gone
      · exact .inl (made.held.mem_iff.mpr (List.mem_cons_of_mem _ here))
      · exact .inr (made.spent gone)
  · intro other who known
    rcases made.new_or_before known with ⟨-, new⟩ | old
    · rw [new]
    · exact named.copies other who old
  · intro other means known
    rw [Registry.handle?_joined] at known
    by_cases same : id = other
    · rw [if_pos same] at known
      cases known
      exact ⟨_, self, same⟩
    · rw [if_neg same] at known
      obtain ⟨who, present, own⟩ := named.meant other means known
      exact ⟨who, made.who_of_before unknown present, own⟩
  · intro other means known
    rw [Registry.handle?_joined] at known
    rw [made.births, List.find?_cons]
    by_cases same : id = other
    · rw [if_pos same] at known
      cases known
      simp only [same, decide_true, Option.map_some]
    · rw [if_neg same] at known
      simp only [same, decide_false]
      exact named.latest other means known
  · intro name other
    rw [joins]
    constructor
    · intro member
      have old : other ∈ registry.members name →
          ∃ who, after.roster.who? other = some who ∧ who.group = some name := by
        intro inside
        obtain ⟨who, known, own⟩ := (named.grouped name other).mp inside
        exact ⟨who, made.who_of_before unknown known, own⟩
      by_cases own : group = some name
      · rw [if_pos own] at member
        rcases List.mem_append.mp member with inside | new
        · exact old inside
        · rw [List.mem_singleton.mp new]
          exact ⟨_, self, own⟩
      · rw [if_neg own] at member
        exact old member
    · intro present
      obtain ⟨who, known, own⟩ := present
      rcases made.new_or_before known with ⟨new, same⟩ | old
      · rw [same] at own
        rw [if_pos own, new]
        exact List.mem_append_right _ (List.mem_singleton_self _)
      · have member := (named.grouped name other).mpr ⟨who, old, own⟩
        split
        · exact List.mem_append_left _ member
        · exact member
  · intro name
    rw [joins]
    split
    · refine List.nodup_append.mpr ⟨named.single name, List.nodup_singleton _, ?_⟩
      intro other member new single same
      obtain ⟨who, known, -⟩ := (named.grouped name other).mp member
      rw [same, List.mem_singleton.mp single, unknown] at known
      cases known
    · exact named.single name
  · intro name
    rw [joins, made.births, List.reverse_cons, List.map_append]
    split
    · exact (named.order name).append (List.Sublist.refl _)
    · exact (named.order name).trans (List.sublist_append_left _ _)
  · exact named.keyed.joined blueprint id group handle

/-- An id that means an actor after another one was forgotten meant it before. -/
theorem Named.handle?_death {handle other : Handle} {identity : Identity S} {id : String}
    (named : world.Named others registry) (present : world.roster.who? handle = some identity)
    (known : (registry.forget identity.id handle identity.group).handle? id = some other) :
    registry.handle? id = some other ∧ other ≠ handle := by
  rw [Registry.handle?_forget] at known
  split at known
  · cases known
  · rename_i kept
    refine ⟨known, ?_⟩
    intro gone
    rw [gone] at known
    obtain ⟨who, found, own⟩ := named.meant id handle known
    rw [present] at found
    cases found
    apply kept
    rw [own]
    exact ⟨rfl, known⟩

/-- An actor that is forgotten is a member of no group, and the other members stay. -/
theorem Named.members_death {handle : Handle} {identity : Identity S}
    (named : world.Named others registry) (present : world.roster.who? handle = some identity)
    (name : String) :
    (registry.forget identity.id handle identity.group).members name =
      (registry.members name).filter (· ≠ handle) := by
  rw [Registry.members_forget]
  split
  · rfl
  · rename_i other
    symm
    apply List.filter_eq_self.mpr
    intro member inside
    have different : member ≠ handle := by
      intro gone
      rw [gone] at inside
      obtain ⟨who, known, own⟩ := (named.grouped name handle).mp inside
      rw [present] at known
      cases known
      exact other own
    exact decide_eq_true different

theorem Named.death {handle : Handle} {identity : Identity S}
    (named : before.Named others registry) (good : before.Sound others)
    (removed : Removed before handle identity after) :
    after.Named others (registry.forget identity.id handle identity.group) := by
  have drops := named.members_death removed.present
  constructor
  · rw [removed.births]
    exact named.once
  · intro birth member
    rw [removed.births] at member
    rcases named.past birth member with here | gone
    · rcases List.mem_cons.mp (removed.held.mem_iff.mp here) with same | still
      · rw [same]
        exact .inr (removed.spent_self good)
      · exact .inl still
    · exact .inr (removed.spent gone)
  · intro other who known
    exact named.copies other who (removed.before_of_who known).2
  · intro id other known
    obtain ⟨meant, different⟩ := named.handle?_death removed.present known
    obtain ⟨who, present, same⟩ := named.meant id other meant
    exact ⟨who, removed.who_of_before different present, same⟩
  · intro id other known
    rw [removed.births]
    exact named.latest id other (named.handle?_death removed.present known).1
  · intro name other
    rw [drops, List.mem_filter, named.grouped]
    constructor
    · intro member
      obtain ⟨⟨who, known, same⟩, different⟩ := member
      exact ⟨who, removed.who_of_before (of_decide_eq_true different) known, same⟩
    · intro still
      obtain ⟨who, known, same⟩ := still
      obtain ⟨different, present⟩ := removed.before_of_who known
      exact ⟨⟨who, present, same⟩, decide_eq_true different⟩
  · intro name
    rw [drops]
    exact (named.single name).filter _
  · intro name
    rw [drops, removed.births]
    exact List.filter_sublist.trans (named.order name)
  · exact named.keyed.forget identity.id handle identity.group

/-- Names stay true in the course of a game. -/
theorem Named.course {may : World S T → Deed S → Prop} (named : before.Named others registry)
    (good : before.Sound others) (known : before.registry = some registry)
    (course : Course may before after) :
    ∃ later, after.registry = some later ∧ after.Named others later := by
  induction course generalizing registry with
  | quiet quiet => exact ⟨registry, quiet.names.registry.trans known, named.quiet quiet.names⟩
  | birth _ made =>
    rw [known] at made
    exact ⟨_, made.registry, named.birth good made⟩
  | death _ removed =>
    have left := removed.registry
    rw [known] at left
    exact ⟨_, left, named.death good removed⟩
  | note _ noted =>
    rw [known] at noted
    exact ⟨_, rfl, named.noted noted⟩
  | record _ behaves memory =>
    rw [withRegistry, known]
    rw [known] at behaves
    exact ⟨_, rfl, named.record behaves memory⟩
  | arrange _ arranged =>
    exact ⟨registry, arranged.names.registry.trans known, named.quiet arranged.names⟩
  | trans first second firstKeeps secondKeeps =>
    obtain ⟨middle, found, still⟩ := firstKeeps named good known
    exact secondKeeps still (first.sound good) found

/-- Names do not depend on who meets whom. -/
theorem Named.contacts (named : world.Named others registry) (contacts : Option (List Contact)) :
    World.Named { world with contacts } others registry :=
  ⟨named.once, named.past, named.copies, named.meant, named.latest, named.grouped, named.single,
    named.order, named.keyed⟩

/-- A camera stands at a place of its own. -/
theorem Named.camera (named : world.Named [] registry) :
    World.Named { world with handles := world.handles.take.2 } [world.handles.take.1] registry := by
  obtain ⟨once, past, copies, meant, latest, grouped, single, order, keyed⟩ := named
  refine ⟨once, ?_, copies, meant, latest, grouped, single, order, keyed⟩
  exact fun birth member => (past birth member).imp_right World.Spent.camera

variable [Scalar S] [Scalar T]

/-- A scene begins with names that are true. -/
theorem named_playScene (whole : world.Whole) (good : world.Sound others) (spec : Spec S)
    (scene : Spec.Scene S) (seed : Option Nat) :
    ∃ registry, (world.playScene spec scene seed).2.registry = some registry ∧
      (world.playScene spec scene seed).2.Named others registry := by
  have ready : (world.tearDown.setUp spec seed).Sound others := (safe_tearDown world others good).1
  have blank : World.Named
      { world.tearDown.setUp spec seed with library := some (actionsOf scene) } others .empty :=
    named_empty (whole.tearDown good).actors rfl
  obtain ⟨registry, found, named⟩ := blank.course ready rfl (course_build ready scene)
  have same := names_playScene world spec scene seed
  exact ⟨registry, same.registry.trans found, named.quiet same⟩

variable [Circular S] [Sampling S] [Rounding T S]

theorem law_named : Law fun (others : List Handle) (world : World S T) =>
    ∃ registry, world.registry = some registry ∧ world.Named others registry where
  camera _ named := by
    obtain ⟨registry, found, named⟩ := named
    exact ⟨registry, found, named.camera⟩
  phase := by
    intro others world after _ _ _ _ lived _ named done
    obtain ⟨registry, found, named⟩ := named
    have good : world.Sound others := lived.sound
    have still : World.Sound { world with contacts := after.contacts } others := good
    exact (named.contacts after.contacts).course still found (course_runPhase good done).1
  draw lived _ named done := by
    obtain ⟨registry, found, named⟩ := named
    exact named.course lived.sound found (course_draw lived.sound done)

theorem Lived.named (lived : world.Lived others) {session : Session}
    (playing : world.playing = some session) :
    ∃ registry, world.registry = some registry ∧ world.Named others registry := by
  refine law_named.lived ?_ lived playing
  intro others world spec options scene later _ _
  exact named_playScene later.whole later.sound spec scene options.seed

/-- What the registry says and what there is agree. -/
structure Agreement (world : World S T) (registry : Registry S T) : Prop where
  /-- No handle is given out twice. -/
  once : (world.births.map (·.handle)).Nodup
  meant : ∀ id handle, registry.handle? id = some handle →
    ∃ actor, world.roster.find? handle = some actor ∧ actor.id = id
  /-- An id means the actor that came under it last. -/
  latest : ∀ id handle, registry.handle? id = some handle →
    (world.births.find? (·.id = id)).map (·.handle) = some handle
  grouped : ∀ name handle, handle ∈ registry.members name ↔
    ∃ actor, world.roster.find? handle = some actor ∧ actor.group = some name
  single : ∀ name, (registry.members name).Nodup
  /-- Members stand in the order in which they were made. -/
  order : ∀ name, (registry.members name).Sublist (world.births.reverse.map (·.handle))
  copies : ∀ actor ∈ world.roster.actors, actor.transient = actor.group.isSome
  memories : ∀ id, registry.memories.contains id = true → registry.behaviors.contains id = true
  behaviors : ∀ id, registry.behaviors.contains id = true →
    (registry.handle? id).isSome = true

omit [Scalar S] [Scalar T] [Circular S] [Sampling S] [Rounding T S] in
theorem Named.agreement (named : world.Named others registry) (good : world.Sound others) :
    world.Agreement registry where
  once := named.once
  meant id handle known := by
    obtain ⟨who, present, same⟩ := named.meant id handle known
    obtain ⟨actor, found, rfl⟩ := Option.map_eq_some_iff.mp present
    exact ⟨actor, found, same⟩
  latest := named.latest
  grouped name handle := by
    rw [named.grouped]
    constructor
    · rintro ⟨who, present, same⟩
      obtain ⟨actor, found, rfl⟩ := Option.map_eq_some_iff.mp present
      exact ⟨actor, found, same⟩
    · rintro ⟨actor, found, same⟩
      exact ⟨actor.identity, by rw [Roster.who?, found]; rfl, same⟩
  single := named.single
  order := named.order
  copies actor member := by
    have found := (Roster.find?_eq_some_iff good.distinct).mpr ⟨member, rfl⟩
    exact named.copies actor.handle actor.identity (by rw [Roster.who?, found]; rfl)
  memories := named.keyed.memories
  behaviors := named.keyed.behaviors

end World

variable {S T : Type} [Scalar S] [Scalar T] [Circular S] [Sampling S] [Rounding T S]

/-- While a game is played the registry agrees with the world, whatever was done before and however
far a frame has come. -/
theorem Cabinet.registry_agrees {entropy : Entropy} {watch : Option Watch} {pictures : Option Bool}
    {operations : List (Operation S T)} {cabinet : Cabinet S T} {session : Session}
    {keyboard : Option (List Key)} {delta : T} {phases : List Phase} {world : World S T}
    (ran : (new entropy watch (pictures.map Screen.start)).run operations = .ok cabinet)
    (playing : cabinet.world.playing = some session)
    (framed : cabinet.world.runPhases keyboard delta phases = .ok world) :
    ∃ registry, world.registry = some registry ∧ world.Agreement registry := by
  have alive := alive_of_run ran
  obtain ⟨lived, still⟩ := World.Lived.phases alive playing framed
  obtain ⟨registry, found, named⟩ := World.Lived.named lived still
  exact ⟨registry, found, named.agreement (World.Lived.sound lived)⟩

/-- The small game in the middle of its second frame, when coins were made and have not been met
yet: two crates share a name, and the later one has it. -/
theorem Cabinet.registry_agrees_midway :
    ∃ (cabinet : Cabinet Float32 Float) (session : Session) (world : World Float32 Float),
      (new Sample.entropy none (Option.map Screen.start none)).run
          [.start Sample.spec .default, .step none 5] = .ok cabinet ∧
        cabinet.world.playing = some session ∧
        cabinet.world.runPhases none 25 (Phase.order.take 6) = .ok world ∧
        ∃ registry, world.registry = some registry ∧ world.Agreement registry := by
  have fine : (match (new Sample.entropy none (Option.map Screen.start none) : Cabinet Float32 Float).run
      [.start Sample.spec .default, .step none 5] with
    | .ok cabinet => cabinet.world.playing.isSome &&
        (cabinet.world.runPhases none 25 (Phase.order.take 6)).isOk
    | .error _ => false) = true := by decide +kernel
  split at fine
  · rename_i cabinet ran
    obtain ⟨active, framed⟩ := (Bool.and_eq_true _ _).mp fine
    obtain ⟨session, playing⟩ := Option.isSome_iff_exists.mp active
    obtain ⟨world, framed⟩ := eq_ok_of_isOk framed
    exact ⟨cabinet, session, world, ran, playing, framed, registry_agrees ran playing framed⟩
  · cases fine

end Arcade
