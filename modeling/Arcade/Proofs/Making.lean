import Arcade.Proofs.Change

/-! The making of an actor, its adoption by a group, and its end: what each of them does to the names
of a world. -/

namespace Arcade

/-! ### Entries of the registry -/

namespace Registry

variable {S T : Type}

/-- The registry after a new actor came under an id: the id means it, and has the behavior of its
blueprint if there is one. -/
def entered (registry : Registry S T) (blueprint : Spec.Blueprint S) (id : String)
    (handle : Handle) : Registry S T :=
  match blueprint.behavior with
  | some kind =>
    (registry.register id handle).assign id ⟨kind, blueprint.parameters.getD .null⟩
  | none => registry.register id handle

/-- The registry after a new actor came under an id and joined a group, if it has one. -/
def joined (registry : Registry S T) (blueprint : Spec.Blueprint S) (id : String)
    (group : Option String) (handle : Handle) : Registry S T :=
  match group with
  | some name => (registry.entered blueprint id handle).joinGroup name handle
  | none => registry.entered blueprint id handle

/-- No id and no group means anything else, and behaviors and what they remember are the same. -/
structure Noted (before after : Registry S T) : Prop where
  objects : after.objects = before.objects
  members : after.members = before.members
  behaviors : after.behaviors = before.behaviors
  memories : after.memories = before.memories

theorem noted_ensureGroup (registry : Registry S T) (name : String) :
    Noted registry (registry.ensureGroup name) where
  objects := rfl
  members := funext fun other => members_ensureGroup registry name other
  behaviors := rfl
  memories := rfl

theorem noted_countCopy (registry : Registry S T) (spawner : String) :
    Noted registry (registry.countCopy spawner) := ⟨rfl, rfl, rfl, rfl⟩

theorem noted_countShot (registry : Registry S T) (owner : String) :
    Noted registry (registry.countShot owner) := ⟨rfl, rfl, rfl, rfl⟩

end Registry

/-! ### Making -/

namespace World

variable {S T : Type} {before middle after world : World S T} {others : List Handle}
  {blueprint : Spec.Blueprint S} {identity : Identity S} {id : String} {handle : Handle}
  {registry : Option (Registry S T)}

/-- An actor was made: it stands under the handle that was to be taken next, and the names are those
of a registry. -/
structure Made (before : World S T) (blueprint : Spec.Blueprint S) (identity : Identity S)
    (handle : Handle) (registry : Option (Registry S T)) (after : World S T) : Prop where
  taken : handle = before.handles.take.1
  handles : after.handles = before.handles.take.2
  held : after.roster.handles.Perm (handle :: before.roster.handles)
  who : ∀ other, after.roster.who? other =
    if handle = other then some identity else before.roster.who? other
  births : after.births = ⟨handle, identity.id, blueprint⟩ :: before.births
  registry : after.registry = registry
  scene : SameScene before after
  scenery : after.scenery = before.scenery
  contacts : after.contacts = before.contacts
  traffic : after.traffic =
    (identity.group.map (Signal.objectSpawned identity.id)).toList ++ before.traffic

theorem Made.sound (made : Made before blueprint identity handle registry after)
    (sound : before.Sound others) : after.Sound others := by
  rw [World.Sound, made.handles]
  refine Handles.Sound.perm (Handles.Sound.take sound) ?_
  rw [← made.taken]
  exact made.held.symm.append_right others

theorem Made.spent (made : Made before blueprint identity handle registry after) {spent : Handle}
    (gone : before.Spent others spent) : after.Spent others spent := by
  rw [World.Spent, made.handles]
  refine Handles.Spent.perm (Handles.Spent.take gone) ?_
  rw [← made.taken]
  exact made.held.symm.append_right others

theorem Made.quiet (made : Made before blueprint identity handle registry middle)
    (quiet : Quiet middle after) : Made before blueprint identity handle registry after where
  taken := made.taken
  handles := quiet.names.handles.trans made.handles
  held := quiet.names.held.trans made.held
  who other := (congrFun quiet.names.who other).trans (made.who other)
  births := quiet.names.births.trans made.births
  registry := quiet.names.registry.trans made.registry
  scene := made.scene.trans quiet.scene
  scenery := quiet.scenery.trans made.scenery
  contacts := quiet.contacts.trans made.contacts
  traffic := quiet.traffic.trans made.traffic

theorem Made.withRegistry (made : Made before blueprint identity handle registry middle)
    (change : Registry S T → Registry S T) :
    Made before blueprint identity handle (some (change (registry.getD .empty)))
      (middle.withRegistry change) where
  taken := made.taken
  handles := made.handles
  held := made.held
  who := made.who
  births := made.births
  registry := by rw [World.withRegistry, made.registry]
  scene := made.scene.trans
    ⟨rfl, rfl, rfl, rfl, fun part there => by cases part <;> first | exact there | rfl⟩
  scenery := made.scenery
  contacts := made.contacts
  traffic := made.traffic

/-- Nobody was under the handle of a new actor. -/
theorem Made.fresh (made : Made before blueprint identity handle registry after)
    (sound : before.Sound others) : handle ∉ before.roster.handles := by
  rw [made.taken]
  intro member
  exact Handles.Sound.take_not_mem sound (List.mem_append_left _ member)

/-- Who was known stays known. -/
theorem Made.who_of_before (made : Made before blueprint identity handle registry after)
    (unknown : before.roster.who? handle = none) {other : Handle} {who : Identity S}
    (known : before.roster.who? other = some who) : after.roster.who? other = some who := by
  have different : handle ≠ other := by
    intro same
    rw [← same, unknown] at known
    cases known
  rw [made.who, if_neg different]
  exact known

/-- Whoever is known is the new one, or was known before. -/
theorem Made.new_or_before (made : Made before blueprint identity handle registry after)
    {other : Handle} {who : Identity S} (known : after.roster.who? other = some who) :
    (other = handle ∧ who = identity) ∨ before.roster.who? other = some who := by
  rw [made.who] at known
  by_cases same : handle = other
  · rw [if_pos same] at known
    exact .inl ⟨same.symm, (Option.some.inj known).symm⟩
  · rw [if_neg same] at known
    exact .inr known

/-- A new actor that is changed is known as what the change makes of it, and is told of as that. -/
theorem Made.changed (made : Made before blueprint identity handle registry middle)
    (sound : middle.Sound others) {change : Actor S T → Actor S T} {other : Identity S}
    {log : Log Signal} (keeps : ∀ actor, (change actor).handle = actor.handle)
    (same : other.id = identity.id)
    (becomes : ∀ actor, actor.identity = identity → (change actor).identity = other)
    (told : log.history.filter Signal.ofTraffic =
      (other.group.map (Signal.objectSpawned other.id)).toList ++ before.traffic) :
    Made before blueprint other handle registry
      { middle with roster := middle.roster.update handle change, log } where
  taken := made.taken
  handles := made.handles
  held := (Roster.handles_update_perm sound.distinct keeps handle).trans made.held
  who stranger := by
    rw [Roster.who?, Roster.find?_update sound.distinct keeps]
    by_cases hit : handle = stranger
    · subst hit
      have known : middle.roster.who? handle = some identity := by
        rw [made.who, if_pos rfl]
      obtain ⟨actor, found, own⟩ := Option.map_eq_some_iff.mp known
      rw [if_pos rfl, if_pos rfl, found]
      exact congrArg some (becomes actor own)
    · have others := made.who stranger
      rw [if_neg hit] at others
      rw [if_neg hit, if_neg hit]
      exact others
  births := by
    rw [same]
    exact made.births
  registry := made.registry
  scene := made.scene.trans ⟨rfl, rfl, rfl, rfl, fun part there => by cases part <;> exact there⟩
  scenery := made.scenery
  contacts := made.contacts
  traffic := told

theorem made_enter (made : Made before blueprint identity handle registry middle)
    (id : String) :
    Made before blueprint identity handle (some ((registry.getD .empty).register id handle))
      (middle.enter id handle) := by
  have registered := made.withRegistry fun registry => registry.register id handle
  simp only [enter]
  split
  · exact registered.quiet (quiet_report _ _)
  · exact registered

theorem made_instruct (made : Made before blueprint identity handle registry middle)
    (id : String) :
    Made before blueprint identity handle
      (match blueprint.behavior with
        | some kind => some ((registry.getD .empty).assign id ⟨kind, blueprint.parameters.getD .null⟩)
        | none => registry)
      (middle.instruct id blueprint) := by
  rw [instruct]
  cases blueprint.behavior with
  | some kind =>
    exact made.withRegistry fun registry =>
      registry.assign id ⟨kind, blueprint.parameters.getD .null⟩
  | none => exact made

/-- What is new in an appearance is an actor of which only the look is known. -/
theorem made_appear (sound : before.Sound others) (blueprint : Spec.Blueprint S) (id : String)
    (position : Vec S) (look : Appearance S) :
    Made before blueprint ⟨id, none, false, none⟩ (before.appear blueprint id position look).1
      before.registry
      (before.appear blueprint id position look).2 := by
  have fresh : before.handles.take.1 ∉ before.roster.handles := by
    intro member
    exact Handles.Sound.take_not_mem sound (List.mem_append_left _ member)
  let bare : Actor S T := bareActor before.handles.take.1 id position look
  have plain : Made before blueprint ⟨id, none, false, none⟩ before.handles.take.1 before.registry
      { before with
        handles := before.handles.take.2
        roster := before.roster.add bare
        births := ⟨before.handles.take.1, id, blueprint⟩ :: before.births
        cradles := (before.handles.take.1, position) :: before.cradles } := by
    refine ⟨rfl, rfl, Roster.handles_add_perm before.roster bare, ?_, rfl, rfl,
      ⟨rfl, rfl, rfl, rfl, fun part there => by cases part <;> exact there⟩, rfl, rfl, rfl⟩
    intro other
    rw [Roster.who?, Roster.find?_add sound.distinct fresh]
    exact apply_ite (Option.map Actor.identity) _ _ _
  simp only [appear]
  split
  · refine plain.quiet (quiet_update (plain.sound sound) ?_ _)
    exact fun _ => ⟨rfl, rfl⟩
  · exact plain

/-! ### Adoption -/

/-- A new actor that is adopted is a copy, and the last member of its group. -/
theorem made_adopt {weapon : Option (Spec.Blueprint S)}
    (made : Made before blueprint ⟨id, none, false, weapon⟩ handle registry middle)
    (sound : middle.Sound others) (group : String) :
    Made before blueprint ⟨id, some group, true, weapon⟩ handle
      (some ((registry.getD .empty).joinGroup group handle)) (middle.adopt handle group) := by
  have known : middle.roster.who? handle = some ⟨id, none, false, weapon⟩ := by
    rw [made.who, if_pos rfl]
  obtain ⟨actor, found, own⟩ := Option.map_eq_some_iff.mp known
  let mark : Actor S T → Actor S T :=
    fun actor => { actor with group := some group, transient := true }
  have named : actor.id = id := congrArg Identity.id own
  have marked : Made before blueprint ⟨id, some group, true, weapon⟩ handle registry
      { middle with
        roster := middle.roster.update handle mark
        log := middle.log.emit (.objectSpawned actor.id group) (some handle) } := by
    refine made.changed sound (fun _ => rfl) rfl ?_ ?_
    · intro actor own
      exact congrArg (fun who : Identity S => Identity.mk who.id (some group) true who.weapon) own
    · rw [named]
      exact (traffic_emit middle _ _).trans (congrArg (_ :: ·) made.traffic)
  rw [adopt, found]
  exact marked.withRegistry fun registry => registry.joinGroup group handle

/-! ### The end of an actor -/

/-- An actor was removed, and all that goes by its name. -/
structure Removed (before : World S T) (handle : Handle) (identity : Identity S)
    (after : World S T) : Prop where
  present : before.roster.who? handle = some identity
  handles : after.handles = before.handles.release handle
  held : before.roster.handles.Perm (handle :: after.roster.handles)
  who : ∀ other, after.roster.who? other =
    if handle = other then none else before.roster.who? other
  births : after.births = before.births
  registry : after.registry = before.registry.map fun registry =>
    registry.forget identity.id handle identity.group
  scene : SameScene before after
  scenery : after.scenery = before.scenery
  contacts : after.contacts = before.contacts
  traffic : after.traffic =
    (before.registry.map fun _ => Signal.objectDestroyed identity.id identity.group).toList ++
      before.traffic

theorem Removed.sound (removed : Removed before handle identity after)
    (sound : before.Sound others) : after.Sound others := by
  rw [World.Sound, removed.handles]
  apply Handles.Sound.release
  exact Handles.Sound.perm sound (removed.held.append_right others)

theorem Removed.spent (removed : Removed before handle identity after) {spent : Handle}
    (gone : before.Spent others spent) : after.Spent others spent := by
  rw [World.Spent, removed.handles]
  apply Handles.Spent.release
  exact Handles.Spent.perm gone (removed.held.append_right others)

/-- The handle of an actor that was removed is spent. -/
theorem Removed.spent_self (removed : Removed before handle identity after)
    (sound : before.Sound others) : after.Spent others handle := by
  rw [World.Spent, removed.handles]
  apply Handles.Sound.spent_release
  exact Handles.Sound.perm sound (removed.held.append_right others)

/-- The others stay known. -/
theorem Removed.who_of_before (removed : Removed before handle identity after) {other : Handle}
    {who : Identity S} (different : other ≠ handle) (known : before.roster.who? other = some who) :
    after.roster.who? other = some who := by
  rw [removed.who, if_neg different.symm]
  exact known

/-- Whoever is known is one of the others, and was known before. -/
theorem Removed.before_of_who (removed : Removed before handle identity after) {other : Handle}
    {who : Identity S} (known : after.roster.who? other = some who) :
    other ≠ handle ∧ before.roster.who? other = some who := by
  rw [removed.who] at known
  by_cases same : handle = other
  · rw [if_pos same] at known
    cases known
  · rw [if_neg same] at known
    exact ⟨Ne.symm same, known⟩

theorem removed_destroy (sound : world.Sound others) {actor : Actor S T}
    (found : world.roster.find? handle = some actor) :
    Removed world handle actor.identity (world.destroy handle) := by
  have known : world.roster.who? handle = some actor.identity := by
    rw [Roster.who?, found]
    rfl
  have present : handle ∈ world.roster.handles := by
    rw [Roster.mem_handles_iff, Roster.contains, found]
    rfl
  have held := Roster.handles_remove_perm sound.distinct present
  have who : ∀ other, (world.roster.remove handle).who? other =
      if handle = other then none else world.roster.who? other := by
    intro other
    rw [Roster.who?, Roster.find?_remove sound.distinct]
    exact apply_ite (Option.map Actor.identity) _ _ _
  rw [destroy, found]
  simp only
  split
  · rename_i nameless
    exact ⟨known, rfl, held, who, rfl, by rw [nameless]; rfl,
      ⟨rfl, rfl, rfl, rfl, fun part there => by cases part <;> exact there⟩, rfl, rfl,
      by rw [nameless]; rfl⟩
  · rename_i registry names
    refine ⟨known, rfl, held, who, rfl, by rw [names]; rfl,
      ⟨rfl, rfl, rfl, rfl, fun part there => by cases part <;> first | exact there | rfl⟩, rfl, rfl, ?_⟩
    rw [traffic_emit, names]
    rfl

/-! ### Blueprints -/

variable [Scalar S]

theorem quiet_embody (sound : world.Sound others) (handle : Handle)
    (body : Option (Spec.Body S)) : Quiet world (world.embody handle body) := by
  unfold embody
  split
  · refine quiet_update sound ?_ handle
    exact fun _ => ⟨rfl, rfl⟩
  · exact .refl world

/-- A new actor under controls shoots what they say. -/
theorem made_attach (made : Made before blueprint ⟨id, none, false, none⟩ handle registry middle)
    (sound : middle.Sound others) :
    Made before blueprint ⟨id, none, false, blueprint.weapon?⟩ handle registry
      (middle.attach handle blueprint.controls) := by
  unfold attach Spec.Blueprint.weapon?
  cases blueprint.controls with
  | none => exact made
  | some controls =>
    let bound : KeyCache × Controls S T := Controls.bind middle.keys controls
    have armed : ∀ actor : Actor S T, actor.identity = ⟨id, none, false, none⟩ →
        Actor.identity { actor with controls := some bound.2 } =
          ⟨id, none, false, controls.projectile⟩ := by
      intro actor own
      exact congrArg (fun who : Identity S =>
        Identity.mk who.id who.group who.transient controls.projectile) own
    have keyed := made.quiet (quiet_keys middle bound.1)
    exact keyed.changed sound (fun _ => rfl) rfl armed keyed.traffic

/-- Whoever is made comes under its id, with the behavior of its blueprint. -/
theorem made_create (sound : before.Sound others) {position : Vec S}
    (created : before.create blueprint id position = .ok (.actor handle, after)) :
    Made before blueprint ⟨id, none, false, blueprint.weapon?⟩ handle
      (some ((before.registry.getD .empty).entered blueprint id handle)) after := by
  unfold create at created
  split at created
  · cases created
  · split at created
    · cases created
    · rename_i look _
      simp only [Except.ok.injEq, Prod.mk.injEq, Created.actor.injEq] at created
      obtain ⟨rfl, rfl⟩ := created
      have appeared := made_appear sound blueprint id position look
      generalize before.appear blueprint id position look = arrival at appeared ⊢
      obtain ⟨newcomer, arrived⟩ := arrival
      have entered := made_enter appeared id
      have embodied :=
        entered.quiet (quiet_embody (entered.sound sound) newcomer blueprint.body)
      have attached := made_attach embodied (embodied.sound sound)
      have instructed := made_instruct attached id
      unfold Registry.entered
      split at instructed
      · exact instructed
      · exact instructed

/-- A blueprint of a group makes nothing but the group. -/
theorem create_group {position : Vec S} {name : String}
    (created : before.create blueprint id position = .ok (.group name, after)) :
    after = before.withRegistry fun registry => registry.ensureGroup id := by
  unfold create at created
  split at created
  · cases created
  · split at created
    · simp only [Except.ok.injEq, Prod.mk.injEq] at created
      exact created.2.symm
    · cases created

end World

end Arcade
