import Arcade.Proofs.Copying

/-! What comes into a world when a blueprint is made: one actor, who has all its parts from the start,
and its name. -/

namespace Arcade

variable {S T : Type} [Scalar S]

/-- The actor that a blueprint makes. The keys it names are looked up among those that are known. -/
def Spec.Blueprint.newcomer (blueprint : Spec.Blueprint S) (keys : KeyCache) (look : Appearance S)
    (handle : Handle) (id : String) (position : Vec S) : Actor S T where
  handle := handle
  id := id
  group := none
  transient := false
  position := position
  size := look.size
  visual := look.visual
  text := look.text
  body := blueprint.body.bind Body.ofSpec?
  drift := none
  controls := blueprint.controls.map fun controls => (Controls.bind keys controls).2
  drawing := none
  moved := true
  rewritten := true

/-! ### Keys -/

namespace KeyCache

variable {cache : KeyCache}

theorem Faithful.resolveOption (faithful : cache.Faithful) (name : Option String) :
    (cache.resolveOption name).1.Faithful := by
  cases name with
  | none => exact faithful
  | some name => exact faithful.resolve name

/-- What is remembered of keys changes no look-up. -/
theorem Faithful.resolveOption_eq (faithful : cache.Faithful) (name : Option String) :
    (cache.resolveOption name).2 = name.bind Key.parse? := by
  cases name with
  | none => rfl
  | some name => exact faithful.resolve_eq_parse? name

theorem Faithful.bind (faithful : cache.Faithful)
    (controls : Spec.Controls S (Spec.Blueprint S)) :
    (Controls.bind (T := T) cache controls).1.Faithful :=
  (((((faithful.resolveOption _).resolveOption _).resolveOption _).resolveOption _).resolveOption
    _).resolveOption _

/-- The keys of an object are those that its key names stand for, whatever is remembered. -/
theorem Faithful.bind_eq (faithful : cache.Faithful)
    (controls : Spec.Controls S (Spec.Blueprint S)) :
    (Controls.bind cache controls).2 = ({
      left := controls.left.bind Key.parse?
      right := controls.right.bind Key.parse?
      up := controls.up.bind Key.parse?
      down := controls.down.bind Key.parse?
      jump := controls.jump.bind Key.parse?
      shoot := controls.shoot.bind Key.parse?
      speed := controls.speed.getD Controls.defaultSpeed
      jumpVelocity := controls.jumpVelocity.getD Controls.defaultJump
      projectile := controls.projectile
      lastShot := none } : Controls S T) := by
  have left := faithful.resolveOption controls.left
  have right := left.resolveOption controls.right
  have up := right.resolveOption controls.up
  have down := up.resolveOption controls.down
  have jump := down.resolveOption controls.jump
  simp only [Controls.bind, faithful.resolveOption_eq, left.resolveOption_eq,
    right.resolveOption_eq, up.resolveOption_eq, down.resolveOption_eq, jump.resolveOption_eq]

end KeyCache

/-! ### Making -/

namespace World

variable {before middle after world : World S T} {others : List Handle}
  {blueprint : Spec.Blueprint S} {id : String} {position : Vec S} {handle : Handle}
  {actor : Actor S T}

/-- An actor is under a handle, and all others are as they were. -/
def Welcomes (before : World S T) (handle : Handle) (actor : Actor S T) (after : World S T) : Prop :=
  ∀ other, after.roster.find? other =
    if handle = other then some actor else before.roster.find? other

omit [Scalar S] in
theorem Welcomes.of_roster (welcomes : Welcomes before handle actor middle)
    (same : after.roster = middle.roster) : Welcomes before handle actor after := by
  rw [Welcomes, same]
  exact welcomes

omit [Scalar S] in
/-- The new actor is changed. -/
theorem Welcomes.update (welcomes : Welcomes before handle actor middle) (sound : middle.Sound others)
    {change : Actor S T → Actor S T} (keeps : ∀ actor, (change actor).handle = actor.handle) :
    Welcomes before handle (change actor)
      { middle with roster := middle.roster.update handle change } := by
  intro other
  rw [Roster.find?_update sound.distinct keeps, welcomes other]
  split
  · rfl
  · rfl

omit [Scalar S] in
theorem welcomes_appear (sound : before.Sound others) (blueprint : Spec.Blueprint S) (id : String)
    (position : Vec S) (look : Appearance S) :
    Welcomes before before.handles.take.1
      { bareActor before.handles.take.1 id position look with text := look.text }
      (before.appear blueprint id position look).2 := by
  have fresh : before.handles.take.1 ∉ before.roster.handles := by
    intro member
    exact Handles.Sound.take_not_mem sound (List.mem_append_left _ member)
  let bare : Actor S T := bareActor before.handles.take.1 id position look
  let added : World S T := { before with
    handles := before.handles.take.2
    roster := before.roster.add bare
    births := ⟨before.handles.take.1, id, blueprint⟩ :: before.births
    cradles := (before.handles.take.1, position) :: before.cradles }
  have plain : Welcomes before before.handles.take.1 bare added := fun other =>
    Roster.find?_add sound.distinct fresh other
  have arrived : added.Sound others := by
    rw [World.Sound]
    refine Handles.Sound.perm (Handles.Sound.take sound) ?_
    exact ((Roster.handles_add_perm before.roster bare).append_right others).symm
  simp only [appear]
  split
  · rename_i text spoken
    let written : Actor S T → Actor S T := fun actor => { actor with text := some text }
    have keeps : ∀ actor, (written actor).handle = actor.handle := fun _ => rfl
    rw [spoken]
    exact plain.update arrived keeps
  · rename_i silent
    rw [silent]
    exact plain

/-- Who was made, and where. -/
def origins (world : World S T) := (world.births, world.cradles)

omit [Scalar S] in
/-- Names have nothing to do with who is there. -/
theorem people_enter (world : World S T) (id : String) (handle : Handle) :
    (world.enter id handle).roster = world.roster ∧
      (world.enter id handle).keys = world.keys ∧
      (world.enter id handle).origins = world.origins := by
  simp only [enter]
  split
  · simp only [origins, report, emit, withRegistry, and_self]
  · exact ⟨rfl, rfl, rfl⟩

omit [Scalar S] in
theorem people_instruct (world : World S T) (id : String) (blueprint : Spec.Blueprint S) :
    (world.instruct id blueprint).roster = world.roster ∧
      (world.instruct id blueprint).keys = world.keys ∧
      (world.instruct id blueprint).origins = world.origins := by
  unfold instruct
  split <;> exact ⟨rfl, rfl, rfl⟩

theorem Welcomes.embody (welcomes : Welcomes before handle actor middle) (sound : middle.Sound others)
    (bodiless : actor.body = none) (body : Option (Spec.Body S)) :
    Welcomes before handle { actor with body := body.bind Body.ofSpec? }
      (middle.embody handle body) := by
  unfold World.embody
  split
  · rename_i form asked
    let embodied : Actor S T → Actor S T := fun actor => { actor with body := some form }
    have keeps : ∀ actor, (embodied actor).handle = actor.handle := fun _ => rfl
    rw [asked]
    exact welcomes.update sound keeps
  · rename_i asked
    rw [asked, ← bodiless]
    exact welcomes

theorem people_embody (world : World S T) (handle : Handle) (body : Option (Spec.Body S)) :
    (world.embody handle body).keys = world.keys ∧
      (world.embody handle body).origins = world.origins := by
  unfold embody
  split <;> exact ⟨rfl, rfl⟩

theorem Welcomes.attach (welcomes : Welcomes before handle actor middle) (sound : middle.Sound others)
    (free : actor.controls = none) (controls : Option (Spec.Controls S (Spec.Blueprint S))) :
    Welcomes before handle
      { actor with controls := controls.map fun controls => (Controls.bind middle.keys controls).2 }
      (middle.attach handle controls) := by
  unfold World.attach
  cases controls with
  | none =>
    rw [Option.map_none, ← free]
    exact welcomes
  | some controls =>
    let attached : Actor S T → Actor S T :=
      fun actor => { actor with controls := some (Controls.bind middle.keys controls).2 }
    have keeps : ∀ actor, (attached actor).handle = actor.handle := fun _ => rfl
    exact (welcomes.update sound keeps).of_roster rfl

theorem people_attach (world : World S T) (handle : Handle)
    (controls : Option (Spec.Controls S (Spec.Blueprint S))) :
    (world.keys.Faithful → (world.attach handle controls).keys.Faithful) ∧
      (world.attach handle controls).origins = world.origins := by
  unfold World.attach
  cases controls with
  | none => exact ⟨id, rfl⟩
  | some controls => exact ⟨fun faithful => faithful.bind (T := T) controls, rfl⟩

/-- Whoever is made appears under the next handle, gets its name, its body and its keys, and then its
name gets a behavior. -/
theorem eq_of_create (made : before.create blueprint id position = .ok (.actor handle, after)) :
    ∃ look, blueprint.appearance? = .ok (some look) ∧ handle = before.handles.take.1 ∧
      after = ((((before.appear blueprint id position look).2.enter id handle).embody handle
        blueprint.body).attach handle blueprint.controls).instruct id blueprint := by
  unfold create at made
  split at made
  · cases made
  · rename_i payload read
    split at made
    · cases made
    · rename_i look seen
      simp only [Except.ok.injEq, Prod.mk.injEq, Created.actor.injEq] at made
      obtain ⟨rfl, rfl⟩ := made
      refine ⟨look, ?_, rfl, rfl⟩
      rw [Spec.Blueprint.appearance?, read, ← seen]
      rfl

/-- Whoever is made is there with all its parts, and the others are as they were. -/
theorem welcomes_create (sound : before.Sound others)
    (made : before.create blueprint id position = .ok (.actor handle, after)) :
    ∃ look, blueprint.appearance? = .ok (some look) ∧
      Welcomes before handle (blueprint.newcomer before.keys look handle id position) after := by
  obtain ⟨look, seen, rfl, rfl⟩ := eq_of_create made
  refine ⟨look, seen, ?_⟩
  have taken : (before.appear blueprint id position look).1 = before.handles.take.1 := rfl
  have known : (before.appear blueprint id position look).2.keys = before.keys := rfl
  have made := made_appear sound blueprint id position look
  have appeared := welcomes_appear sound blueprint id position look
  rw [← taken] at appeared ⊢
  generalize before.appear blueprint id position look = arrival at appeared made known ⊢
  obtain ⟨newcomer, arrived⟩ := arrival
  obtain ⟨sameRoster, sameKeys, -⟩ := people_enter arrived id newcomer
  have entered := made_enter made id
  have embodied := entered.quiet (quiet_embody (entered.sound sound) newcomer blueprint.body)
  have named := (appeared.of_roster sameRoster).embody (entered.sound sound) rfl blueprint.body
  have steered := named.attach (embodied.sound sound) rfl blueprint.controls
  rw [(people_embody _ newcomer blueprint.body).1, sameKeys, known] at steered
  exact steered.of_roster (people_instruct _ id blueprint).1

/-- It is noted who was made, and where. -/
theorem origins_create (made : before.create blueprint id position = .ok (.actor handle, after)) :
    after.origins = (⟨handle, id, blueprint⟩ :: before.births, (handle, position) :: before.cradles) := by
  obtain ⟨look, -, rfl, rfl⟩ := eq_of_create made
  rw [(people_instruct _ _ _).2.2, (people_attach _ _ _).2, (people_embody _ _ _).2,
    (people_enter _ _ _).2.2]
  rfl

/-- What is known of keys stays true. -/
theorem faithful_create (faithful : before.keys.Faithful)
    (made : before.create blueprint id position = .ok (.actor handle, after)) :
    after.keys.Faithful := by
  obtain ⟨look, -, rfl, rfl⟩ := eq_of_create made
  rw [(people_instruct _ _ _).2.1]
  apply (people_attach _ _ _).1
  rw [(people_embody _ _ _).1, (people_enter _ _ _).2.1]
  exact faithful

/-! ### What is told, and what is left alone -/

/-- What is in a scene besides actors and names. -/
def furniture (world : World S T) :=
  (world.clock, world.arena, world.board, world.manifest, world.alarms, world.nests, world.random,
    world.spec, world.library)

/-- What actors have to do with each other. -/
def dealings (world : World S T) := (world.bindings, world.shots, world.contacts)

omit [Scalar S] in
theorem furniture_enter (world : World S T) (id : String) (handle : Handle) :
    (world.enter id handle).furniture = world.furniture ∧
      (world.enter id handle).dealings = world.dealings := by
  simp only [enter]
  split
  · simp only [furniture, dealings, report, emit, withRegistry, and_self]
  · exact ⟨rfl, rfl⟩

omit [Scalar S] in
/-- That an id means somebody else who is there is told. -/
theorem news_enter (world : World S T) (id : String) (handle : Handle) :
    (world.enter id handle).news =
      if (world.handle? id).any fun other => other ≠ handle && world.alive other then
        (world.report (.duplicateObjectId id)).news
      else world.news := by
  simp only [enter]
  split
  · exact news_report rfl _
  · rfl

omit [Scalar S] in
theorem silent_instruct (world : World S T) (id : String) (blueprint : Spec.Blueprint S) :
    (world.instruct id blueprint).news = world.news ∧
      (world.instruct id blueprint).furniture = world.furniture ∧
      (world.instruct id blueprint).dealings = world.dealings := by
  unfold instruct
  split <;> exact ⟨rfl, rfl, rfl⟩

theorem silent_embody (world : World S T) (handle : Handle) (body : Option (Spec.Body S)) :
    (world.embody handle body).news = world.news ∧
      (world.embody handle body).furniture = world.furniture ∧
      (world.embody handle body).dealings = world.dealings := by
  unfold embody
  split <;> exact ⟨rfl, rfl, rfl⟩

theorem silent_attach (world : World S T) (handle : Handle)
    (controls : Option (Spec.Controls S (Spec.Blueprint S))) :
    (world.attach handle controls).news = world.news ∧
      (world.attach handle controls).furniture = world.furniture ∧
      (world.attach handle controls).dealings = world.dealings := by
  unfold World.attach
  split <;> exact ⟨rfl, rfl, rfl⟩

/-- When somebody is made, nothing is told but that the name is somebody else's who is there. -/
theorem news_create (sound : before.Sound others)
    (made : before.create blueprint id position = .ok (.actor handle, after)) :
    after.news = if (before.handle? id).any before.alive then
      (before.report (.duplicateObjectId id)).news else before.news := by
  obtain ⟨look, -, rfl, rfl⟩ := eq_of_create made
  have appeared := welcomes_appear sound blueprint id position look
  have told : (before.appear blueprint id position look).2.news = before.news := rfl
  have meant : (before.appear blueprint id position look).2.handle? id = before.handle? id := rfl
  have present (other : Handle) : (other ≠ before.handles.take.1 &&
      (before.appear blueprint id position look).2.alive other) = before.alive other := by
    rw [alive, Roster.contains, appeared other]
    by_cases hit : before.handles.take.1 = other
    · have absent : before.handles.take.1 ∉ before.roster.handles := fun member =>
        Handles.Sound.take_not_mem sound (List.mem_append_left _ member)
      rw [← hit, alive, Roster.contains, Roster.find?_eq_none_iff.mpr absent]
      simp
    · rw [if_neg hit, alive, Roster.contains]
      simp [Ne.symm hit]
  rw [(silent_instruct _ _ _).1, (silent_attach _ _ _).1, (silent_embody _ _ _).1, news_enter,
    meant, told]
  simp only [present]
  split
  · exact news_report told _
  · rfl

/-- Whoever is made leaves the scene as it is. -/
theorem furniture_create (made : before.create blueprint id position = .ok (.actor handle, after)) :
    after.furniture = before.furniture ∧ after.dealings = before.dealings := by
  obtain ⟨look, -, rfl, rfl⟩ := eq_of_create made
  rw [(silent_instruct _ _ _).2.1, (silent_attach _ _ _).2.1, (silent_embody _ _ _).2.1,
    (furniture_enter _ _ _).1, (silent_instruct _ _ _).2.2, (silent_attach _ _ _).2.2,
    (silent_embody _ _ _).2.2, (furniture_enter _ _ _).2]
  exact ⟨rfl, rfl⟩

end World

end Arcade
