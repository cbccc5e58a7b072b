import Arcade.Proofs.Ownership
import Arcade.Proofs.Stirring

/-! A rule that removes an actor removes nobody else. What goes by the id of an actor is dropped with it
only while the id still means it, so that whoever took the id over, or shares it or a group with the
actor, is left as it was. To remove somebody who is gone changes nothing. -/

namespace Arcade

variable {S T : Type}

theorem Registry.hasGroup_forget (registry : Registry S T) (id name : String) (handle : Handle)
    (group : Option String) :
    (registry.forget id handle group).hasGroup name = registry.hasGroup name := by
  cases group with
  | none => rfl
  | some left =>
    simp only [hasGroup, forget, Index.contains, Index.get?_modify]
    split
    · rename_i same
      rw [same, Option.isSome_map]
    · rfl

namespace World

variable {may : World S T → Deed S → Prop} {world before after between : World S T}
  {others : List Handle} {registry : Registry S T} {target : Handle}

/-- An actor is gone with all that goes by it, and everything else is as it was. -/
structure Removes (before : World S T) (target : Handle) (after : World S T) : Prop where
  gone : after.alive target = false
  /-- Everybody else has all the parts that it had. -/
  others : ∀ other, other ≠ target → after.roster.find? other = before.roster.find? other
  /-- What an id means, and what is said under it, is dropped only if it means the actor. -/
  meant : ∀ id, after.handle? id =
    if before.handle? id = some target then none else before.handle? id
  behaviors : ∀ id, after.behaviors.get? id =
    if before.handle? id = some target then none else before.behaviors.get? id
  memories : ∀ id, after.memories.get? id =
    if before.handle? id = some target then none else before.memories.get? id
  /-- The other members of a group stay in their order, and no group goes. -/
  members : ∀ name, (after.registry.getD .empty).members name =
    ((before.registry.getD .empty).members name).filter (· ≠ target)
  groups : ∀ name, (after.registry.getD .empty).hasGroup name =
    (before.registry.getD .empty).hasGroup name
  counts : (after.registry.getD .empty).copies = (before.registry.getD .empty).copies ∧
    (after.registry.getD .empty).shots = (before.registry.getD .empty).shots
  /-- It is told that the actor left, if it was there. -/
  told : after.log = match before.roster.find? target with
    | some actor => before.log.emit (.objectDestroyed actor.id actor.group) (some target)
    | none => before.log
  /-- The rest of the world is the same. -/
  rest : after = { before with
    handles := after.handles
    roster := after.roster
    registry := after.registry
    log := after.log }
  absent : before.alive target = false → after = before

theorem destroy_of_absent (absent : world.roster.find? target = none) :
    world.destroy target = world := by
  rw [destroy, absent]

/-- To remove somebody who is not there removes nobody. -/
theorem removes_absent (named : world.Named others registry) (known : world.registry = some registry)
    (absent : world.roster.find? target = none) : Removes world target world := by
  have unknown : world.roster.who? target = none := by
    rw [Roster.who?, absent]
    rfl
  have meaningless (id : String) : world.handle? id ≠ some target := by
    intro meant
    rw [handle?, known] at meant
    obtain ⟨who, there, -⟩ := named.meant id target meant
    rw [unknown] at there
    cases there
  constructor
  case gone => rw [alive_eq_isSome, unknown, Option.isSome_none]
  case others => exact fun _ _ => rfl
  case meant => exact fun id => (if_neg (meaningless id)).symm
  case behaviors => exact fun id => (if_neg (meaningless id)).symm
  case memories => exact fun id => (if_neg (meaningless id)).symm
  case members =>
    intro name
    symm
    rw [known, Option.getD_some, List.filter_eq_self]
    intro member joined
    have different : member ≠ target := by
      rintro rfl
      obtain ⟨who, there, -⟩ := (named.grouped name member).mp joined
      rw [unknown] at there
      cases there
    exact decide_eq_true different
  case groups => exact fun _ => rfl
  case counts => exact ⟨rfl, rfl⟩
  case told => rw [absent]
  case rest => rfl
  case absent => exact fun _ => rfl

/-- Whoever is there is removed, and nobody else. -/
theorem removes_present (named : world.Named others registry) (good : world.Sound others)
    (known : world.registry = some registry) {actor : Actor S T}
    (found : world.roster.find? target = some actor) :
    Removes world target (world.destroy target) := by
  have removed := removed_destroy good found
  have left := removed.leftFrom
  have names : (world.destroy target).registry =
      some (registry.forget actor.id target actor.group) := by
    rw [removed.registry, known]
    rfl
  have own (id : String) : actor.id = id ∧ world.handle? actor.id = some target ↔
      world.handle? id = some target := by
    constructor
    · rintro ⟨rfl, meant⟩
      exact meant
    · intro meant
      have means := meant
      rw [handle?, known] at means
      obtain ⟨who, there, same⟩ := named.meant id target means
      rw [removed.present] at there
      cases there
      have goesBy : actor.id = id := same
      rw [goesBy]
      exact ⟨rfl, meant⟩
  constructor
  case gone =>
    rw [alive, Roster.contains, find?_destroy good, if_pos rfl, Option.isSome_none]
  case others =>
    intro other different
    rw [find?_destroy good, if_neg different.symm]
  case meant =>
    intro id
    rw [left.meant]
    exact if_congr (own id) rfl rfl
  case behaviors =>
    intro id
    rw [left.behaviors]
    exact if_congr (own id) rfl rfl
  case memories =>
    intro id
    rw [left.memories]
    exact if_congr (own id) rfl rfl
  case members =>
    intro name
    rw [names, known, Option.getD_some, Option.getD_some]
    exact named.members_death removed.present name
  case groups =>
    intro name
    rw [names, known, Option.getD_some, Option.getD_some, Registry.hasGroup_forget]
  case counts =>
    rw [names, known]
    exact ⟨rfl, rfl⟩
  case told =>
    rw [found, destroy, found]
    simp only [known, emit]
  case rest =>
    rw [destroy, found]
    simp only [known, emit]
  case absent =>
    intro absent
    rw [alive, Roster.contains, found] at absent
    cases absent

theorem removes_destroy (named : world.Named others registry) (good : world.Sound others)
    (known : world.registry = some registry) (target : Handle) :
    Removes world target (world.destroy target) := by
  cases found : world.roster.find? target with
  | none =>
    rw [destroy_of_absent found]
    exact removes_absent named known found
  | some actor => exact removes_present named good known found

variable [Scalar S] [Scalar T] [Circular S] [Sampling S] [Rounding T S]

/-- Whatever was done before, and however far a frame and what it does have come: an effect that
removes its target removes nobody else. Others keep all their parts, their ids with the behaviors and
memories under them, and their places in groups, also if they share an id or a group with the target or
took its id over; and a target that is gone is removed without any change. Where points are counted
first, it is so from then on. -/
theorem Lived.removes_target {session : Session} {contacts : Option (List Contact)}
    (lived : world.Lived others) (playing : world.playing = some session)
    (course : Course may { world with contacts } between) (target : Handle) :
    Removes between target (between.execute .destroy (some target)) ∧
      ∀ points, Removes (between.addPoints points) target
        (between.execute (.updateScore points) (some target)) := by
  obtain ⟨registry, known, named⟩ := lived.named playing
  have still : World.Sound { world with contacts } others := lived.sound
  obtain ⟨later, found, named⟩ := (named.contacts contacts).course still known course
  have good : between.Sound others := course.sound still
  refine ⟨removes_destroy named good found target, fun points => ?_⟩
  have same := (quiet_addPoints between points).names
  exact removes_destroy (named.quiet same) (good.of_sameNames same) (same.registry.trans found) target

end World

/-- Of two crates of one name the first is removed in the middle of a frame, when the second has its
name. -/
theorem World.Lived.removes_target_crate :
    ∃ (cabinet : Cabinet Float32 Float) (world : World Float32 Float) (target other : Handle),
      (Cabinet.new Sample.entropy none (Option.map Screen.start none)).run
          [.start Sample.spec .default, .step none 5] = .ok cabinet ∧
        cabinet.world.runPhases none 25 (Phase.order.take 6) = .ok world ∧
        (world.roster.find? target).map (·.id) = some "crate" ∧
        world.handle? "crate" = some other ∧ target ≠ other ∧
        World.Removes world target (world.execute .destroy (some target)) ∧
        World.Removes (world.addPoints 5) target (world.execute (.updateScore 5) (some target)) := by
  have fine : ((Cabinet.new Sample.entropy none (Option.map Screen.start none) : Cabinet Float32 Float).run
      [.start Sample.spec .default, .step none 5]).toOption.any (fun cabinet =>
        decide (cabinet.world.playing = some ⟨1, "main", "Coins"⟩) &&
          (cabinet.world.runPhases none 25 (Phase.order.take 6)).toOption.any fun world =>
            (world.handle? "crate").any fun other => world.roster.handles.any fun target =>
              decide ((world.roster.find? target).map (·.id) = some "crate" ∧ target ≠ other)) =
      true := by decide +kernel
  obtain ⟨cabinet, ran, fine⟩ := exists_ok_of_any fine
  obtain ⟨active, fine⟩ := (Bool.and_eq_true _ _).mp fine
  obtain ⟨world, framed, fine⟩ := exists_ok_of_any fine
  obtain ⟨other, meant, fine⟩ := Option.any_eq_true _ _ |>.mp fine
  obtain ⟨target, -, fine⟩ := List.any_eq_true.mp fine
  obtain ⟨there, different⟩ := of_decide_eq_true fine
  obtain ⟨lived, still⟩ := World.Lived.phases (Cabinet.alive_of_run ran)
    (of_decide_eq_true active) framed
  have same : World.Course Deed.OfNothing world world := .refl world
  obtain ⟨removes, counted⟩ := World.Lived.removes_target lived still same target
  exact ⟨cabinet, world, target, other, ran, framed, there, meant, different, removes,
    counted 5⟩

end Arcade
