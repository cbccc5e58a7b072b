import Arcade.Proofs.Stirring
import Arcade.Proofs.Turnover

/-! Actors that nothing is done to. Keys drive only actors with controls, behaviors steer only whom
an id with a behavior means, and the search for contacts pushes only actors that are in a contact it
found. But for free movement an actor that is in none of these keeps its place, its size and its body
in every part of a frame, and it is there until it is the target of a contact or leaves the space. -/

namespace Arcade

variable {S T : Type} {others : List Handle} {handle : Handle}

namespace World

variable {may : World S T → Deed S → Prop} {world before after : World S T} {actor : Actor S T}
  {keyboard : Option (List Key)}

/-- Whoever is not removed is there. -/
theorem Course.alive (course : Course may before after) (good : before.Sound others)
    (spared : ∀ world, ¬ may world (.death handle)) (there : before.alive handle = true) :
    after.alive handle = true := by
  induction course with
  | quiet quiet => exact (quiet.names.alive handle).trans there
  | birth _ made =>
    rw [alive_eq_isSome] at there ⊢
    rw [made.who]
    split
    · rfl
    · exact there
  | @death before _ removedHandle _ allowed removed =>
    have other : removedHandle ≠ handle := by
      rintro rfl
      exact spared before allowed
    rw [alive_eq_isSome] at there ⊢
    rwa [removed.who, if_neg other]
  | note _ _ => exact there
  | record _ _ _ => exact there
  | arrange _ arranged => exact (arranged.names.alive handle).trans there
  | trans first second firstThere secondThere =>
    exact secondThere (first.sound good) (firstThere good there)

/-! ### Keys and behaviors -/

/-- No id that means the actor has a behavior. -/
def Unsteered (handle : Handle) (world : World S T) : Prop :=
  ∀ id, world.handle? id = some handle → world.behaviors.get? id = none

theorem Unsteered.sameOwners (free : before.Unsteered handle) (same : SameOwners before after) :
    after.Unsteered handle := by
  intro id meant
  rw [same.behaviors]
  exact free id ((congrFun same.meant id).symm.trans meant)

/-- An actor that was there gets no behavior. -/
theorem Unsteered.course (free : before.Unsteered handle) (issued : before.Issued others handle)
    (good : before.Sound others) (course : Course may before after) : after.Unsteered handle := by
  induction course with
  | quiet quiet => exact free.sameOwners quiet.names.ids.toSameOwners
  | birth _ made =>
    intro id meant
    rw [made.cameUnder.meant] at meant
    split at meant
    · cases meant
      exact absurd made.taken (issued.ne_take good)
    · rename_i other
      rw [made.cameUnder.behaviors, if_neg other]
      exact free id meant
  | death _ removed =>
    intro id meant
    rw [removed.leftFrom.meant] at meant
    rw [removed.leftFrom.behaviors]
    split
    · rfl
    · rename_i kept
      rw [if_neg kept] at meant
      exact free id meant
  | note _ noted => exact free.sameOwners (sameIds_noted noted).toSameOwners
  | record _ _ memory => exact free.sameOwners (sameOwners_remember _ _ memory)
  | arrange _ arranged => exact free.sameOwners arranged.names.ids.toSameOwners
  | trans first second firstFree secondFree =>
    exact secondFree (firstFree free issued good) (issued.course good first) (first.sound good)

variable [Scalar S]

/-- Without controls an actor is not driven. -/
theorem find?_driveControls [Scalar T] (found : world.roster.find? handle = some actor)
    (free : actor.controls = none) :
    (world.driveControls keyboard).roster.find? handle = some actor := by
  unfold driveControls
  split
  · rename_i pressed clock _ _ _
    have undriven : driven pressed clock.now actor = actor := by
      unfold driven
      rw [free]
      cases actor.body <;> rfl
    change (world.roster.map (driven pressed clock.now)).find? handle = some actor
    rw [Roster.find?_map fun actor => (keeps_driven pressed clock.now actor).1, found,
      Option.map_some, undriven]
  · exact found

section

variable [Scalar T] [Circular S] [Sampling S] [Rounding T S]

theorem meant_steer (world : World S T) (entry : String × Assignment) :
    (world.steer entry).handle? = world.handle? := by
  simp only [steer]
  split
  · rfl
  · split
    · exact (sameOwners_remember _ _ _).meant
    · rfl

/-- A behavior steers the actor that its id means, and no other. -/
theorem find?_steer {entry : String × Assignment} (other : world.handle? entry.1 ≠ some handle) :
    (world.steer entry).roster.find? handle = world.roster.find? handle := by
  simp only [steer]
  split
  · rfl
  · rename_i steered steering found
    simp only [Option.bind_eq_bind, Option.bind_eq_some_iff] at found
    obtain ⟨clock, -, registry, named, random, -, meant, means, actor, -, body, -, found⟩ := found
    have differs : steered ≠ handle := by
      rintro rfl
      split at found
      · simp only [Option.some.injEq, Prod.mk.injEq] at found
        rw [← found.1] at other
        exact other (by rw [handle?, named]; exact means)
      · cases found
    have keeps (actor : Actor S T) :
        (actor.withVelocity steering.velocity).handle = actor.handle := by
      unfold Actor.withVelocity
      split <;> rfl
    have same : (world.roster.modify steered (·.withVelocity steering.velocity)).find? handle =
        world.roster.find? handle := by
      rw [Roster.find?_modify keeps, if_neg differs]
    split <;> exact same

/-- Who has no behavior is not steered. -/
theorem find?_runBehaviors (free : world.Unsteered handle) :
    world.runBehaviors.roster.find? handle = world.roster.find? handle := by
  unfold runBehaviors
  split
  · rename_i registry named
    have others : ∀ entry ∈ registry.behaviors.entries, world.handle? entry.1 ≠ some handle := by
      intro entry member meant
      have listed := (registry.behaviors.mem_entries_iff entry.1 entry.2).mp member
      have none := free entry.1 meant
      rw [behaviors, named, Option.getD_some, listed] at none
      cases none
    have walk (entries : List (String × Assignment)) (later : World S T)
        (same : later.handle? = world.handle?)
        (others : ∀ entry ∈ entries, world.handle? entry.1 ≠ some handle) :
        (entries.foldl steer later).roster.find? handle = later.roster.find? handle := by
      induction entries generalizing later with
      | nil => rfl
      | cons entry rest ih =>
        rw [List.forall_mem_cons, ← same] at others
        exact (ih _ ((meant_steer later entry).trans same) (same ▸ others.2)).trans
          (find?_steer others.1)
    exact walk _ world rfl others
  · rfl

end

/-! ### Contacts -/

/-- The contacts that wait leave an actor out. -/
def Unmet (handle : Handle) (world : World S T) : Prop :=
  ∀ contact ∈ world.contacts.getD [], contact.first ≠ handle ∧ contact.second ≠ handle

/-- A search for contacts drops none that was found, and it does nothing to an actor unless it finds a
contact of it. -/
structure Shuns (handle : Handle) (before after : Roster S T × List Contact) : Prop where
  grows : ∀ contact ∈ before.2, contact ∈ after.2
  same : (∀ contact ∈ after.2, contact.first ≠ handle ∧ contact.second ≠ handle) →
    after.1.find? handle = before.1.find? handle

omit [Scalar S] in
theorem Shuns.foldl {α : Type} {change : Roster S T × List Contact → α → Roster S T × List Contact}
    (each : ∀ state item, Shuns handle state (change state item)) (items : List α)
    (state : Roster S T × List Contact) : Shuns handle state (items.foldl change state) := by
  induction items generalizing state with
  | nil => exact ⟨fun _ member => member, fun _ => rfl⟩
  | cons item rest ih =>
    obtain ⟨grows, same⟩ := ih (change state item)
    obtain ⟨first, kept⟩ := each state item
    refine ⟨fun contact member => grows contact (first contact member), fun unmet => ?_⟩
    exact (same unmet).trans (kept fun contact member => unmet contact (grows contact member))

/-- A push moves one of the two that meet. -/
theorem shuns_meet (kind : Contact.Kind) (index : Nat) (state : Roster S T × List Contact)
    (pair : Handle × Handle) : Shuns handle state (meet kind index state pair) := by
  simp only [meet]
  split
  · rename_i first second left right
    split
    · refine ⟨fun contact member => List.mem_append_left _ member, fun unmet => ?_⟩
      obtain ⟨notFirst, notSecond⟩ := unmet ⟨index, pair.1, pair.2⟩
        (List.mem_append_right _ (List.mem_singleton_self _))
      have own {other : Handle} {actor : Actor S T} (found : state.1.find? other = some actor) :
          actor.handle = other := by simpa using List.find?_some found
      have keeps (push : Vec S) (actor : Actor S T) : (actor.pushed push).handle = actor.handle :=
        (keeps_pushed push actor).1
      unfold parted
      split
      · split
        · rw [Roster.find?_modify (keeps _), own right, if_neg notSecond,
            Roster.find?_modify (keeps _), own left, if_neg notFirst]
        · rfl
      · rfl
    · exact ⟨fun _ member => member, fun _ => rfl⟩
  · exact ⟨fun _ member => member, fun _ => rfl⟩

theorem find?_detect (unmet : world.detect.Unmet handle) :
    world.detect.roster.find? handle = world.roster.find? handle := by
  revert unmet
  unfold detect
  split
  · split
    · rename_i registry bindings contacts _ _ _ _ _
      intro unmet
      have search : Shuns handle (world.roster, contacts)
          (bindings.zipIdx.foldl (detectBinding registry) (world.roster, contacts)) :=
        Shuns.foldl (fun state entry => Shuns.foldl (shuns_meet _ _) _ state) _ _
      exact search.same unmet
    · exact fun _ => rfl
  · exact fun _ => rfl

/-! ### The parts of a frame -/

variable [Scalar T] [Circular S] [Sampling S] [Rounding T S] {delta : T} {phase : Phase}

/-- Actors of a kind that keys do not drive, and that an actor does not leave by calm changes. -/
structure Placid (kind : Actor S T → Prop) : Prop where
  calm : ∀ {before after : Actor S T}, kind before → Actor.Calm before after → kind after
  undriven : ∀ {actor : Actor S T}, kind actor → actor.controls = none

variable {kind : Actor S T → Prop}

/-- But for free movement an actor that nothing is done to is left as it is, or it is removed. -/
theorem Placid.runPhase (placid : Placid kind) (good : world.Sound others)
    (found : world.roster.find? handle = some actor) (own : kind actor)
    (free : world.Unsteered handle) (unmoved : phase ≠ .movement)
    (unmet : phase = .contacts → after.Unmet handle)
    (done : world.runPhase keyboard delta phase = .ok after) :
    (∃ later, after.roster.find? handle = some later ∧ kind later) ∨
      (world.Leaves phase handle ∧ after.Spent others handle) := by
  have sameActor (same : after.roster.find? handle = world.roster.find? handle) :
      (∃ later, after.roster.find? handle = some later ∧ kind later) ∨
        (world.Leaves phase handle ∧ after.Spent others handle) :=
    .inl ⟨actor, same.trans found, own⟩
  by_cases calm : phase ∈ [.controls, .behaviors, .movement, .contacts]
  · cases phase with
    | controls =>
      cases done
      exact .inl ⟨actor, find?_driveControls found (placid.undriven own), own⟩
    | behaviors =>
      cases done
      exact sameActor (find?_runBehaviors free)
    | movement => exact absurd rfl unmoved
    | contacts =>
      cases done
      exact sameActor (find?_detect (unmet rfl))
    | _ => exact absurd calm (by decide)
  · have kept := (stirs_calmly calm done).keeps good
      (fun _ _ change same => placid.calm same change) found own
    refine kept.imp_right fun gone => ⟨?_, gone⟩
    by_contra stays
    have course := course_runPhase_removing good done
    have there : World.alive { world with contacts := after.contacts } handle = true := by
      change world.roster.contains handle = true
      rw [Roster.contains, found]
      rfl
    have still := course.alive good (fun _ removing => stays (removing handle rfl)) there
    rw [gone.not_alive] at still
    cases still

end World

end Arcade
