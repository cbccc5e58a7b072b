import Arcade.Proofs.Anchorage
import Arcade.Proofs.Mirroring

/-! Looking at one side of actors. What a part of a frame does to actors is said by a few elementary
changes; where these leave a side of every actor as it is, the part of the frame does so too, for all
who were there before it. -/

namespace Arcade

variable {S T α : Type}

/-- One side of the actor of a handle. -/
def World.aspect? (world : World S T) (view : Actor S T → α) (handle : Handle) : Option α :=
  (world.roster.find? handle).map view

/-- What a part of a frame does to actors leaves one side of them as it is. -/
def Phase.Spares [Scalar S] [Scalar T] (view : Actor S T → α) : Phase → Prop
  | .controls => ∀ (pressed : List Key) (now : T) (actor : Actor S T),
      view (World.driven pressed now actor) = view actor
  | .behaviors => ∀ (actor : Actor S T) (velocity : Vec S),
      view (actor.withVelocity velocity) = view actor
  | .movement => ∀ (arena : Arena S) (seconds : S) (actor : Actor S T),
      view (actor.integrated arena seconds) = view actor
  | .contacts => ∀ (actor : Actor S T) (push : Vec S), view (actor.pushed push) = view actor
  | .clock | .shots | .spawners | .timers | .dispatch | .cleanUp =>
      ∀ before after : Actor S T, Actor.Calm before after → view after = view before

namespace World

variable {view : Actor S T → α} {before after world : World S T} {others : List Handle}
  {handle : Handle}

/-- One side of all actors is seen as before. -/
def SameAspect (view : Actor S T → α) (before after : World S T) : Prop :=
  after.aspect? view = before.aspect? view

theorem SameAspect.alive (same : SameAspect view before after) (handle : Handle) :
    after.alive handle = before.alive handle := by
  have seen := congrArg Option.isSome (congrFun same handle)
  rwa [aspect?, aspect?, Option.isSome_map, Option.isSome_map] at seen

theorem sameAspect_map (world : World S T) {change : Actor S T → Actor S T}
    (keeps : ∀ actor, (change actor).handle = actor.handle)
    (same : ∀ actor, view (change actor) = view actor) :
    SameAspect view world { world with roster := world.roster.map change } := by
  funext handle
  rw [aspect?, Roster.find?_map keeps, Option.map_map, aspect?]
  exact congrArg (Option.map · _) (funext same)

theorem sameAspect_modify (world : World S T) {change : Actor S T → Actor S T}
    (keeps : ∀ actor, (change actor).handle = actor.handle)
    (same : ∀ actor, view (change actor) = view actor) (handle : Handle) :
    SameAspect view world { world with roster := world.roster.modify handle change } := by
  refine sameAspect_map world (fun actor => ?_) fun actor => ?_
  · split
    · exact keeps actor
    · rfl
  · split
    · exact same actor
    · rfl

theorem sameAspect_foldl {β : Type} {change : World S T → β → World S T} (items : List β)
    (world : World S T) (each : ∀ world item, SameAspect view world (change world item)) :
    SameAspect view world (items.foldl change world) := by
  induction items generalizing world with
  | nil => rfl
  | cons item rest ih => exact (ih (change world item)).trans (each world item)

section

variable [Scalar S] [Scalar T]

theorem sameAspect_driveControls (spares : Phase.controls.Spares view) (world : World S T)
    (keyboard : Option (List Key)) : SameAspect view world (world.driveControls keyboard) := by
  unfold driveControls
  split
  · rename_i pressed clock shots _ _
    exact sameAspect_map world (fun actor => (keeps_driven pressed clock.now actor).1)
      (spares pressed clock.now)
  · rfl

theorem sameAspect_integrate [Rounding T S] (spares : Phase.movement.Spares view)
    (world : World S T) : SameAspect view world world.integrate := by
  unfold integrate
  split
  · split
    · exact sameAspect_map world (fun actor => (keeps_integrated _ _ actor).1) (spares _ _)
    · rfl
  · rfl

theorem sameAspect_steer [Circular S] [Sampling S] [Rounding T S]
    (spares : Phase.behaviors.Spares view) (world : World S T) (entry : String × Assignment) :
    SameAspect view world (world.steer entry) := by
  simp only [steer]
  split
  · rfl
  · rename_i steered steering _
    have turned : SameAspect view world { world with
        roster := world.roster.modify steered (·.withVelocity steering.velocity) } := by
      refine sameAspect_modify world (fun actor => ?_) (fun actor => spares actor _) steered
      unfold Actor.withVelocity
      split <;> rfl
    split <;> exact turned

theorem sameAspect_runBehaviors [Circular S] [Sampling S] [Rounding T S]
    (spares : Phase.behaviors.Spares view) (world : World S T) :
    SameAspect view world world.runBehaviors := by
  unfold runBehaviors
  split
  · exact sameAspect_foldl _ world (sameAspect_steer spares)
  · rfl

theorem sameAspect_detect (spares : Phase.contacts.Spares view) (world : World S T) :
    SameAspect view world world.detect := by
  have pushed (roster : Roster S T) (handle : Handle) (push : Vec S) :
      SameAspect view { world with roster }
        { world with roster := roster.modify handle (·.pushed push) } :=
    sameAspect_modify { world with roster } (fun actor => (keeps_pushed push actor).1)
      (fun actor => spares actor push) handle
  have met (kind : Contact.Kind) (index : Nat) (state : Roster S T × List Contact)
      (pair : Handle × Handle) : SameAspect view { world with roster := state.1 }
        { world with roster := (meet kind index state pair).1 } := by
    simp only [meet]
    split
    · split
      · unfold parted
        split
        · split
          · exact (pushed _ _ _).trans (pushed _ _ _)
          · rfl
        · rfl
      · rfl
    · rfl
  have walked {β : Type} {change : Roster S T × List Contact → β → Roster S T × List Contact}
      (each : ∀ state item, SameAspect view { world with roster := state.1 }
        { world with roster := (change state item).1 })
      (items : List β) (state : Roster S T × List Contact) :
      SameAspect view { world with roster := state.1 }
        { world with roster := (items.foldl change state).1 } := by
    induction items generalizing state with
    | nil => rfl
    | cons item rest ih => exact (ih (change state item)).trans (each state item)
  unfold detect
  split
  · rename_i registry bindings contacts _ _ _ _
    split
    · exact walked (fun state entry => walked (met _ _) _ state) bindings.zipIdx
        (world.roster, contacts)
    · rfl
  · rfl

end

/-- What is known of one side of an actor stays known while that side is seen as before. -/
theorem known_of_aspect? {holds : α → Prop}
    (kept : after.roster.find? handle = none ∨ after.aspect? view handle = before.aspect? view handle)
    (known : ∀ actor, before.roster.find? handle = some actor → holds (view actor)) :
    ∀ actor, after.roster.find? handle = some actor → holds (view actor) := by
  intro actor found
  rcases kept with gone | same
  · rw [gone] at found
    cases found
  · rw [aspect?, found] at same
    obtain ⟨earlier, there, seen⟩ := Option.map_eq_some_iff.mp same.symm
    rw [← seen]
    exact known earlier there

variable [Scalar S]

/-- Showing a world changes only how its actors are drawn. -/
theorem sameAspect_draw (same : ∀ actor : Actor S T, view actor.undrawn = view actor)
    (good : world.Sound others) {pictures : Bool} (done : world.draw pictures = .ok after) :
    SameAspect view world after := by
  obtain ⟨roster, rfl, drawn⟩ := drawn_draw good done
  have bare (actor? : Option (Actor S T)) :
      actor?.map view = (actor?.map Actor.undrawn).map view := by
    rw [Option.map_map]
    exact congrArg (Option.map · actor?) (funext fun actor => (same actor).symm)
  funext handle
  rw [aspect?, aspect?, bare, drawn handle, ← bare]

/-- Whoever was there before calm changes is seen as before, or is gone. -/
theorem Stirs.aspect? (stirs : Stirs Actor.Calm before after)
    (same : ∀ before after : Actor S T, Actor.Calm before after → view after = view before)
    (good : before.Sound others) (issued : before.Issued others handle) :
    after.roster.find? handle = none ∨ after.aspect? view handle = before.aspect? view handle := by
  cases found : before.roster.find? handle with
  | none =>
    rcases issued with here | gone
    · rw [alive, Roster.contains, found] at here
      cases here
    · exact .inl ((stirs.safe good).2 handle gone).find?_eq_none
  | some actor =>
    let seen (later : Actor S T) : Prop := view later = view actor
    have stays {before after : Actor S T} (calm : Actor.Calm before after) (kept : seen before) :
        seen after := (same _ _ calm).trans kept
    rcases stirs.keeps good (fun _ _ => stays) found rfl with ⟨later, there, kept⟩ | gone
    · right
      rw [World.aspect?, World.aspect?, there, found]
      exact congrArg some kept
    · exact .inl gone.find?_eq_none

/-- Whoever comes in some changes is as newcomers are. -/
theorem Stirs.newcomes {rule : Actor S T → Actor S T → Prop} {holds : Actor S T → Prop}
    {actor : Actor S T} (stirs : Stirs rule before after) (good : before.Sound others)
    (kept : ∀ before after, rule before after → holds before → holds after)
    (new : ∀ (blueprint : Spec.Blueprint S) keys look handle id position,
      holds (blueprint.newcomer keys look handle id position))
    (strange : ¬ before.Issued others handle) (found : after.roster.find? handle = some actor) :
    holds actor := by
  induction stirs generalizing actor with
  | beside same =>
    simp only [footing, Prod.mk.injEq] at same
    rw [same.2.1] at found
    exact absurd (issued_of_found found) strange
  | told source midway =>
    simp only [emit] at found
    exact absurd (issued_of_found found) strange
  | made made =>
    obtain ⟨look, -, welcomes⟩ := welcomes_create good made
    rw [welcomes] at found
    split at found
    · cases found
      exact new _ _ _ _ _ _
    · exact absurd (issued_of_found found) strange
  | gone world other =>
    rw [find?_destroy good] at found
    split at found
    · cases found
    · exact absurd (issued_of_found found) strange
  | changed keeps follows =>
    rw [Roster.find?_map keeps] at found
    obtain ⟨earlier, there, -⟩ := Option.map_eq_some_iff.mp found
    exact absurd (issued_of_found there) strange
  | updated other keeps follows =>
    rw [Roster.find?_update good.distinct keeps] at found
    split at found
    · obtain ⟨earlier, there, -⟩ := Option.map_eq_some_iff.mp found
      exact absurd (issued_of_found there) strange
    · exact absurd (issued_of_found found) strange
  | @trans _ middle _ first second firstNew secondNew =>
    have sound := (first.safe good).1
    by_cases met : middle.Issued others handle
    · -- whoever came in the first changes lives through the second
      have alive : middle.roster.find? handle ≠ none := by
        intro absent
        rcases met with here | gone
        · rw [alive, Roster.contains, absent] at here
          cases here
        · rw [((second.safe sound).2 handle gone).find?_eq_none] at found
          cases found
      obtain ⟨earlier, there⟩ := Option.ne_none_iff_exists'.mp alive
      rcases second.keeps sound kept there (firstNew good strange there) with ⟨_, same, held⟩ | gone
      · rw [same] at found
        cases found
        exact held
      · rw [gone.find?_eq_none] at found
        cases found
    · exact secondNew sound met found

/-- Whoever was there before a part of a frame is seen as before, or is gone. -/
theorem aspect?_runPhase [Scalar T] [Circular S] [Sampling S] [Rounding T S] {phase : Phase}
    (spares : phase.Spares view) {keyboard : Option (List Key)} {delta : T}
    (done : world.runPhase keyboard delta phase = .ok after) (good : world.Sound others)
    (issued : world.Issued others handle) :
    after.roster.find? handle = none ∨ after.aspect? view handle = world.aspect? view handle := by
  cases phase with
  | controls =>
    cases done
    exact .inr (congrFun (sameAspect_driveControls spares world keyboard) handle)
  | behaviors =>
    cases done
    exact .inr (congrFun (sameAspect_runBehaviors spares world) handle)
  | movement =>
    cases done
    exact .inr (congrFun (sameAspect_integrate spares world) handle)
  | contacts =>
    cases done
    exact .inr (congrFun (sameAspect_detect spares world) handle)
  | _ => exact (stirs_calmly (by decide) done).aspect? spares good issued

/-- When a game starts everybody is as newcomers are. -/
theorem newcomes_playScene [Scalar T] {holds : Actor S T → Prop} {actor : Actor S T}
    (new : ∀ (blueprint : Spec.Blueprint S) keys look handle id position,
      holds (blueprint.newcomer keys look handle id position))
    (whole : world.Whole) (good : world.Sound others) {spec : Spec S} {scene : Spec.Scene S}
    {seed : Option Nat}
    (found : (world.playScene spec scene seed).2.roster.find? handle = some actor) : holds actor := by
  have ready : (world.tearDown.setUp spec seed).Sound others := (safe_tearDown world others good).1
  have nobody : (world.tearDown.setUp spec seed).roster.actors = [] := (whole.tearDown good).actors
  let never (_ _ : Actor S T) : Prop := False
  have built : Stirs never (world.tearDown.setUp spec seed)
      ((world.tearDown.setUp spec seed).build scene) := stirs_build _ scene
  have there : ((world.tearDown.setUp spec seed).build scene).roster.find? handle = some actor := by
    simpa only [playScene, emit] using found
  by_cases issued : (world.tearDown.setUp spec seed).Issued others handle
  · rw [((built.safe ready).2 handle (issued.spent nobody)).find?_eq_none] at there
    cases there
  · exact built.newcomes ready (fun _ _ no => no.elim) new issued there

/-- Whoever comes in a part of a frame is as newcomers are. -/
theorem newcomes_runPhase [Scalar T] [Circular S] [Sampling S] [Rounding T S] {phase : Phase}
    {holds : Actor S T → Prop} {actor : Actor S T}
    (calm : ∀ before after : Actor S T, Actor.Calm before after → holds before → holds after)
    (new : ∀ (blueprint : Spec.Blueprint S) keys look handle id position,
      holds (blueprint.newcomer keys look handle id position))
    {keyboard : Option (List Key)} {delta : T}
    (done : world.runPhase keyboard delta phase = .ok after) (good : world.Sound others)
    (strange : ¬ world.Issued others handle) (found : after.roster.find? handle = some actor) :
    holds actor := by
  let blind (_ : Actor S T) := ()
  have nobody (same : SameAspect blind world after) : holds actor := by
    have seen := congrFun same handle
    rw [aspect?, found] at seen
    obtain ⟨earlier, there, -⟩ := Option.map_eq_some_iff.mp seen.symm
    exact absurd (issued_of_found there) strange
  cases phase with
  | controls =>
    cases done
    exact nobody (sameAspect_driveControls (fun _ _ _ => rfl) world keyboard)
  | behaviors =>
    cases done
    exact nobody (sameAspect_runBehaviors (fun _ _ => rfl) world)
  | movement =>
    cases done
    exact nobody (sameAspect_integrate (fun _ _ _ => rfl) world)
  | contacts =>
    cases done
    exact nobody (sameAspect_detect (fun _ _ => rfl) world)
  | _ => exact (stirs_calmly (by decide) done).newcomes good calm new strange found

end World

end Arcade
