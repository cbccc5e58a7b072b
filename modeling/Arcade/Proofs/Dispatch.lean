import Arcade.Proofs.Contacts

/-! The callbacks of contacts. A callback runs while both of its actors are there. When it scores its
target or destroys it, the handle of the target is spent; and no callback that runs later has to do
with what is spent. -/

namespace Arcade

/-- A callback that runs for a contact, with the world that it finds. -/
structure Call (S T : Type) where
  world : World S T
  contact : Contact

namespace Call

variable {S T : Type}

/-- The rule that fires. -/
def site (call : Call S T) : RuleSite := .interaction call.contact.binding

/-- Both actors are there when the callback runs. -/
def Attended (call : Call S T) : Prop :=
  call.world.alive call.contact.first = true ∧ call.world.alive call.contact.second = true

/-- The callback has nothing to do with a handle. -/
def Spares (call : Call S T) (handle : Handle) : Prop :=
  call.contact.first ≠ handle ∧ call.contact.second ≠ handle

variable [Scalar S]

/-- What the callback leaves behind. Its target is the second actor. -/
def after (call : Call S T) : World S T := call.world.fire call.site (some call.contact.second)

/-- Whether the callback scores its target or destroys it. -/
def consumes (call : Call S T) : Bool :=
  match call.world.effectAt? call.site with
  | some (.updateScore _) => true
  | some .destroy => true
  | _ => false

/-- Each callback starts from what the one before it left behind. -/
def Linked (before : World S T) : List (Call S T) → World S T → Prop
  | [], after => after = before
  | call :: rest, after => call.world = before ∧ Linked call.after rest after

end Call

namespace World

variable {S T : Type} [Scalar S]

/-- The callbacks that run for contacts, one after the other. -/
def callsFor (world : World S T) : List Contact → List (Call S T)
  | [] => []
  | contact :: rest =>
    if world.alive contact.first && world.alive contact.second then
      ⟨world, contact⟩ :: (Call.after ⟨world, contact⟩).callsFor rest
    else world.callsFor rest

/-- The callbacks that run when the contacts of a world are dispatched. -/
def calls (world : World S T) : List (Call S T) :=
  match world.contacts with
  | none => []
  | some contacts => callsFor { world with contacts := some [] } (byBinding contacts)

end World

variable {S T : Type} [Scalar S]

/-! ### One callback -/

namespace World

variable {world after : World S T} {others : List Handle}

/-- A rule that has an effect carries it out. -/
theorem fire_of_effect {site : RuleSite} {effect : Spec.Effect}
    (known : world.effectAt? site = some effect) (target : Option Handle) :
    world.fire site target = world.execute effect target := by
  obtain ⟨name, named, means⟩ := Option.bind_eq_some_iff.mp known
  simp only [fire, named]
  cases resolved : Callback.resolve world.library name with
  | unknown =>
    rw [resolved] at means
    cases means
  | _ =>
    rw [resolved] at means
    simp only [means]

omit [Scalar S] in
/-- An actor that is destroyed is spent. -/
theorem spent_destroy (good : world.Sound others) {handle : Handle}
    (here : world.alive handle = true) : (world.destroy handle).Spent others handle := by
  obtain ⟨actor, found⟩ := Option.isSome_iff_exists.mp here
  exact (removed_destroy good found).spent_self good

end World

namespace Call

variable {call : Call S T} {others : List Handle}

theorem course (good : call.world.Sound others) :
    World.Course Deed.OfRules call.world call.after :=
  World.course_fire good _ _

omit [Scalar S] in
/-- What is spent has nothing to do with a callback whose actors are there. -/
theorem Attended.spares (attended : call.Attended) {handle : Handle}
    (gone : call.world.Spent others handle) : call.Spares handle := by
  obtain ⟨first, second⟩ := attended
  constructor
  · intro same
    rw [same, gone.not_alive] at first
    cases first
  · intro same
    rw [same, gone.not_alive] at second
    cases second

/-- A target that is consumed is spent. -/
theorem Attended.spent (attended : call.Attended) (good : call.world.Sound others)
    (consumed : call.consumes = true) : call.after.Spent others call.contact.second := by
  obtain ⟨-, second⟩ := attended
  unfold consumes at consumed
  split at consumed
  · rename_i points effect
    have counted := World.quiet_addPoints call.world points
    rw [after, World.fire_of_effect effect]
    refine World.spent_destroy (good.of_sameNames counted.names) ?_
    rw [counted.names.alive]
    exact second
  · rename_i effect
    rw [after, World.fire_of_effect effect]
    exact World.spent_destroy good second
  · cases consumed

end Call

/-! ### Callbacks one after the other -/

/-- A stretch of play with the callbacks that ran in it. What was spent before it stays spent and
takes no part; what is consumed in it is spent from then on. -/
structure Stretch (others₀ : List Handle) (before : World S T) (calls : List (Call S T))
    (others : List Handle) (after : World S T) : Prop where
  keeps : ∀ handle, before.Spent others₀ handle → after.Spent others handle
  spares : ∀ handle, before.Spent others₀ handle → ∀ call ∈ calls, call.Spares handle
  spends : ∀ call ∈ calls, call.consumes = true → after.Spent others call.contact.second
  orderly : calls.Pairwise fun earlier later =>
    earlier.consumes = true → later.Spares earlier.contact.second

namespace Stretch

variable {before middle after : World S T} {others₀ others₁ others : List Handle}
  {calls later : List (Call S T)}

omit [Scalar S] in
/-- A stretch in which no callback ran. -/
theorem still (keeps : ∀ handle, before.Spent others₀ handle → after.Spent others handle) :
    Stretch others₀ before [] others after :=
  ⟨keeps, fun _ _ _ member => absurd member List.not_mem_nil,
    fun _ member => absurd member List.not_mem_nil, List.Pairwise.nil⟩

theorem call {call : Call S T} (good : call.world.Sound others) (attended : call.Attended) :
    Stretch others call.world [call] others call.after where
  keeps handle gone := (Call.course good).spent gone
  spares handle gone other member := by
    rw [List.mem_singleton.mp member]
    exact attended.spares gone
  spends other member consumed := by
    rw [List.mem_singleton.mp member] at consumed ⊢
    exact attended.spent good consumed
  orderly := List.pairwise_singleton _ _

omit [Scalar S] in
theorem append (first : Stretch others₀ before calls others₁ middle)
    (second : Stretch others₁ middle later others after) :
    Stretch others₀ before (calls ++ later) others after where
  keeps handle gone := second.keeps handle (first.keeps handle gone)
  spares handle gone call member := by
    rcases List.mem_append.mp member with early | late
    · exact first.spares handle gone call early
    · exact second.spares handle (first.keeps handle gone) call late
  spends call member consumed := by
    rcases List.mem_append.mp member with early | late
    · exact second.keeps _ (first.spends call early consumed)
    · exact second.spends call late consumed
  orderly := by
    refine List.pairwise_append.mpr ⟨first.orderly, second.orderly, ?_⟩
    intro early here call there consumed
    exact second.spares _ (first.spends early here consumed) call there

omit [Scalar S] in
/-- No two callbacks consume one target. -/
theorem once (stretch : Stretch others₀ before calls others after) :
    ((calls.filter Call.consumes).map (·.contact.second)).Nodup := by
  refine List.pairwise_map.mpr ?_
  have consumed : (calls.filter Call.consumes).Pairwise fun earlier later =>
      earlier.consumes = true → later.Spares earlier.contact.second :=
    stretch.orderly.sublist List.filter_sublist
  refine consumed.imp_of_mem ?_
  intro earlier later member _ spares
  have spared := spares (List.mem_filter.mp member).2
  exact spared.2.symm

end Stretch

/-! ### The dispatch of one frame -/

namespace World

variable {world after : World S T} {others : List Handle}

/-- The callbacks that run are those of contacts whose actors are there. -/
theorem attended_callsFor (world : World S T) (contacts : List Contact) :
    ∀ call ∈ world.callsFor contacts, call.Attended := by
  induction contacts generalizing world with
  | nil =>
    intro call member
    cases member
  | cons contact rest ih =>
    intro call member
    unfold callsFor at member
    split at member
    · rename_i here
      rcases List.mem_cons.mp member with same | later
      · rw [same]
        exact (Bool.and_eq_true _ _).mp here
      · exact ih _ call later
    · exact ih world call member

theorem linked_callsFor (world : World S T) (contacts : List Contact) :
    Call.Linked world (world.callsFor contacts) (contacts.foldl dispatchOne world) := by
  induction contacts generalizing world with
  | nil => rfl
  | cons contact rest ih =>
    rw [callsFor, List.foldl_cons, dispatchOne]
    split
    · exact ⟨rfl, ih _⟩
    · exact ih world

/-- Callbacks run in the order of their contacts. -/
theorem contacts_callsFor (world : World S T) (contacts : List Contact) :
    ((world.callsFor contacts).map (·.contact)).Sublist contacts := by
  induction contacts generalizing world with
  | nil => exact List.Sublist.refl []
  | cons contact rest ih =>
    unfold callsFor
    split
    · exact (ih _).cons_cons contact
    · exact (ih world).cons contact

theorem stretch_callsFor (good : world.Sound others) (contacts : List Contact) :
    Stretch others world (world.callsFor contacts) others (contacts.foldl dispatchOne world) := by
  induction contacts generalizing world with
  | nil => exact .still fun _ gone => gone
  | cons contact rest ih =>
    rw [callsFor, List.foldl_cons, dispatchOne]
    split
    · rename_i here
      let call : Call S T := ⟨world, contact⟩
      have attended : call.Attended := (Bool.and_eq_true _ _).mp here
      have sound : call.after.Sound others := (Call.course good).sound good
      exact (Stretch.call good attended).append (ih sound)
    · exact ih good

theorem attended_calls (world : World S T) : ∀ call ∈ world.calls, call.Attended := by
  unfold calls
  split
  · intro call member
    cases member
  · exact attended_callsFor _ _

/-- The callbacks of a dispatch lead from the world without contacts to what the dispatch leaves
behind. -/
theorem linked_calls (world : World S T) :
    Call.Linked { world with contacts := world.contacts.map fun _ => [] } world.calls
      world.dispatch := by
  rw [calls, dispatch]
  cases waiting : world.contacts with
  | none =>
    change world = { world with contacts := none }
    rw [← waiting]
  | some contacts => exact linked_callsFor _ _

/-- The callbacks of a dispatch are those of some of the contacts, by binding. -/
theorem contacts_calls (world : World S T) :
    (world.calls.map (·.contact)).Sublist (byBinding (world.contacts.getD [])) := by
  unfold calls
  split
  · exact List.nil_sublist _
  · rename_i contacts waiting
    rw [waiting]
    exact contacts_callsFor _ _

theorem stretch_calls (good : world.Sound others) :
    Stretch others world world.calls others world.dispatch := by
  rw [calls, dispatch]
  cases world.contacts with
  | none => exact .still fun _ gone => gone
  | some contacts =>
    have emptied : World.Sound { world with contacts := some [] } others := good
    have stretch := stretch_callsFor emptied (byBinding contacts)
    exact ⟨stretch.keeps, stretch.spares, stretch.spends, stretch.orderly⟩

end World

end Arcade
