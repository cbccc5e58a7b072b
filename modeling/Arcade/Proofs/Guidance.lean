import Arcade.Proofs.Bystander
import Mathlib.Data.List.Iterate
import Mathlib.Data.List.Lex

/-! What behaviors do in their part of a frame. The ids that have one take turns in their order, and in
the turn of an id its behavior steers the actor that the id means, if this can be moved. No two ids mean
the same actor, so nobody is steered twice, and a behavior finds its actor and what it remembers as they
were when the first turn came. Only the random numbers pass from turn to turn. -/

namespace Arcade

variable {S T : Type}

/-- A behavior at the helm of an actor that can be moved: the world that its turn finds, and what it
reads there. -/
structure Helm (S T : Type) where
  found : World S T
  id : String
  assignment : Assignment
  actor : Actor S T
  body : Body S
  now : T
  random : Random

namespace Helm

/-- What the behavior remembers when its turn comes. -/
def memory? (helm : Helm S T) : Option (Memory S T) := helm.found.memories.get? helm.id

/-- What the behavior sees. -/
def before (helm : Helm S T) : World.Steering S T :=
  ⟨helm.body.velocity, helm.memory?, helm.random⟩

variable [Scalar S] [Scalar T] [Circular S] [Sampling S] [Rounding T S]

/-- What the behavior makes of it. -/
def after (helm : Helm S T) : World.Steering S T :=
  helm.found.steered helm.now helm.assignment helm.actor.position helm.before

/-- Milliseconds that have to pass between two directions. -/
def interval (helm : Helm S T) : T :=
  World.Steering.wanderInterval (S := S) helm.assignment.parameters

/-- Whether the behavior takes a new direction at random. -/
def veers (helm : Helm S T) : Bool :=
  helm.assignment.kind = .random &&
    Behavior.changeDue (helm.memory?.bind (·.lastChange)) helm.now helm.interval

/-- The speed in a direction that is taken at random. -/
def speed (helm : Helm S T) : S :=
  (Behavior.length? helm.assignment.parameters "speed").getD Behavior.wanderSpeed

/-- What the turn leaves behind. -/
def left (helm : Helm S T) : World S T :=
  let steered := { helm.found with
    roster := helm.found.roster.modify helm.actor.handle (·.withVelocity helm.after.velocity)
    random := some helm.after.random }
  match helm.after.memory with
  | some memory => steered.withRegistry fun registry => registry.remember helm.id memory
  | none => steered

end Helm

/-- The random numbers after one direction was drawn from them. -/
def Random.drawn (S : Type) [Scalar S] [Circular S] [Sampling S] (random : Random) : Random :=
  (random.angle : S × Random).2

namespace World

/-- Whom the behavior of an id steers. -/
def helm? (world : World S T) (entry : String × Assignment) : Option (Helm S T) := do
  let clock ← world.clock
  let random ← world.random
  let handle ← world.handle? entry.1
  let actor ← world.roster.find? handle
  let body ← actor.body
  if body.movable then some ⟨world, entry.1, entry.2, actor, body, clock.now, random⟩ else none

variable [Scalar S] [Scalar T] [Circular S] [Sampling S] [Rounding T S]

/-- The turns of ids with their behaviors, one after the other. -/
def rota : List (String × Assignment) → World S T → List (Helm S T)
  | [], _ => []
  | entry :: rest, world => (world.helm? entry).toList ++ rota rest (world.steer entry)

/-- The turns of a frame. -/
def helms (world : World S T) : List (Helm S T) := rota world.behaviors.entries world

end World

/-! ### The order of ids -/

/-- The bytes of a text. -/
def Text.bytes (text : String) : List UInt8 := text.toUTF8.data.toList

namespace Text

theorem bytes_eq (text : String) : bytes text = text.toList.flatMap String.utf8EncodeChar := by
  rw [bytes, String.toUTF8, ← String.utf8Encode_toList, List.utf8Encode, List.data_toByteArray]

/-- The bytes of a character come before those of a greater one, whatever follows them. -/
theorem utf8EncodeChar_lt {first second : Char} (before : first < second) (rest more : List UInt8) :
    String.utf8EncodeChar first ++ rest < String.utf8EncodeChar second ++ more := by
  have less : first.val.toNat < second.val.toNat := before
  have bound : second.val.toNat < 1114112 := by
    rcases second.valid with low | high
    · exact Nat.lt_trans low (by decide)
    · exact high.2
  -- six bits at a time
  have digits (code : Nat) : code / 4096 = code / 64 / 64 ∧ code / 262144 = code / 64 / 64 / 64 := by
    omega
  simp only [String.utf8EncodeChar, digits]
  generalize first.val.toNat = low at *
  generalize second.val.toNat = high at *
  split_ifs <;> simp (disch := omega) only [List.cons_append, List.nil_append,
    List.cons_lt_cons_iff, UInt8.lt_iff_toNat_lt, ← UInt8.toNat_inj, UInt8.toNat_ofNat',
    Nat.mod_eq_of_lt] <;> omega

/-- The order of texts is that of their bytes. -/
theorem bytes_lt {first second : String} (before : first < second) : bytes first < bytes second := by
  rw [String.lt_iff] at before
  rw [bytes_eq, bytes_eq]
  generalize first.toList = low at *
  generalize second.toList = high at *
  induction before with
  | @nil head rest =>
    cases coded : (head :: rest).flatMap String.utf8EncodeChar with
    | nil => exact absurd (List.append_eq_nil_iff.mp coded).1 String.utf8EncodeChar_ne_nil
    | cons byte more => exact List.nil_lt_cons _ _
  | rel less => exact utf8EncodeChar_lt less _ _
  | cons _ ih =>
    rw [List.flatMap_cons, List.flatMap_cons]
    exact List.append_left_lt ih

end Text

/-! ### One turn -/

theorem Actor.withVelocity_self {actor : Actor S T} {body : Body S} (has : actor.body = some body) :
    actor.withVelocity body.velocity = actor := by
  cases actor
  cases has
  rfl

namespace Roster

variable (roster : Roster S T)

theorem map_map (first second : Actor S T → Actor S T) :
    (roster.map first).map second = roster.map (second ∘ first) := by
  simp only [map, List.map_map, Function.comp_def]

theorem map_id : roster.map id = roster := by
  simp only [map, List.map_id, List.map_id_fun', id]

end Roster

theorem Memory.lastChange_getD (memory? : Option (Memory S T)) :
    (memory?.getD .blank).lastChange = memory?.bind (·.lastChange) := by
  cases memory? <;> rfl

namespace Helm

variable [Scalar S] [Scalar T] [Circular S] [Sampling S] [Rounding T S] (helm : Helm S T)

/-- A direction that is taken at random. -/
theorem after_of_veers (veers : helm.veers = true) :
    helm.after =
      { velocity := Behavior.heading (helm.random.angle : S × Random).1 helm.speed
        memory := some { helm.memory?.getD .blank with lastChange := some helm.now }
        random := helm.random.drawn S } := by
  obtain ⟨wanders, due⟩ := (Bool.and_eq_true _ _).mp veers
  rw [← Memory.lastChange_getD] at due
  simp only [after, World.steered, of_decide_eq_true wanders]
  exact if_pos due

/-- Until the next direction is due nothing happens. -/
theorem after_of_wanders (wanders : helm.assignment.kind = .random) (steady : helm.veers = false) :
    helm.after = { helm.before with memory := some (helm.memory?.getD .blank) } := by
  have still : ¬ Behavior.changeDue (helm.memory?.getD .blank).lastChange helm.now
      helm.interval = true := by
    rw [Memory.lastChange_getD]
    intro due
    rw [veers, due, decide_eq_true wanders] at steady
    cases steady
  simp only [after, World.steered, wanders]
  exact if_neg still

/-- Whoever takes no direction at random draws no number and remembers no other time. -/
theorem after_of_steady (steady : helm.veers = false) :
    helm.after.random = helm.random ∧
      helm.after.memory.bind (·.lastChange) = helm.memory?.bind (·.lastChange) := by
  cases kind : helm.assignment.kind with
  | random =>
    rw [helm.after_of_wanders kind steady]
    exact ⟨rfl, Memory.lastChange_getD _⟩
  | static =>
    simp only [after, World.steered, kind]
    exact ⟨rfl, rfl⟩
  | patrol =>
    simp only [after, World.steered, kind]
    exact ⟨rfl, Memory.lastChange_getD _⟩
  | follow =>
    simp only [after, World.steered, kind, World.Steering.pursue]
    split <;> exact ⟨rfl, rfl⟩

/-- An anchor that is remembered stays. -/
theorem anchor_after {anchor : S} (moored : helm.memory?.bind (·.anchor) = some anchor) :
    helm.after.memory.bind (·.anchor) = some anchor := by
  obtain ⟨memory, remembered, moored⟩ := Option.bind_eq_some_iff.mp moored
  have before : helm.before.memory = some memory := remembered
  unfold after World.steered
  cases helm.assignment.kind with
  | static =>
    simp only [before]
    exact moored
  | patrol =>
    simp only [World.Steering.patrol, before, Option.getD_some, moored]
    rfl
  | follow =>
    simp only [World.Steering.pursue]
    split <;> simp only [before] <;> exact moored
  | random =>
    simp only [World.Steering.wander, before, Option.getD_some]
    split <;> exact moored

/-- What is remembered is never forgotten in a turn. -/
theorem memory_of_after (blank : helm.after.memory = none) : helm.memory? = none := by
  unfold after World.steered at blank
  cases kind : helm.assignment.kind with
  | static =>
    simp only [kind] at blank
    exact blank
  | patrol =>
    simp only [kind] at blank
    cases blank
  | follow =>
    simp only [kind, World.Steering.pursue] at blank
    split at blank <;> exact blank
  | random =>
    simp only [kind, World.Steering.wander] at blank
    split at blank <;> cases blank

/-- A behavior that stands still, and one that follows nobody, leave the velocity as it is. -/
theorem velocity_of_idle (idle : helm.assignment.kind = .static ∨ helm.assignment.kind = .follow ∧
      helm.found.handle? (World.followed helm.assignment.parameters) = none) :
    helm.after.velocity = helm.body.velocity := by
  unfold after World.steered
  rcases idle with still | ⟨follows, nobody⟩
  · rw [still]
    rfl
  · rw [follows]
    simp only [World.whereabouts, nobody, Option.bind_none, World.Steering.pursue]
    rfl

end Helm

/-! ### Whom a turn steers -/

/-- A helm is what a world has at the turn of an id. -/
structure Helm.At (helm : Helm S T) (world : World S T) : Prop where
  time : world.clock.map (·.now) = some helm.now
  meant : world.handle? helm.id = some helm.actor.handle
  there : world.roster.find? helm.actor.handle = some helm.actor
  body : helm.actor.body = some helm.body
  movable : helm.body.movable = true
  memory : world.memories.get? helm.id = helm.memory?
  owners : World.SameOwners world helm.found

namespace World

variable {world : World S T} {entry : String × Assignment} {helm : Helm S T}

theorem helm?_eq_some (taken : world.helm? entry = some helm) :
    helm.found = world ∧ helm.id = entry.1 ∧ helm.assignment = entry.2 ∧ helm.At world ∧
      world.random = some helm.random := by
  simp only [helm?, Option.bind_eq_bind, Option.bind_eq_some_iff] at taken
  obtain ⟨clock, ticks, random, drawn, handle, meant, actor, found, body, has, taken⟩ := taken
  split at taken
  · rename_i movable
    cases taken
    have own : actor.handle = handle := by simpa using List.find?_some found
    subst own
    refine ⟨rfl, rfl, rfl, ⟨?_, meant, found, has, movable, rfl, rfl, rfl, rfl⟩, drawn⟩
    rw [ticks]
    rfl
  · cases taken

/-- What the turn of an id leaves as it was. -/
structure Passes (id : String) (before after : World S T) : Prop where
  owners : SameOwners before after
  clock : after.clock = before.clock
  memories : ∀ other, other ≠ id → after.memories.get? other = before.memories.get? other
  spared : ∀ handle, before.handle? id ≠ some handle →
    after.roster.find? handle = before.roster.find? handle

/-- No two ids mean the same actor. -/
def Distinguishes (world : World S T) : Prop :=
  ∀ first second handle, world.handle? first = some handle → world.handle? second = some handle →
    first = second

/-- What a later turn finds of its actor was there before the turn of another id. -/
theorem Passes.at {id : String} {before after : World S T} (passes : Passes id before after)
    (distinct : before.Distinguishes) (steers : helm.At after) (other : helm.id ≠ id) :
    helm.At before := by
  have meant := steers.meant
  rw [passes.owners.meant] at meant
  refine ⟨?_, meant, ?_, steers.body, steers.movable, ?_, passes.owners.trans steers.owners⟩
  · rw [← passes.clock]
    exact steers.time
  · rw [← passes.spared]
    · exact steers.there
    · exact fun own => other (distinct _ _ _ meant own)
  · rw [← passes.memories _ other]
    exact steers.memory

theorem Distinguishes.passes {id : String} {before after : World S T} (distinct : before.Distinguishes)
    (passes : Passes id before after) : after.Distinguishes := by
  intro first second handle firstMeant secondMeant
  rw [passes.owners.meant] at firstMeant secondMeant
  exact distinct first second handle firstMeant secondMeant

variable [Scalar S] [Scalar T] [Circular S] [Sampling S] [Rounding T S]

/-- The turn of an id without a helm passes by. -/
theorem steer_of_nobody (nobody : world.helm? entry = none) : world.steer entry = world := by
  simp only [steer]
  split
  · rfl
  · rename_i handle steering found
    simp only [Option.bind_eq_bind, Option.bind_eq_some_iff] at found
    obtain ⟨clock, ticks, registry, named, random, draws, handle, means, actor, there, body, has,
      found⟩ := found
    have meant : world.handle? entry.1 = some handle := by rw [handle?, named]; exact means
    split at found
    · rename_i movable
      simp only [helm?, ticks, draws, meant, there, has, movable, Option.bind_eq_bind,
        Option.bind_some, ↓reduceIte, reduceCtorEq] at nobody
    · cases found

theorem steer_of_helm (taken : world.helm? entry = some helm) : world.steer entry = helm.left := by
  simp only [helm?, Option.bind_eq_bind, Option.bind_eq_some_iff] at taken
  obtain ⟨clock, ticks, random, draws, handle, meant, actor, there, body, has, taken⟩ := taken
  obtain ⟨registry, named, means⟩ := Option.bind_eq_some_iff.mp meant
  have own : actor.handle = handle := by simpa using List.find?_some there
  have remembered : world.memories = registry.memories := by rw [memories, named, Option.getD_some]
  split at taken
  · rename_i movable
    cases taken
    simp only [steer]
    split
    · rename_i nothing
      simp only [ticks, named, draws, means, there, has, movable, Option.bind_eq_bind,
        Option.bind_some, ↓reduceIte, reduceCtorEq] at nothing
    · rename_i steered steering found
      simp only [ticks, named, draws, means, there, has, movable, Option.bind_eq_bind,
        Option.bind_some, ↓reduceIte, Option.some.injEq, Prod.mk.injEq, ← remembered] at found
      obtain ⟨rfl, rfl⟩ := found
      subst own
      rfl
  · cases taken

/-- A turn changes the velocity of its actor, what its own behavior remembers and the random numbers,
and nothing else. -/
theorem exists_of_helm (taken : world.helm? entry = some helm) :
    ∃ memories, world.steer entry = { world with
      roster := world.roster.modify helm.actor.handle (·.withVelocity helm.after.velocity)
      registry := world.registry.map fun registry => { registry with memories }
      random := some helm.after.random } ∧
      (world.steer entry).memories = memories ∧ memories.get? entry.1 = helm.after.memory ∧
      ∀ other, other ≠ entry.1 → memories.get? other = world.memories.get? other := by
  rw [steer_of_helm taken]
  obtain ⟨rfl, own, -, steers, -⟩ := helm?_eq_some taken
  obtain ⟨registry, named, -⟩ := Option.bind_eq_some_iff.mp steers.meant
  have known : helm.found.memories = registry.memories := by rw [memories, named, Option.getD_some]
  rw [← own]
  cases remembers : helm.after.memory with
  | some memory =>
    refine ⟨registry.memories.insert helm.id memory, ?_, ?_, Index.get?_insert_self _ _ _, ?_⟩
    · simp only [Helm.left, remembers, withRegistry, named, Option.getD_some]
      rfl
    · simp only [Helm.left, remembers, memories, withRegistry, named, Option.getD_some]
      rfl
    · intro other different
      rw [Index.get?_insert, if_neg (Ne.symm different), known]
  | none =>
    refine ⟨registry.memories, ?_, ?_, ?_, fun other _ => by rw [known]⟩
    · simp only [Helm.left, remembers, named]
      rfl
    · simp only [Helm.left, remembers, memories, named, Option.getD_some]
    · rw [← known]
      exact helm.memory_of_after remembers

/-- After its turn a behavior remembers what it made of the turn. -/
theorem memories_steer (taken : world.helm? entry = some helm) :
    (world.steer entry).memories.get? entry.1 = helm.after.memory := by
  obtain ⟨memories, -, same, remembers, -⟩ := exists_of_helm taken
  rw [same, remembers]

theorem passes_steer (world : World S T) (entry : String × Assignment) :
    Passes entry.1 world (world.steer entry) := by
  cases taken : world.helm? entry with
  | none =>
    rw [steer_of_nobody taken]
    exact ⟨⟨rfl, rfl, rfl⟩, rfl, fun _ _ => rfl, fun _ _ => rfl⟩
  | some helm =>
    obtain ⟨memories, left, same, -, others⟩ := exists_of_helm taken
    refine ⟨⟨?_, meant_steer world entry, ?_⟩, ?_, ?_, fun handle => find?_steer⟩
    · rw [left]
    · rw [left, World.behaviors, World.behaviors]
      cases world.registry <;> rfl
    · rw [left]
    · rw [same]
      exact others

/-! ### All turns of a frame -/

variable {entries : List (String × Assignment)}

/-- Whoever steers had a turn. -/
theorem sublist_rota (entries : List (String × Assignment)) (world : World S T) :
    ((rota entries world).map fun helm => (helm.id, helm.assignment)).Sublist entries := by
  induction entries generalizing world with
  | nil => exact .slnil
  | cons entry rest ih =>
    rw [rota, List.map_append]
    cases taken : world.helm? entry with
    | none => exact (ih _).cons entry
    | some helm =>
      obtain ⟨-, own, assigned, -⟩ := helm?_eq_some taken
      have same : (helm.id, helm.assignment) = entry := by rw [own, assigned]
      rw [← same]
      exact (ih _).cons_cons _

/-- Every turn finds its actor and what its behavior remembers as the frame does. -/
theorem at_of_mem_rota (distinct : world.Distinguishes) (ordered : Increasing entries)
    (member : helm ∈ rota entries world) : helm.At world := by
  induction entries generalizing world with
  | nil => cases member
  | cons entry rest ih =>
    obtain ⟨first, ordered⟩ := List.pairwise_cons.mp ordered
    rcases List.mem_append.mp member with now | later
    · exact (helm?_eq_some (Option.mem_toList.mp now)).2.2.2.1
    · have passes := passes_steer world entry
      have listed := (sublist_rota rest _).subset (List.mem_map_of_mem later)
      refine passes.at distinct (ih (distinct.passes passes) ordered later) ?_
      intro same
      have before := first _ listed
      simp only [same] at before
      exact String.lt_irrefl _ before

/-- No two turns are of one id. -/
theorem ids_rota (ordered : Increasing entries) (world : World S T) :
    ((rota entries world).map (·.id)).Pairwise (· < ·) := by
  have names : (rota entries world).map (·.id) =
      ((rota entries world).map fun helm => (helm.id, helm.assignment)).map (·.1) := by
    rw [List.map_map]
    rfl
  rw [names]
  exact List.Pairwise.sublist ((sublist_rota entries world).map _) (List.pairwise_map.mpr ordered)

/-- Nobody is steered twice. -/
theorem nodup_rota (distinct : world.Distinguishes) (ordered : Increasing entries) :
    ((rota entries world).map (·.actor.handle)).Nodup := by
  refine List.pairwise_map.mpr ((List.pairwise_map.mp (ids_rota ordered world)).imp_of_mem ?_)
  intro first second firstMember secondMember before same
  have meant := (at_of_mem_rota distinct ordered firstMember).meant
  rw [same] at meant
  have ids := distinct _ _ _ meant (at_of_mem_rota distinct ordered secondMember).meant
  rw [ids] at before
  exact String.lt_irrefl _ before

/-- What turns make of an actor. -/
def swayed (helms : List (Helm S T)) (actor : Actor S T) : Actor S T :=
  match helms.find? (·.actor.handle = actor.handle) with
  | some helm => actor.withVelocity helm.after.velocity
  | none => actor

/-- Whoever is not steered stays as it is. -/
theorem swayed_of_forall_ne {helms : List (Helm S T)} {actor : Actor S T}
    (others : ∀ helm ∈ helms, helm.actor.handle ≠ actor.handle) : swayed helms actor = actor := by
  have nobody : helms.find? (fun helm => helm.actor.handle = actor.handle) = none :=
    List.find?_eq_none.mpr fun helm member => by simpa using others helm member
  rw [swayed, nobody]

/-- The actor of the first turn is not steered by a later one. -/
theorem swayed_cons {helms : List (Helm S T)}
    (once : ((helm :: helms).map (·.actor.handle)).Nodup) (actor : Actor S T) :
    swayed (helm :: helms) actor = swayed helms (if actor.handle = helm.actor.handle then
      actor.withVelocity helm.after.velocity else actor) := by
  split
  · rename_i own
    have others : ∀ later ∈ helms,
        later.actor.handle ≠ (actor.withVelocity helm.after.velocity).handle := by
      intro later member same
      rw [(keeps_withVelocity _ actor).1, own] at same
      exact (List.nodup_cons.mp once).1 (List.mem_map.mpr ⟨later, member, same⟩)
    rw [swayed_of_forall_ne others, swayed,
      List.find?_cons_of_pos (by rw [own]; exact decide_eq_true rfl)]
  · rename_i other
    rw [swayed, List.find?_cons_of_neg (by simpa using Ne.symm other), ← swayed]

/-- Every actor stands where it stood, with the velocity that its turn gives it. -/
theorem roster_rota (distinct : world.Distinguishes) (ordered : Increasing entries) :
    (entries.foldl steer world).roster = world.roster.map (swayed (rota entries world)) := by
  induction entries generalizing world with
  | nil => exact world.roster.map_id.symm
  | cons entry rest ih =>
    have once := nodup_rota distinct ordered
    have rested := ih (distinct.passes (passes_steer world entry)) ordered.of_cons
    rw [List.foldl_cons, rested]
    rw [rota] at once ⊢
    cases taken : world.helm? entry with
    | none => rw [steer_of_nobody taken]; rfl
    | some helm =>
      rw [taken] at once
      obtain ⟨memories, left, -⟩ := exists_of_helm taken
      have first : (world.steer entry).roster =
          world.roster.modify helm.actor.handle (·.withVelocity helm.after.velocity) := by rw [left]
      rw [first, Roster.modify, Roster.map_map]
      exact congrArg world.roster.map (funext fun actor => (swayed_cons once actor).symm)

/-- Only actors, what behaviors remember and the random numbers differ. -/
def Sways (before after : World S T) : Prop :=
  ∃ roster memories random, after =
    { before with
      roster
      registry := before.registry.map fun registry => { registry with memories }
      random }

omit [Scalar S] [Scalar T] [Circular S] [Sampling S] [Rounding T S] in
theorem Sways.refl (world : World S T) : Sways world world := by
  have same : world.registry.map (fun registry => { registry with memories := world.memories }) =
      world.registry := by
    rcases Option.eq_none_or_eq_some world.registry with nameless | ⟨registry, named⟩
    · rw [nameless]
      rfl
    · rw [memories, named]
      rfl
  refine ⟨world.roster, world.memories, world.random, ?_⟩
  rw [same]

omit [Scalar S] [Scalar T] [Circular S] [Sampling S] [Rounding T S] in
theorem Sways.trans {before middle after : World S T} (first : Sways before middle)
    (second : Sways middle after) : Sways before after := by
  obtain ⟨_, _, _, rfl⟩ := first
  obtain ⟨roster, memories, random, rfl⟩ := second
  refine ⟨roster, memories, random, ?_⟩
  rw [Option.map_map]
  rfl

theorem sways_steer (world : World S T) (entry : String × Assignment) :
    Sways world (world.steer entry) := by
  cases taken : world.helm? entry with
  | none =>
    rw [steer_of_nobody taken]
    exact .refl world
  | some helm =>
    obtain ⟨memories, left, -⟩ := exists_of_helm taken
    exact ⟨_, memories, _, left⟩

theorem sways_rota (entries : List (String × Assignment)) (world : World S T) :
    Sways world (entries.foldl steer world) := by
  induction entries generalizing world with
  | nil => exact .refl world
  | cons entry rest ih => exact (sways_steer world entry).trans (ih _)

/-- Each direction is taken by the next number, and no number is drawn besides. -/
theorem draws_rota {random : Random} (entries : List (String × Assignment))
    (drawn : world.random = some random) :
    let drawing := (rota entries world).filter (·.veers)
    drawing.map (·.random) = List.iterate (Random.drawn S) random drawing.length ∧
      (entries.foldl steer world).random = some ((Random.drawn S)^[drawing.length] random) := by
  induction entries generalizing world random with
  | nil => exact ⟨rfl, drawn⟩
  | cons entry rest ih =>
    rw [rota, List.foldl_cons]
    cases taken : world.helm? entry with
    | none =>
      rw [steer_of_nobody taken]
      exact ih drawn
    | some helm =>
      obtain ⟨-, -, -, -, finds⟩ := helm?_eq_some taken
      have own : helm.random = random := Option.some.inj (finds.symm.trans drawn)
      obtain ⟨memories, left, -⟩ := exists_of_helm taken
      have first : (world.steer entry).random = some helm.after.random := by rw [left]
      obtain ⟨numbers, total⟩ := ih first
      rw [Option.toList_some, List.singleton_append]
      cases veers : helm.veers with
      | true =>
        simp only [List.filter_cons_of_pos veers, List.map_cons, List.length_cons, own, List.iterate,
          Function.iterate_succ_apply]
        rw [helm.after_of_veers veers, own] at numbers total
        exact ⟨congrArg _ numbers, total⟩
      | false =>
        rw [List.filter_cons_of_neg (by rw [veers]; exact Bool.false_ne_true)]
        rw [(helm.after_of_steady veers).1, own] at numbers total
        exact ⟨numbers, total⟩

/-! ### The part of a frame -/

theorem runBehaviors_eq_foldl (world : World S T) :
    world.runBehaviors = world.behaviors.entries.foldl steer world := by
  rcases Option.eq_none_or_eq_some world.registry with nameless | ⟨registry, named⟩
  · simp only [runBehaviors, behaviors, nameless, Option.getD_none]
    rfl
  · simp only [runBehaviors, behaviors, named, Option.getD_some]

/-- What behaviors do in their part of a frame. -/
structure Guides (world : World S T) : Prop where
  /-- Only velocities, what behaviors remember and the random numbers change. -/
  frame : ∃ memories random, world.runBehaviors =
    { world with
      roster := world.roster.map (swayed world.helms)
      registry := world.registry.map fun registry => { registry with memories }
      random }
  /-- Each turn steers the actor that is meant by the id, whose own id it is, with the behavior
  that the id has. -/
  steers : ∀ helm ∈ world.helms, helm.At world ∧ helm.actor.id = helm.id ∧
    world.behaviors.get? helm.id = some helm.assignment
  once : (world.helms.map (·.actor.handle)).Nodup
  /-- Turns come in the order of the bytes of their ids. -/
  ordered : (world.helms.map fun helm => Text.bytes helm.id).Pairwise (· < ·)
  /-- Whoever gets another velocity can be moved, and its own id has a behavior that moves; and if it
  follows somebody, then one who is there. -/
  moves : ∀ actor ∈ world.roster.actors, swayed world.helms actor ≠ actor →
    actor.movable = true ∧ ∃ assignment, world.behaviors.get? actor.id = some assignment ∧
      assignment.kind ≠ .static ∧ (assignment.kind = .follow →
        (world.handle? (followed assignment.parameters)).isSome = true)
  /-- A direction is taken by the next random number, and no number is drawn besides. -/
  draws : ∃ random, world.random = some random ∧
    let drawing := world.helms.filter (·.veers)
    drawing.map (·.random) = List.iterate (Random.drawn S) random drawing.length ∧
      world.runBehaviors.random = some ((Random.drawn S)^[drawing.length] random) ∧
      ∀ helm ∈ drawing, helm.after.velocity =
        Behavior.heading (helm.random.angle : S × Random).1 helm.speed
  /-- Until the next direction is due the velocity stays as it is. -/
  steady : ∀ helm ∈ world.helms, helm.assignment.kind = .random → helm.veers = false →
    helm.after.velocity = helm.body.velocity

variable {others : List Handle} {session : Session}

/-- Whom an id means has it. -/
theorem Lived.who_of_meant (lived : world.Lived others) {id : String} {handle : Handle}
    (meant : world.handle? id = some handle) :
    ∃ who, world.roster.who? handle = some who ∧ who.id = id := by
  rcases lived.whole with ⟨session, playing⟩ | idle
  · obtain ⟨registry, found, named⟩ := lived.named playing.active
    rw [handle?, found] at meant
    exact named.meant id handle meant
  · have nameless : world.registry = none := by simpa [has] using idle.parts .registry
    rw [handle?, nameless] at meant
    cases meant

theorem Lived.distinguishes (lived : world.Lived others) : world.Distinguishes := by
  intro first second handle firstMeant secondMeant
  obtain ⟨who, known, rfl⟩ := lived.who_of_meant firstMeant
  obtain ⟨other, same, rfl⟩ := lived.who_of_meant secondMeant
  rw [known] at same
  exact congrArg Identity.id (Option.some.inj same)

theorem Lived.steers (lived : world.Lived others) (member : helm ∈ world.helms) :
    helm.At world ∧ helm.actor.id = helm.id ∧
      world.behaviors.get? helm.id = some helm.assignment := by
  have steers := at_of_mem_rota lived.distinguishes world.behaviors.ordered member
  have listed := (sublist_rota world.behaviors.entries world).subset (List.mem_map_of_mem member)
  obtain ⟨who, known, own⟩ := lived.who_of_meant steers.meant
  rw [Roster.who?, steers.there] at known
  cases known
  exact ⟨steers, own, (world.behaviors.mem_entries_iff _ _).mp listed⟩

/-- Whoever gets another velocity is steered by a behavior that moves. -/
theorem Lived.moves (lived : world.Lived others) {actor : Actor S T}
    (member : actor ∈ world.roster.actors) (moved : swayed world.helms actor ≠ actor) :
    actor.movable = true ∧ ∃ assignment, world.behaviors.get? actor.id = some assignment ∧
      assignment.kind ≠ .static ∧ (assignment.kind = .follow →
        (world.handle? (followed assignment.parameters)).isSome = true) := by
  unfold swayed at moved
  split at moved
  · rename_i helm taken
    have same : helm.actor.handle = actor.handle := of_decide_eq_true (List.find?_some taken :)
    obtain ⟨steers, own, assigned⟩ := lived.steers (List.mem_of_find?_eq_some taken)
    have found := (Roster.find?_eq_some_iff lived.sound.distinct).mpr ⟨member, rfl⟩
    have one : helm.actor = actor := by
      rw [← same, steers.there] at found
      exact Option.some.inj found
    subst one
    have turned : helm.after.velocity ≠ helm.body.velocity := by
      intro still
      rw [still] at moved
      exact moved (Actor.withVelocity_self steers.body)
    refine ⟨(Actor.movable_eq steers.body).trans steers.movable, helm.assignment, ?_, ?_, ?_⟩
    · rw [own]
      exact assigned
    · exact fun still => turned (helm.velocity_of_idle (.inl still))
    · intro follows
      rw [Option.isSome_iff_ne_none]
      intro nobody
      rw [← steers.owners.meant] at nobody
      exact turned (helm.velocity_of_idle (.inr ⟨follows, nobody⟩))
  · exact absurd rfl moved

theorem Lived.guides (lived : world.Lived others) (playing : world.playing = some session) :
    world.Guides := by
  have distinct := lived.distinguishes
  have ordered := world.behaviors.ordered
  obtain ⟨random, drawn⟩ := Option.isSome_iff_exists.mp (lived.hasPart playing .random)
  obtain ⟨numbers, total⟩ := draws_rota world.behaviors.entries drawn
  have inOrder := List.pairwise_map.mp (ids_rota ordered world)
  refine ⟨?_, fun _ => lived.steers, nodup_rota distinct ordered,
    List.pairwise_map.mpr (inOrder.imp Text.bytes_lt), fun _ => lived.moves,
    ⟨random, drawn, numbers, ?_, ?_⟩, ?_⟩
  · obtain ⟨roster, memories, random, sways⟩ := sways_rota world.behaviors.entries world
    have moved := roster_rota distinct ordered
    rw [sways] at moved
    refine ⟨memories, random, ?_⟩
    rw [runBehaviors_eq_foldl, sways]
    simp only [helms, ← moved]
  · rw [runBehaviors_eq_foldl]
    exact total
  · intro helm drawing
    rw [helm.after_of_veers (List.mem_filter.mp drawing).2]
  · intro helm _ wanders steady
    rw [helm.after_of_wanders wanders steady]
    rfl

end World

end Arcade
