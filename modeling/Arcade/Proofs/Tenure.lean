import Arcade.Proofs.Bookkeeping
import Arcade.Proofs.Census
import Arcade.Proofs.Chronicle
import Arcade.Proofs.Copying
import Arcade.Proofs.Elapsed
import Arcade.Proofs.Guidance

/-! Behaviors as long as they are assigned. An assignment begins when an actor that declares a behavior
comes under an id. It ends when another such actor comes under the id, or when the id is dropped, and
with it goes what the behavior remembers. As long as it lasts only the turns of the behavior touch this:
an anchor stays where it is, and the time of the last direction is that of the last turn that took
one. -/

namespace Arcade

variable {S T : Type}

/-- The actor that declared last under an id. -/
def assigner? (births : List (Birth S)) (id : String) : Option Handle :=
  (births.find? fun birth => birth.id = id && birth.blueprint.assignment?.isSome).map (·.handle)

section

variable {birth : Birth S} {births : List (Birth S)} {id : String}

theorem assigner?_cons (birth : Birth S) (births : List (Birth S)) (id : String) :
    assigner? (birth :: births) id =
      if birth.id = id ∧ birth.blueprint.assignment?.isSome = true then some birth.handle
      else assigner? births id := by
  unfold assigner?
  split
  · rename_i declares
    rw [List.find?_cons_of_pos (by simpa using declares)]
    rfl
  · rename_i other
    rw [List.find?_cons_of_neg (by simpa using other)]

/-- Whoever declared last is among those who were made. -/
theorem exists_of_assigner? {handle : Handle} (assigned : assigner? births id = some handle) :
    ∃ birth ∈ births, birth.handle = handle ∧ birth.id = id := by
  obtain ⟨birth, found, own⟩ := Option.map_eq_some_iff.mp assigned
  have declares := List.find?_some found
  simp only [Bool.and_eq_true, decide_eq_true_eq] at declares
  exact ⟨birth, List.mem_of_find?_eq_some found, own, declares.1⟩

/-- Nobody declared last under two ids. -/
theorem assigner?_inj (once : (births.map (·.handle)).Nodup) {other : String} {handle : Handle}
    (first : assigner? births id = some handle) (second : assigner? births other = some handle) :
    id = other := by
  obtain ⟨birth, made, own, rfl⟩ := exists_of_assigner? first
  obtain ⟨again, also, same, rfl⟩ := exists_of_assigner? second
  rw [List.inj_on_of_nodup_map once made also (own.trans same.symm)]

/-- A behavior was declared by somebody. -/
theorem isSome_assigner?_of_declared? {assignment : Assignment}
    (declared : declared? births id = some assignment) : (assigner? births id).isSome = true := by
  obtain ⟨birth, member, own, declares⟩ := exists_of_declared? declared
  rw [assigner?, Option.isSome_map, List.find?_isSome]
  refine ⟨birth, member, ?_⟩
  rw [own, declares]
  simp

end

namespace World

variable {may : World S T → Deed S → Prop} {world before after : World S T} {others : List Handle}
  {id : String} {handle : Handle}

/-- The actor that declared last under an id. -/
def assigner? (world : World S T) (id : String) : Option Handle := Arcade.assigner? world.births id

/-- An id has the same behavior, assigned by the same actor, with the same memory. -/
structure SameTenure (id : String) (before after : World S T) : Prop where
  behavior : after.behaviors.get? id = before.behaviors.get? id
  assigner : after.assigner? id = before.assigner? id
  memory : after.memories.get? id = before.memories.get? id

theorem SameTenure.trans {middle : World S T} (first : SameTenure id before middle)
    (second : SameTenure id middle after) : SameTenure id before after :=
  ⟨second.behavior.trans first.behavior, second.assigner.trans first.assigner,
    second.memory.trans first.memory⟩

theorem SameOwners.assigner (same : SameOwners before after) (id : String) :
    after.assigner? id = before.assigner? id := by
  rw [assigner?, same.births, assigner?]

theorem SameIds.tenure (same : SameIds before after) (id : String) : SameTenure id before after :=
  ⟨by rw [same.behaviors], same.assigner id, by rw [same.memories]⟩

/-- An id has a behavior that was not assigned before, and that remembers nothing yet. -/
structure Begins (others : List Handle) (before : World S T) (id : String) (after : World S T) :
    Prop where
  blank : after.memories.get? id = none
  fresh : ∀ handle, before.Issued others handle → after.assigner? id ≠ some handle

/-- Where nothing is remembered anew a behavior that an id has is the one that it had, with all that it
remembers, or it has just been assigned. -/
theorem Course.tenure (course : Course may before after) (good : before.Sound others)
    (silent : ∀ (world : World S T) (id : String), ¬ may world (.record id))
    (assigned : (after.behaviors.get? id).isSome = true) :
    SameTenure id before after ∨ Begins others before id after := by
  induction course with
  | quiet quiet => exact .inl (quiet.names.ids.tenure id)
  | @birth before after blueprint name group handle _ made =>
    have came := made.cameUnder
    by_cases declares : name = id ∧ blueprint.assignment?.isSome = true
    · right
      refine ⟨?_, fun other issued => ?_⟩
      · rw [came.memories, if_pos declares]
      · rw [assigner?, came.births, assigner?_cons, if_pos declares]
        rintro ⟨⟩
        exact issued.ne_take good made.taken
    · left
      have kept : after.behaviors.get? id = before.behaviors.get? id := by
        rw [came.behaviors]
        split
        · rename_i own
          have silent : blueprint.assignment? = none :=
            Option.not_isSome_iff_eq_none.mp fun declared => declares ⟨own, declared⟩
          rw [silent, Option.none_or]
        · rfl
      refine ⟨kept, ?_, ?_⟩
      · rw [assigner?, came.births, assigner?_cons, if_neg declares, assigner?]
      · rw [came.memories, if_neg declares]
  | death _ removed =>
    have gone := removed.leftFrom
    rw [gone.behaviors] at assigned
    split at assigned
    · cases assigned
    · rename_i kept
      left
      refine ⟨?_, ?_, ?_⟩
      · rw [gone.behaviors, if_neg kept]
      · rw [assigner?, gone.births, assigner?]
      · rw [gone.memories, if_neg kept]
  | note _ noted => exact .inl ((sameIds_noted noted).tenure id)
  | record allowed _ _ => exact absurd allowed (silent _ _)
  | arrange _ arranged => exact .inl (arranged.names.ids.tenure id)
  | trans first second firstTenure secondTenure =>
    rcases secondTenure (first.sound good) assigned with same | begun
    · rw [same.behavior] at assigned
      rcases firstTenure good assigned with earlier | begun
      · exact .inl (earlier.trans same)
      · right
        refine ⟨same.memory.trans begun.blank, fun handle issued => ?_⟩
        rw [same.assigner]
        exact begun.fresh handle issued
    · exact .inr ⟨begun.blank, fun handle issued => begun.fresh handle (issued.course good first)⟩

/-- Wherever an id has a behavior it is the one that it had before, with all that it remembers, or it has
just been assigned. -/
def Carries (others : List Handle) (before after : World S T) : Prop :=
  ∀ id, (after.behaviors.get? id).isSome = true →
    SameTenure id before after ∨ Begins others before id after

/-- The anchor that the behavior of an id remembers. -/
def anchor? (world : World S T) (id : String) : Option S :=
  (world.memories.get? id).bind (·.anchor)

/-- The time that the behavior of an id remembers. -/
def lastChange? (world : World S T) (id : String) : Option T :=
  (world.memories.get? id).bind (·.lastChange)

variable [Scalar S] [Scalar T] [Circular S] [Sampling S] [Rounding T S] {session : Session}
  {keyboard : Option (List Key)} {delta : T} {phase : Phase}

theorem carries_runPhase (good : world.Sound others) (other : phase ≠ .behaviors)
    (done : world.runPhase keyboard delta phase = .ok after) : Carries others world after := by
  intro id assigned
  have course := (course_runPhase good done).1
  have sound : World.Sound { world with contacts := after.contacts } others := good
  rcases course.tenure sound (silent_of_ne other) assigned with same | begun
  · exact .inl ⟨same.behavior, same.assigner, same.memory⟩
  · exact .inr ⟨begun.blank, begun.fresh⟩

omit [Scalar T] [Circular S] [Sampling S] [Rounding T S] in
/-- Nothing is said otherwise of ids when a world is shown. -/
theorem sameIds_draw (good : world.Sound others) {pictures : Bool}
    (done : world.draw pictures = .ok after) : SameIds world after :=
  (course_draw good done).ids (SameIds world) ⟨⟨rfl, rfl, rfl⟩, rfl⟩
    (fun same kept => ⟨kept.toSameOwners.trans same.toSameOwners, same.memories.trans kept.memories⟩)
    (fun never => never.elim) (fun never => never.elim) (fun never => never.elim)

/-! ### Anchors -/

/-- No turn moves an anchor. -/
theorem anchor_steer {entry : String × Assignment} {anchor : S}
    (moored : world.anchor? id = some anchor) : (world.steer entry).anchor? id = some anchor := by
  by_cases own : id = entry.1
  · subst own
    cases taken : world.helm? entry with
    | none => rwa [steer_of_nobody taken]
    | some helm =>
      rw [anchor?, memories_steer taken]
      obtain ⟨rfl, same, -⟩ := helm?_eq_some taken
      rw [anchor?, ← same] at moored
      exact helm.anchor_after moored
  · rw [anchor?, (passes_steer world entry).memories id own]
    exact moored

theorem anchor_runBehaviors {anchor : S} (moored : world.anchor? id = some anchor) :
    world.runBehaviors.anchor? id = some anchor := by
  rw [runBehaviors_eq_foldl]
  generalize world.behaviors.entries = entries
  induction entries generalizing world with
  | nil => exact moored
  | cons entry rest ih => exact ih (anchor_steer moored)

/-- As long as it is assigned by somebody a behavior has an anchor. -/
def Berthed (id : String) (assigner : Handle) (anchor : S) (others : List Handle) (world : World S T) :
    Prop :=
  world.Issued others assigner ∧ ((world.behaviors.get? id).isSome = true →
    world.assigner? id = some assigner → world.anchor? id = some anchor)

omit [Scalar S] [Scalar T] [Circular S] [Sampling S] [Rounding T S] in
theorem Berthed.carried {assigner : Handle} {anchor : S}
    (moored : Berthed id assigner anchor others before) (carries : Carries others before after)
    (issued : after.Issued others assigner) :
    Berthed id assigner anchor others after := by
  refine ⟨issued, fun assigned own => ?_⟩
  rcases carries id assigned with same | begun
  · rw [same.behavior] at assigned
    rw [same.assigner] at own
    rw [anchor?, same.memory]
    exact moored.2 assigned own
  · exact absurd own (begun.fresh _ moored.1)

theorem law_berthed (id : String) (assigner : Handle) (anchor : S) :
    Law (Berthed (T := T) id assigner anchor) where
  camera _ moored := ⟨moored.1.camera, moored.2⟩
  phase {others world after session keyboard delta phase} lived playing moored done := by
    have course := (course_runPhase lived.sound done).1
    have sound : World.Sound { world with contacts := after.contacts } others := lived.sound
    have issued : World.Issued { world with contacts := after.contacts } others assigner := moored.1
    by_cases behaves : phase = .behaviors
    · subst behaves
      have same := sameOwners_ofBehaviors course
      cases done
      refine ⟨issued.course sound course, fun assigned own => anchor_runBehaviors (moored.2 ?_ ?_)⟩
      · rwa [same.behaviors] at assigned
      · rwa [same.assigner id] at own
    · exact moored.carried (carries_runPhase lived.sound behaves done) (issued.course sound course)
  draw lived playing moored done :=
    moored.carried (fun id _ => .inl ((sameIds_draw lived.sound done).tenure id))
      (moored.1.course lived.sound (course_draw lived.sound done))

omit [Scalar S] [Scalar T] [Circular S] [Sampling S] [Rounding T S] in
/-- A behavior was assigned by somebody who was made in the game. -/
theorem Tended.exists_assigner (tended : world.Tended)
    (assigned : (world.behaviors.get? id).isSome = true) :
    ∃ handle, world.assigner? id = some handle ∧ handle ∈ world.births.map (·.handle) := by
  obtain ⟨assignment, assigned⟩ := Option.isSome_iff_exists.mp assigned
  rcases tended id with declared | ⟨nothing, -⟩
  · rw [assigned] at declared
    obtain ⟨handle, own⟩ := Option.isSome_iff_exists.mp (isSome_assigner?_of_declared? declared.symm)
    obtain ⟨birth, member, rfl, -⟩ := exists_of_assigner? own
    exact ⟨birth.handle, own, List.mem_map_of_mem member⟩
  · rw [assigned] at nothing
    cases nothing

/-- An anchor that a behavior has stays where it is as long as the behavior is assigned. -/
theorem Later.keeps_anchor {others₀ : List Handle} {origin : World S T} {anchor : S}
    (lived : origin.Lived others₀) (begun : origin.playing = some session)
    (later : Later others₀ origin others world) (playing : world.playing = some session)
    (anchored : origin.anchor? id = some anchor)
    (assigned : (world.behaviors.get? id).isSome = true)
    (lasts : world.assigner? id = origin.assigner? id) : world.anchor? id = some anchor := by
  obtain ⟨registry, found, named⟩ := lived.named begun
  have behaves : (origin.behaviors.get? id).isSome = true := by
    rw [Option.isSome_iff_ne_none]
    intro nothing
    rw [anchor?, named.memory_eq_none found nothing] at anchored
    cases anchored
  obtain ⟨assigner, own, made⟩ := (lived.tended begun).exists_assigner behaves
  have moored : Berthed id assigner anchor others₀ origin :=
    ⟨lived.issued_of_born begun made, fun _ _ => anchored⟩
  exact ((law_berthed id assigner anchor).later lived begun moored later playing).2 assigned
    (lasts.trans own)

end World

/-! ### Directions taken at random -/

/-- The actor that assigned a behavior. -/
def Helm.assigner? (helm : Helm S T) : Option Handle := helm.found.assigner? helm.id

section

variable [Scalar S] [Scalar T] [Rounding T S] {past : List (Helm S T)} {helm : Helm S T}

/-- The turns in which a behavior took a direction at random. -/
def veersOf (assigner : Option Handle) (helms : List (Helm S T)) : List (Helm S T) :=
  helms.filter fun helm => helm.veers && helm.assigner? = assigner

/-- When a behavior took its last direction, as it is written. -/
def lastVeer (assigner : Option Handle) (helms : List (Helm S T)) : Option T :=
  (veersOf assigner helms).getLast?.map (·.now)

/-- Directions are taken at random when it is time to. -/
structure Wanders (helms : List (Helm S T)) : Prop where
  /-- A behavior takes a direction in its first turn, and then whenever its interval has passed since
  the last one. -/
  due : ∀ earlier helm later, helms = earlier ++ helm :: later → helm.assignment.kind = .random →
    (helm.veers = true ↔ ∀ last, lastVeer helm.assigner? earlier = some last →
      helm.interval ≤ helm.now - last)
  /-- As long as it lasts an assignment is the same. -/
  same : helms.Pairwise fun earlier later => earlier.assigner? = later.assigner? →
    earlier.assignment = later.assignment
  apart : helms.Pairwise fun earlier later => earlier.veers = true → later.veers = true →
    earlier.assigner? = later.assigner? → 0 ≤ later.interval →
      later.interval ≤ later.now - earlier.now

theorem wanders_nil : Wanders ([] : List (Helm S T)) where
  due earlier _ _ split := by cases earlier <;> cases split
  same := .nil
  apart := .nil

theorem lastVeer_concat (assigner : Option Handle) (past : List (Helm S T)) (helm : Helm S T) :
    lastVeer assigner (past ++ [helm]) =
      if helm.veers = true ∧ helm.assigner? = assigner then some helm.now
      else lastVeer assigner past := by
  rw [lastVeer, veersOf, List.filter_append]
  split
  · rename_i own
    rw [List.filter_cons_of_pos (by simpa using own), List.filter_nil, List.getLast?_concat]
    rfl
  · rename_i other
    rw [List.filter_cons_of_neg (by simpa using other), List.filter_nil, List.append_nil]
    rfl

theorem lastVeer_of_forall_ne {assigner : Option Handle}
    (others : ∀ helm ∈ past, helm.assigner? ≠ assigner) : lastVeer assigner past = none := by
  have nothing : veersOf assigner past = [] :=
    List.filter_eq_nil_iff.mpr fun helm member => by simpa using fun _ => others helm member
  rw [lastVeer, nothing]
  rfl

/-- If the last direction was taken long enough before, all were. -/
theorem Wanders.waited (wanders : Wanders past) (patient : ∀ span : T, 0 ≤ span → Patient span)
    (same : ∀ earlier ∈ past, earlier.assigner? = helm.assigner? →
      earlier.assignment = helm.assignment)
    (due : ∀ last, lastVeer helm.assigner? past = some last → helm.interval ≤ helm.now - last)
    (forward : 0 ≤ helm.interval) {earlier : Helm S T} (member : earlier ∈ past)
    (veers : earlier.veers = true) (own : earlier.assigner? = helm.assigner?) :
    helm.interval ≤ helm.now - earlier.now := by
  have listed : earlier ∈ veersOf helm.assigner? past :=
    List.mem_filter.mpr ⟨member, by simp [veers, own]⟩
  have spread : (veersOf helm.assigner? past).Pairwise _ := wanders.apart.filter _
  rcases List.eq_nil_or_concat (veersOf helm.assigner? past) with nothing | ⟨front, last, split⟩
  · rw [nothing] at listed
    cases listed
  · rw [List.concat_eq_append] at split
    have latest : helm.interval ≤ helm.now - last.now :=
      due last.now (by rw [lastVeer, split, List.getLast?_concat]; rfl)
    have there : last ∈ veersOf helm.assigner? past := by
      rw [split]
      exact List.mem_append_right _ List.mem_cons_self
    obtain ⟨before, lastOwn⟩ := List.mem_filter.mp there
    obtain ⟨lastVeers, lastOwn⟩ := (Bool.and_eq_true _ _).mp lastOwn
    have lastOwn := of_decide_eq_true lastOwn
    have interval : last.interval = helm.interval := by
      rw [Helm.interval, Helm.interval, same last before lastOwn]
    rw [split] at listed spread
    rcases List.mem_append.mp listed with early | now
    · have waits := (List.pairwise_append.mp spread).2.2 earlier early last List.mem_cons_self veers
        lastVeers (own.trans lastOwn.symm) (interval ▸ forward)
      rw [interval] at waits
      exact patient _ forward _ _ _ waits latest
    · rw [List.mem_singleton.mp now]
      exact latest

/-- What was written stays as it should be when a turn that is as it should be is added. -/
theorem Wanders.concat (wanders : Wanders past) (patient : ∀ span : T, 0 ≤ span → Patient span)
    (same : ∀ earlier ∈ past, earlier.assigner? = helm.assigner? →
      earlier.assignment = helm.assignment)
    (remembers : helm.memory?.bind (·.lastChange) = lastVeer helm.assigner? past) :
    Wanders (past ++ [helm]) := by
  have timely (kind : helm.assignment.kind = .random) :
      helm.veers = true ↔ ∀ last, lastVeer helm.assigner? past = some last →
        helm.interval ≤ helm.now - last := by
    rw [Helm.veers, remembers, kind, decide_eq_true rfl, Bool.true_and]
    cases lastVeer helm.assigner? past with
    | none => exact iff_of_true rfl (fun _ never => by cases never)
    | some last =>
      rw [Behavior.changeDue, decide_eq_true_eq]
      exact ⟨fun due _ same => Option.some.inj same ▸ due, fun due => due last rfl⟩
  refine ⟨?_, List.pairwise_append.mpr ⟨wanders.same, List.pairwise_singleton _ _, ?_⟩,
    List.pairwise_append.mpr ⟨wanders.apart, List.pairwise_singleton _ _, ?_⟩⟩
  · intro earlier turn later split kind
    rcases List.eq_nil_or_concat later with rfl | ⟨front, last, rfl⟩
    · obtain ⟨rfl, own⟩ := List.append_inj' split rfl
      cases own
      exact timely kind
    · rw [List.concat_eq_append, ← List.cons_append, ← List.append_assoc] at split
      exact wanders.due earlier turn front (List.append_inj' split rfl).1 kind
  · intro earlier member turn now own
    cases List.mem_singleton.mp now
    exact same earlier member own
  · intro earlier member turn now veers turns own forward
    cases List.mem_singleton.mp now
    have kind : helm.assignment.kind = .random :=
      of_decide_eq_true ((Bool.and_eq_true _ _).mp turns).1
    exact wanders.waited patient same ((timely kind).mp turns) forward member veers own

end

/-! ### A game -/

/-- What is known of the turns of a game as long as it is played. -/
structure Recorded [Scalar S] [Scalar T] [Rounding T S] (past : List (Helm S T)) (world : World S T) :
    Prop where
  told : Wanders past
  known : ∀ helm ∈ past, ∃ handle, helm.assigner? = some handle ∧
    handle ∈ world.births.map (·.handle)
  /-- As long as it lasts an assignment is the same. -/
  same : ∀ helm ∈ past, ∀ id, (world.behaviors.get? id).isSome = true →
    helm.assigner? = world.assigner? id → world.behaviors.get? id = some helm.assignment
  memory : ∀ id, (world.behaviors.get? id).isSome = true →
    world.lastChange? id = lastVeer (world.assigner? id) past

section

variable [Scalar S] [Scalar T] [Rounding T S] {past : List (Helm S T)} {before after : World S T}
  {others : List Handle}

/-- Between turns behaviors are carried along, and new ones know of nothing. -/
theorem Recorded.carried (recorded : Recorded past before) (carries : before.Carries others after)
    (issued : ∀ handle ∈ before.births.map (·.handle), before.Issued others handle)
    (grows : ∀ handle ∈ before.births.map (·.handle), handle ∈ after.births.map (·.handle)) :
    Recorded past after := by
  refine ⟨recorded.told, ?_, ?_, ?_⟩
  · intro helm member
    obtain ⟨handle, own, made⟩ := recorded.known helm member
    exact ⟨handle, own, grows handle made⟩
  · intro helm member id assigned own
    rcases carries id assigned with same | begun
    · rw [same.behavior] at assigned ⊢
      rw [same.assigner] at own
      exact recorded.same helm member id assigned own
    · obtain ⟨handle, known, made⟩ := recorded.known helm member
      exact absurd (own.symm.trans known) (begun.fresh handle (issued handle made))
  · intro id assigned
    rcases carries id assigned with same | begun
    · rw [same.behavior] at assigned
      rw [World.lastChange?, same.memory, same.assigner]
      exact recorded.memory id assigned
    · rw [World.lastChange?, begun.blank, lastVeer_of_forall_ne]
      · rfl
      · intro helm member own
        obtain ⟨handle, known, made⟩ := recorded.known helm member
        exact begun.fresh handle (issued handle made) (own.symm.trans known)

theorem Recorded.sameIds (recorded : Recorded past before) (same : World.SameIds before after) :
    Recorded past after := by
  refine ⟨recorded.told, ?_, ?_, ?_⟩
  · rw [same.births]
    exact recorded.known
  · intro helm member id
    rw [same.behaviors, same.assigner]
    exact recorded.same helm member id
  · intro id
    rw [same.behaviors, World.lastChange?, same.memories, same.assigner]
    exact recorded.memory id

variable [Circular S] [Sampling S] {world : World S T}

/-- A turn is written as it is taken. -/
theorem Recorded.steer (recorded : Recorded past world)
    (patient : ∀ span : T, 0 ≤ span → Patient span) (once : (world.births.map (·.handle)).Nodup)
    (tended : world.Tended) {entry : String × Assignment}
    (assigned : world.behaviors.get? entry.1 = some entry.2) :
    Recorded (past ++ (world.helm? entry).toList) (world.steer entry) := by
  cases taken : world.helm? entry with
  | none =>
    rw [World.steer_of_nobody taken, Option.toList_none, List.append_nil]
    exact recorded
  | some helm =>
    have passes := World.passes_steer world entry
    have remembers := World.memories_steer taken
    have behaves : (world.behaviors.get? entry.1).isSome = true := by rw [assigned]; rfl
    obtain ⟨assigner, own, made⟩ := tended.exists_assigner behaves
    obtain ⟨rfl, rightId, rightKind, -⟩ := World.helm?_eq_some taken
    have helmOwn : helm.assigner? = some assigner := by rw [Helm.assigner?, rightId, own]
    have memory : helm.memory?.bind (·.lastChange) = lastVeer helm.assigner? past := by
      rw [helmOwn, ← own, ← recorded.memory entry.1 behaves, Helm.memory?, rightId]
      rfl
    -- another id has a behavior that somebody else assigned
    have others (id : String) (same : helm.assigner? = helm.found.assigner? id) : id = entry.1 :=
      assigner?_inj once (same.symm.trans helmOwn) own
    refine ⟨recorded.told.concat patient (fun earlier member same => ?_) memory, ?_, ?_, ?_⟩
    · have known := recorded.same earlier member entry.1 behaves (same.trans (helmOwn.trans own.symm))
      rw [assigned] at known
      rw [rightKind, ← Option.some.inj known]
    · intro turn member
      rw [passes.owners.births]
      rcases List.mem_append.mp member with old | new
      · exact recorded.known turn old
      · cases List.mem_singleton.mp new
        exact ⟨assigner, helmOwn, made⟩
    · intro turn member id
      rw [passes.owners.behaviors, passes.owners.assigner]
      intro known same
      rcases List.mem_append.mp member with old | new
      · exact recorded.same turn old id known same
      · cases List.mem_singleton.mp new
        rw [others id same, assigned, rightKind]
    · intro id
      rw [passes.owners.behaviors, passes.owners.assigner, Option.toList_some, lastVeer_concat]
      intro known
      by_cases here : id = entry.1
      · subst here
        rw [World.lastChange?, remembers, own, ← helmOwn]
        cases veers : helm.veers with
        | true =>
          rw [if_pos ⟨rfl, rfl⟩, helm.after_of_veers veers]
          rfl
        | false =>
          rw [if_neg fun both => Bool.false_ne_true both.1, (helm.after_of_steady veers).2]
          exact memory
      · rw [if_neg fun both => here (others id both.2), World.lastChange?, passes.memories id here]
        exact recorded.memory id known

theorem Recorded.rota (recorded : Recorded past world)
    (patient : ∀ span : T, 0 ≤ span → Patient span) (once : (world.births.map (·.handle)).Nodup)
    (tended : world.Tended) {entries : List (String × Assignment)}
    (assigned : ∀ entry ∈ entries, world.behaviors.get? entry.1 = some entry.2) :
    Recorded (past ++ World.rota entries world) (entries.foldl World.steer world) := by
  induction entries generalizing past world with
  | nil =>
    rw [World.rota, List.append_nil]
    exact recorded
  | cons entry rest ih =>
    obtain ⟨now, later⟩ := List.forall_mem_cons.mp assigned
    have owners := (World.passes_steer world entry).owners
    rw [World.rota, ← List.append_assoc]
    refine ih (recorded.steer patient once tended now) ?_ (tended.same owners) ?_
    · rw [owners.births]
      exact once
    · rw [owners.behaviors]
      exact later

variable {session : Session} {keyboard : Option (List Key)} {delta : T}

theorem Recorded.runBehaviors (recorded : Recorded past world)
    (patient : ∀ span : T, 0 ≤ span → Patient span) (lived : world.Lived others)
    (playing : world.playing = some session) :
    Recorded (past ++ world.helms) world.runBehaviors := by
  obtain ⟨registry, -, named⟩ := lived.named playing
  rw [World.runBehaviors_eq_foldl]
  exact recorded.rota patient named.once (lived.tended playing) fun entry member =>
    (world.behaviors.mem_entries_iff entry.1 entry.2).mp member

/-- In the other parts of a frame nothing is written. -/
theorem Recorded.runPhases (recorded : Recorded past world) (lived : world.Lived others)
    (playing : world.playing = some session) {phases : List Phase} (apart : .behaviors ∉ phases)
    (done : world.runPhases keyboard delta phases = .ok after) : Recorded past after := by
  refine World.Lived.keeps_runPhases (fun member lived playing recorded done => ?_) lived playing
    recorded done
  have carries := World.carries_runPhase lived.sound (ne_of_mem_of_not_mem member apart) done
  exact recorded.carried carries (fun _ made => World.Lived.issued_of_born lived playing made)
    fun _ made => (World.runs_runPhase done).mem_births made

namespace World

/-- The turns of a frame under the keys that are held. -/
def steerings (world : World S T) (keyboard : Option (List Key)) (delta : T) : List (Helm S T) :=
  match world.runPhases keyboard delta Phase.behaviors.earlier with
  | .ok found => found.helms
  | .error _ => []

/-- When a game starts no behavior remembers a time. -/
theorem recorded_playScene (lived : world.Lived others) (spec : Spec S) (scene : Spec.Scene S)
    (seed : Option Nat) : Recorded [] (world.playScene spec scene seed).2 := by
  have ready : (world.tearDown.setUp spec seed).Sound others :=
    (safe_tearDown world others lived.sound).1
  have same := (names_playScene world spec scene seed).ids
  refine ⟨wanders_nil, by simp, by simp, fun id assigned => ?_⟩
  rw [same.behaviors] at assigned
  rw [lastChange?, same.memories]
  rcases (course_build ready scene).tenure ready (fun _ _ silent => silent) assigned with kept | begun
  · rw [kept.behavior] at assigned
    cases assigned
  · rw [begun.blank]
    rfl

/-- Before its behaviors have their turns a frame lets time pass, drives actors and makes shots. -/
theorem exists_steered (lived : world.Lived others) (playing : world.playing = some session)
    (recorded : Recorded past world) (keyboard : Option (List Key)) (delta : T) :
    ∃ found, world.runPhases keyboard delta Phase.behaviors.earlier = .ok found ∧
      found.Lived others ∧ found.playing = some session ∧ Recorded past found := by
  have running : world.runPhases keyboard delta Phase.behaviors.earlier =
      .ok ((world.advanceClock delta).driveControls keyboard).fireShots := rfl
  obtain ⟨lives, still⟩ := World.Lived.phases lived playing running
  exact ⟨_, running, lives, still, recorded.runPhases lived playing (by decide) running⟩

/-- Behaviors take directions as they should as long as a game is played. -/
theorem saga_steerings (patient : ∀ span : T, 0 ≤ span → Patient span) (session : Session) :
    Saga World.steerings session (Recorded (S := S) (T := T)) Wanders where
  blank := wanders_nil
  start lived _ _ _ := recorded_playScene lived _ _ _
  camera _ recorded := ⟨recorded.told, recorded.known, recorded.same, recorded.memory⟩
  draw lived recorded done := recorded.sameIds (sameIds_draw lived.sound done)
  frame {past others world} keyboard delta lived playing recorded := by
    obtain ⟨found, running, lives, still, recorded⟩ :=
      exists_steered lived playing recorded keyboard delta
    rw [steerings, running]
    exact (recorded.runBehaviors patient lives still).told
  step {past others world after keyboard delta} lived playing recorded done := by
    obtain ⟨found, running, lives, still, recorded⟩ :=
      exists_steered lived playing recorded keyboard delta
    have parts : Phase.order = Phase.behaviors.earlier ++
        ([.behaviors] ++ [.spawners, .timers, .movement, .contacts, .dispatch, .cleanUp]) := rfl
    rw [step, playing, parts, runPhases_append_eq_ok_iff] at done
    obtain ⟨earlier, early, done⟩ := done
    cases Except.ok.inj (early.symm.trans running)
    have guiding : found.runPhases keyboard delta [.behaviors] = .ok found.runBehaviors := rfl
    obtain ⟨guidedLives, guidedStill⟩ := World.Lived.phases lives still guiding
    rw [steerings, running]
    exact (recorded.runBehaviors patient lives still).runPhases guidedLives guidedStill (by decide)
      done

end World

end

/-- Whatever was done to a cabinet: whenever behaviors have their turns they change only velocities of
actors that can be moved and whose ids they have, each once, and the random numbers that they draw; an
anchor that a behavior has stays where it is as long as the behavior is assigned; and directions are
taken at random when it is time to, as often as the game goes on and in a frame that comes next. -/
theorem Cabinet.steers_as_assigned [Scalar S] [Circular S] [Sampling S] [Rounding Float S]
    {entropy : Entropy} {watch : Option Watch} {pictures : Option Bool}
    {operations : List (Operation S Float)}
    {cabinet : Cabinet S Float} {session : Session}
    (ran : (new entropy watch (pictures.map Screen.start)).run operations = .ok cabinet)
    (playing : cabinet.world.playing = some session) (keyboard : Option (List Key)) (delta : Float) :
    (∀ phases world, cabinet.world.runPhases keyboard delta phases = .ok world →
      world.Guides ∧
      ∀ held later, World.Later cabinet.held world held later → later.playing = some session →
        ∀ id anchor, world.anchor? id = some anchor → (later.behaviors.get? id).isSome = true →
          later.assigner? id = world.assigner? id → later.anchor? id = some anchor) ∧
    Wanders ((new entropy watch (pictures.map Screen.start)).chronicle World.steerings session operations ++
      cabinet.world.steerings keyboard delta) := by
  have lived : cabinet.world.Lived cabinet.held := alive_of_run ran
  have patient (span : Float) (forward : 0 ≤ span) : Patient span := patient_double forward
  constructor
  · intro phases world framed
    obtain ⟨lives, still⟩ := World.Lived.phases lived playing framed
    refine ⟨World.Lived.guides lives still, ?_⟩
    intro held later reached goes id anchor moored assigned lasts
    exact reached.keeps_anchor lives still goes moored assigned lasts
  · have saga : Saga World.steerings session (Recorded (S := S) (T := Float)) Wanders :=
      World.saga_steerings patient session
    exact saga.frame keyboard delta lived playing (saga.held_new ran playing)

namespace Sample

/-- A square that can be moved, with a behavior. -/
def mover (id : String) (behavior : Spec.BehaviorKind) (parameters : Option Json) :
    Spec.Blueprint Float32 :=
  { walker id with
    body := some ⟨.dynamic, none, none, none⟩
    behavior := some behavior
    parameters }

/-- A guard on patrol, a hound that has nobody to follow, and two insects that fly at random. -/
def garden : Spec Float32 :=
  { spec with scenes := [{
      name := "main"
      objects := [mover "moth" .random none, mover "guard" .patrol none, mover "hound" .follow none,
        mover "fly" .random (some (.object [("interval", .number (.int 40))]))]
      logic := none }] }

/-- The game is played for three frames. -/
def flying : List (Operation Float32 Float) :=
  [.start garden .default, .step none 25, .step none 25, .step none 25]

end Sample

/-- Both insects take a direction in the first frame, the fly before the moth; in the third one it is
time for the fly again. -/
theorem Cabinet.steers_as_assigned_garden :
    ∃ (cabinet : Cabinet Float32 Float) (session : Session) (world : World Float32 Float)
      (anchor : Float32),
      (new Sample.entropy none (Option.map Screen.start none)).run Sample.flying = .ok cabinet ∧
        cabinet.world.playing = some session ∧
        ((((new Sample.entropy none (Option.map Screen.start none)).chronicle World.steerings session
          Sample.flying).filter (·.veers)).map (·.id)) = ["fly", "moth", "fly"] ∧
        cabinet.world.runPhases none 25 Phase.behaviors.earlier = .ok world ∧
        world.helms.map (·.id) = ["fly", "guard", "hound", "moth"] ∧ world.Guides ∧
        world.anchor? "guard" = some anchor ∧ world.runBehaviors.anchor? "guard" = some anchor ∧
        Wanders ((new Sample.entropy none (Option.map Screen.start none)).chronicle World.steerings session
          Sample.flying ++ cabinet.world.steerings none 25) := by
  have fine : ((new Sample.entropy none (Option.map Screen.start none) : Cabinet Float32 Float).run
      Sample.flying).toOption.any (fun cabinet => cabinet.world.playing.any fun session =>
        decide (((((new Sample.entropy none (Option.map Screen.start none)).chronicle World.steerings
          session Sample.flying).filter (·.veers)).map (·.id)) = ["fly", "moth", "fly"]) &&
        (cabinet.world.runPhases none 25 Phase.behaviors.earlier).toOption.any fun world =>
          decide (world.helms.map (·.id) = ["fly", "guard", "hound", "moth"]) &&
          (world.anchor? "guard").isSome &&
          decide (world.runBehaviors.assigner? "guard" = world.assigner? "guard") &&
          (world.runBehaviors.behaviors.get? "guard").isSome) = true := by decide +kernel
  obtain ⟨cabinet, ran, fine⟩ := exists_ok_of_any fine
  obtain ⟨session, playing, fine⟩ := (Option.any_eq_true _ _).mp fine
  obtain ⟨told, fine⟩ := (Bool.and_eq_true _ _).mp fine
  obtain ⟨world, framed, fine⟩ := exists_ok_of_any fine
  simp only [Bool.and_eq_true, decide_eq_true_eq] at fine
  obtain ⟨⟨⟨turns, moored⟩, lasts⟩, assigned⟩ := fine
  obtain ⟨anchor, moored⟩ := Option.isSome_iff_exists.mp moored
  obtain ⟨inFrame, wanders⟩ := steers_as_assigned ran playing none 25
  obtain ⟨guides, keeps⟩ := inFrame _ world framed
  have lived : cabinet.world.Lived cabinet.held := alive_of_run ran
  obtain ⟨lives, still⟩ := World.Lived.phases lived playing framed
  have guiding : world.runPhases none 25 [.behaviors] = .ok world.runBehaviors := rfl
  obtain ⟨later, goes⟩ := World.Later.phases .refl (World.Lived.sound lives) still guiding
  exact ⟨cabinet, session, world, anchor, ran, playing, of_decide_eq_true told, framed, turns, guides,
    moored, keeps _ _ later goes _ _ moored assigned lasts, wanders⟩

end Arcade
