import Arcade.Proofs.Contacts
import Arcade.Proofs.Mirroring
import Arcade.Proofs.Ownership

/-! Who comes and who leaves, and what is told of it. While a game is played a copy that is made is told
of, and so is whoever leaves; so the copies that are there are those that were told of as made, without
those that were told of as gone. When the game ends everybody leaves without a word. -/

namespace Arcade

variable {S T : Type}

namespace Signal

/-- Whether it is told that a game started. -/
def opens : Signal → Bool
  | .gameStarted .. => true
  | _ => false

/-- Whether it is told that a copy was made. -/
def welcomes : Signal → Bool
  | .objectSpawned .. => true
  | _ => false

/-- Whether it is told that somebody is gone. -/
def mourns : Signal → Bool
  | .objectDestroyed .. => true
  | _ => false

/-- Whether it is told that a member of a group is gone. -/
def mournsCopy : Signal → Bool
  | .objectDestroyed _ group => group.isSome
  | _ => false

end Signal

/-- What is told when an actor leaves. -/
def Actor.farewell (actor : Actor S T) : Signal := .objectDestroyed actor.id actor.group

/-- Only certain actors are removed. -/
def Deed.Removing (leaves : Handle → Prop) (_ : World S T) (deed : Deed S) : Prop :=
  ∀ handle, deed = .death handle → leaves handle

/-- Only those are removed who came before a world was what it is. -/
def Deed.Sparing (origin : World S T) (others : List Handle) (_ : World S T) (deed : Deed S) : Prop :=
  ∀ handle, deed = .death handle → origin.Issued others handle

namespace World

variable {may : World S T → Deed S → Prop} {world before middle after origin : World S T}
  {others : List Handle} {told : List Signal} {blueprint : Spec.Blueprint S} {id : String}
  {group : Option String} {handle : Handle} {identity : Identity S}
  {registry : Option (Registry S T)}

/-- How many copies are there. -/
def copyTotal (world : World S T) : Nat := world.roster.actors.countP (·.transient)

/-- What was told of who came and left since the last game started. -/
def newsOfGame (world : World S T) : List Signal := world.traffic.takeWhile (!·.opens)

/-- The actors of a world that are not there any more in another. -/
def leavers (before after : World S T) : List (Actor S T) :=
  before.roster.actors.filter fun actor => !after.alive actor.handle

/-! ### Counting -/

theorem who?_of_mem (sound : world.Sound others) {actor : Actor S T}
    (member : actor ∈ world.roster.actors) :
    world.roster.who? actor.handle = some actor.identity := by
  rw [Roster.who?, (Roster.find?_eq_some_iff sound.distinct).mpr ⟨member, rfl⟩]
  rfl

/-- Copies are counted by what is known of them. -/
theorem copyTotal_eq_countP (sound : world.Sound others) :
    world.copyTotal =
      world.roster.handles.countP fun handle => (world.roster.who? handle).any (·.transient) := by
  rw [copyTotal, Roster.handles, List.countP_map]
  refine List.countP_congr fun actor member => ?_
  rw [Function.comp_apply, who?_of_mem sound member]
  rfl

theorem copyTotal_of_sameNames (sound : before.Sound others) (same : SameNames before after) :
    after.copyTotal = before.copyTotal := by
  rw [copyTotal_eq_countP sound, copyTotal_eq_countP (sound.of_sameNames same), same.who]
  exact same.held.countP_eq _

theorem Made.copyTotal (made : Made before blueprint identity handle registry after)
    (sound : before.Sound others) :
    after.copyTotal = before.copyTotal + if identity.transient then 1 else 0 := by
  rw [copyTotal_eq_countP sound, copyTotal_eq_countP (made.sound sound), made.held.countP_eq,
    List.countP_cons, made.who, if_pos rfl, Option.any_some]
  congr 1
  refine List.countP_congr fun other member => ?_
  have apart : handle ≠ other := fun same => made.fresh sound (same ▸ member)
  rw [made.who, if_neg apart]

theorem Removed.copyTotal (removed : Removed before handle identity after)
    (sound : before.Sound others) :
    before.copyTotal = after.copyTotal + if identity.transient then 1 else 0 := by
  have distinct := (removed.held.nodup_iff.mp sound.distinct)
  rw [copyTotal_eq_countP sound, copyTotal_eq_countP (removed.sound sound), removed.held.countP_eq,
    List.countP_cons, removed.present, Option.any_some]
  congr 1
  refine List.countP_congr fun other member => ?_
  have apart : handle ≠ other := fun same => (List.nodup_cons.mp distinct).1 (same ▸ member)
  rw [removed.who, if_neg apart]

theorem leavers_congr (same : ∀ actor ∈ before.roster.actors,
    after.alive actor.handle = middle.alive actor.handle) :
    leavers before after = leavers before middle :=
  List.filter_congr fun actor member => by rw [same actor member]

/-- One more actor is not there any more. -/
theorem leavers_perm_cons (sound : before.Sound others) {actor : Actor S T}
    (member : actor ∈ before.roster.actors) (here : middle.alive actor.handle = true)
    (gone : after.alive actor.handle = false)
    (same : ∀ other, other ≠ actor.handle → after.alive other = middle.alive other) :
    (leavers before after).Perm (actor :: leavers before middle) := by
  have single : before.roster.actors.Nodup := List.Nodup.of_map _ sound.distinct
  have absent : actor ∉ leavers before middle := by
    intro inside
    have missing := (List.mem_filter.mp inside).2
    rw [here] at missing
    cases missing
  refine (List.perm_ext_iff_of_nodup (single.filter _)
    (List.nodup_cons.mpr ⟨absent, single.filter _⟩)).mpr fun other => ?_
  simp only [leavers, List.mem_cons, List.mem_filter]
  by_cases own : other.handle = actor.handle
  · constructor
    · exact fun ⟨inside, _⟩ => .inl (List.inj_on_of_nodup_map sound.distinct inside member own)
    · rintro (rfl | ⟨_, missing⟩)
      · exact ⟨member, by rw [gone]; rfl⟩
      · rw [own, here] at missing
        cases missing
  · rw [same other.handle own]
    constructor
    · exact .inr
    · rintro (rfl | inside)
      · exact absurd rfl own
      · exact inside

/-! ### A course -/

/-- What became of the actors of a world, and what was told of who came and left on the way. -/
structure Turnover (others : List Handle) (origin : World S T) (told : List Signal)
    (world : World S T) : Prop where
  sound : world.Sound others
  named : world.registry.isSome = true
  marked : ∀ handle who, world.roster.who? handle = some who → who.transient = who.group.isSome
  /-- Who was there is there as before, or gone for good. -/
  kept : ∀ handle who, origin.roster.who? handle = some who →
    world.roster.who? handle = some who ∨ world.Spent others handle
  gone : ∀ handle, origin.Spent others handle → world.Spent others handle
  traffic : world.traffic = told ++ origin.traffic
  midway : ∀ signal ∈ told, signal.opens = false
  /-- Each of those who left is told of, and nobody else. -/
  mourned : (told.filter Signal.mourns).Perm ((leavers origin world).map Actor.farewell)
  balance : world.copyTotal + told.countP Signal.mournsCopy =
    origin.copyTotal + told.countP Signal.welcomes

theorem Turnover.refl (sound : world.Sound others) (named : world.registry.isSome = true)
    (marked : ∀ handle who, world.roster.who? handle = some who →
      who.transient = who.group.isSome) :
    Turnover others world [] world where
  sound := sound
  named := named
  marked := marked
  kept _ _ known := .inl known
  gone _ gone := gone
  traffic := rfl
  midway := nofun
  mourned := by
    have nobody : leavers world world = [] := by
      refine List.filter_eq_nil_iff.mpr fun actor member => ?_
      rw [alive_eq_isSome, who?_of_mem sound member]
      exact Bool.false_ne_true
    rw [nobody]
    exact .nil
  balance := rfl

namespace Turnover

/-- Names stay what they are and nothing is told. -/
theorem still (turnover : Turnover others origin told before) (same : SameNames before after)
    (traffic : after.traffic = before.traffic) : Turnover others origin told after where
  sound := turnover.sound.of_sameNames same
  named := by
    rw [same.registry]
    exact turnover.named
  marked := by
    rw [same.who]
    exact turnover.marked
  kept handle who known := by
    rw [same.who]
    exact (turnover.kept handle who known).imp_right fun gone => gone.of_sameNames same
  gone handle gone := (turnover.gone handle gone).of_sameNames same
  traffic := traffic.trans turnover.traffic
  midway := turnover.midway
  mourned := by
    rw [leavers_congr fun actor _ => same.alive actor.handle]
    exact turnover.mourned
  balance := by
    rw [copyTotal_of_sameNames turnover.sound same]
    exact turnover.balance

/-- The registry takes a note. -/
theorem note (turnover : Turnover others origin told world) (registry : Registry S T) :
    Turnover others origin told { world with registry := some registry } :=
  { turnover with named := rfl }

/-- Nobody who was there at first, or is gone since, stands under a handle that is taken. -/
theorem ne_take (turnover : Turnover others origin told world) (sound : origin.Sound others)
    {actor : Actor S T} (member : actor ∈ origin.roster.actors) :
    world.handles.take.1 ≠ actor.handle := by
  have issued : world.Issued others actor.handle := by
    refine (turnover.kept _ _ (who?_of_mem sound member)).imp_left fun known => ?_
    rw [alive_eq_isSome, known]
    rfl
  exact (issued.ne_take turnover.sound).symm

theorem birth (turnover : Turnover others origin told before) (sound : origin.Sound others)
    (made : Made before blueprint ⟨id, group, group.isSome, blueprint.weapon?⟩ handle
      (some ((before.registry.getD .empty).joined blueprint id group handle)) after) :
    Turnover others origin ((group.map (Signal.objectSpawned id)).toList ++ told) after where
  sound := made.sound turnover.sound
  named := by
    rw [made.registry]
    rfl
  marked other who known := by
    rcases made.new_or_before known with ⟨-, rfl⟩ | before
    · rfl
    · exact turnover.marked other who before
  kept other who known := by
    have unknown := Roster.who?_eq_none_iff.mpr (made.fresh turnover.sound)
    exact (turnover.kept other who known).imp (made.who_of_before unknown) made.spent
  gone other gone := made.spent (turnover.gone other gone)
  traffic := by
    rw [made.traffic, turnover.traffic, List.append_assoc]
  midway := by
    cases group with
    | none => exact turnover.midway
    | some name => exact List.forall_mem_cons.mpr ⟨rfl, turnover.midway⟩
  mourned := by
    have alike : leavers origin after = leavers origin before := by
      refine leavers_congr fun actor member => ?_
      have apart : handle ≠ actor.handle := made.taken ▸ turnover.ne_take sound member
      rw [alive_eq_isSome, alive_eq_isSome, made.who, if_neg apart]
    rw [alike]
    cases group with
    | none => exact turnover.mourned
    | some name => exact turnover.mourned
  balance := by
    rw [made.copyTotal turnover.sound]
    have balance := turnover.balance
    cases group with
    | none => exact balance
    | some name =>
      simp only [Option.map_some, Option.toList_some, List.singleton_append, List.countP_cons,
        Signal.mournsCopy, Signal.welcomes, Option.isSome_some, ↓reduceIte, Bool.false_eq_true]
      omega

/-- Whoever is there and did not come on the way was there at first, and is known as it was. -/
theorem original (turnover : Turnover others origin told before) (sound : origin.Sound others)
    (issued : origin.Issued others handle) (present : before.roster.who? handle = some identity) :
    ∃ actor ∈ origin.roster.actors, actor.handle = handle ∧ actor.identity = identity := by
  have there : before.alive handle = true := by
    rw [alive_eq_isSome, present]
    rfl
  rcases issued with here | spent
  · obtain ⟨actor, found⟩ := Option.isSome_iff_exists.mp here
    obtain ⟨member, own⟩ := (Roster.find?_eq_some_iff sound.distinct).mp found
    refine ⟨actor, member, own, ?_⟩
    rcases turnover.kept handle actor.identity (by rw [Roster.who?, found]; rfl) with still | gone
    · rw [present] at still
      exact (Option.some.inj still).symm
    · rw [gone.not_alive] at there
      cases there
  · rw [(turnover.gone handle spent).not_alive] at there
    cases there

theorem death (turnover : Turnover others origin told before) (sound : origin.Sound others)
    (issued : origin.Issued others handle) (removed : Removed before handle identity after) :
    Turnover others origin (.objectDestroyed identity.id identity.group :: told) after where
  sound := removed.sound turnover.sound
  named := by
    rw [removed.registry, Option.isSome_map]
    exact turnover.named
  marked other who known := turnover.marked other who (removed.before_of_who known).2
  kept other who known := by
    rcases turnover.kept other who known with here | gone
    · by_cases same : other = handle
      · rw [same]
        exact .inr (removed.spent_self turnover.sound)
      · exact .inl (removed.who_of_before same here)
    · exact .inr (removed.spent gone)
  gone other gone := removed.spent (turnover.gone other gone)
  traffic := by
    obtain ⟨registry, found⟩ := Option.isSome_iff_exists.mp turnover.named
    rw [removed.traffic, found, turnover.traffic]
    rfl
  midway := List.forall_mem_cons.mpr ⟨rfl, turnover.midway⟩
  mourned := by
    have present : before.alive handle = true := by
      rw [alive_eq_isSome, removed.present]
      rfl
    obtain ⟨actor, member, rfl, known⟩ := turnover.original sound issued removed.present
    have absent : after.alive actor.handle = false := by
      rw [alive_eq_isSome, removed.who, if_pos rfl]
      rfl
    have others : ∀ other, other ≠ actor.handle → after.alive other = before.alive other := by
      intro other apart
      rw [alive_eq_isSome, alive_eq_isSome, removed.who, if_neg apart.symm]
    have farewell : Signal.objectDestroyed identity.id identity.group = actor.farewell := by
      rw [← known]
      rfl
    refine .trans ?_ ((leavers_perm_cons sound member present absent others).map _).symm
    rw [List.map_cons, ← farewell]
    exact turnover.mourned.cons _
  balance := by
    have counted := removed.copyTotal turnover.sound
    have copy := turnover.marked handle identity removed.present
    have balance := turnover.balance
    rw [copy] at counted
    simp only [List.countP_cons, Signal.mournsCopy, Signal.welcomes]
    by_cases grouped : identity.group.isSome = true
    · simp only [grouped, Bool.false_eq_true, ↓reduceIte] at counted ⊢
      omega
    · simp only [grouped, Bool.false_eq_true, ↓reduceIte] at counted ⊢
      omega

/-- Whatever is done on a course, each who leaves is told of, as long as nobody is removed who came on
the way. -/
theorem course (turnover : Turnover others origin told before) (sound : origin.Sound others)
    (course : Course (Deed.Sparing origin others) before after) :
    ∃ more, Turnover others origin (more ++ told) after := by
  induction course generalizing told with
  | quiet quiet => exact ⟨[], turnover.still quiet.names quiet.traffic⟩
  | birth _ made => exact ⟨_, turnover.birth sound made⟩
  | death allowed removed => exact ⟨[_], turnover.death sound (allowed _ rfl) removed⟩
  | note _ noted => exact ⟨[], turnover.note _⟩
  | record _ behaves memory => exact ⟨[], turnover.note _⟩
  | arrange _ arranged => exact ⟨[], turnover.still arranged.names arranged.traffic⟩
  | trans first second firstMore secondMore =>
    obtain ⟨more, turnover⟩ := firstMore turnover
    obtain ⟨others, turnover⟩ := secondMore turnover
    exact ⟨others ++ more, by rwa [List.append_assoc]⟩

end Turnover

/-- Where nobody is made as a copy and nobody leaves nothing is told. -/
theorem Course.traffic (course : Course may before after)
    (single : ∀ (world : World S T) blueprint id name, ¬ may world (.birth blueprint id (some name)))
    (spared : ∀ (world : World S T) handle, ¬ may world (.death handle)) :
    after.traffic = before.traffic := by
  induction course with
  | quiet quiet => exact quiet.traffic
  | @birth before after blueprint id group handle allowed made =>
    cases group with
    | none => exact made.traffic
    | some name => exact absurd allowed (single before blueprint id name)
  | death allowed removed => exact absurd allowed (spared _ _)
  | note _ noted => rfl
  | record _ behaves memory => rfl
  | arrange _ arranged => exact arranged.traffic
  | trans first second firstSame secondSame => exact secondSame.trans firstSame

/-! ### Contacts and rules -/

variable [Scalar S]

/-- Whoever is the second of a contact that is found is there, or the contact waited before. -/
theorem mem_detect {contact : Contact} (member : contact ∈ world.detect.contacts.getD []) :
    contact ∈ world.contacts.getD [] ∨ world.alive contact.second = true := by
  unfold detect at member
  split at member
  · split at member
    · rename_i registry bindings contacts _ _ _ waiting _
      let holds (state : Roster S T × List Contact) : Prop := world.roster.Alike state.1 ∧
        ∀ contact ∈ state.2, contact ∈ world.contacts.getD [] ∨ world.alive contact.second = true
      have met (kind : Contact.Kind) (index : Nat) (state : Roster S T × List Contact)
          (pair : Handle × Handle) (still : holds state) : holds (meet kind index state pair) := by
        refine ⟨still.1.trans (alike_meet kind index state pair), fun contact found => ?_⟩
        simp only [meet] at found
        split at found
        · rename_i second _ here
          split at found
          · rcases List.mem_append.mp found with old | new
            · exact still.2 contact old
            · right
              rw [List.mem_singleton.mp new, alive_eq_isSome, ← still.1.who, Roster.who?, here]
              rfl
          · exact still.2 contact found
        · exact still.2 contact found
      have start : holds (world.roster, contacts) := by
        refine ⟨.refl _, fun contact old => .inl ?_⟩
        rw [waiting]
        exact old
      exact (List.foldlRecOn bindings.zipIdx (detectBinding registry) start
        fun state still entry _ => List.foldlRecOn _ _ still
          fun state still pair _ => met _ _ state pair still).2 contact member
    · exact .inl member
  · exact .inl member

/-- Who may be removed in a part of a frame: the targets of contacts, and copies that left the space of
the scene. -/
def Leaves (world : World S T) (phase : Phase) (handle : Handle) : Prop :=
  match phase with
  | .dispatch => ∃ contact ∈ world.contacts.getD [], contact.second = handle
  | .cleanUp => ∃ arena actor, world.arena = some arena ∧
      world.roster.find? handle = some actor ∧ actor.transient = true ∧
        outside arena.extent actor.box = true
  | _ => False

/-- The second of each contact that waits was there once. -/
def Introduced (world : World S T) (others : List Handle) : Prop :=
  ∀ contact ∈ world.contacts.getD [], world.Issued others contact.second

theorem course_dispatch_removing (good : world.Sound others) :
    Course (Deed.Removing (world.Leaves .dispatch)) { world with contacts := world.dispatch.contacts }
      world.dispatch := by
  unfold dispatch
  split
  · exact .refl world
  · rename_i contacts waiting
    have emptied : World.Sound { world with contacts := some [] } others := good
    have course : Course (Deed.Removing (world.Leaves .dispatch)) { world with contacts := some [] }
        ((byBinding contacts).foldl dispatchOne { world with contacts := some [] }) := by
      refine Course.foldl_mem (fun later contact member sound => ?_) emptied
      have listed : world.Leaves .dispatch contact.second := by
        refine ⟨contact, ?_, rfl⟩
        rw [waiting]
        exact (perm_byBinding contacts).mem_iff.mp member
      unfold dispatchOne
      split
      · refine (course_rule sound _ _).mono fun _ deed allowed handle same => ?_
        rw [← Option.some.inj (allowed.2 handle same)]
        exact listed
      · exact .refl later
    rw [course.contacts]
    exact course

theorem course_cleanUp_removing (good : world.Sound others) :
    Course (Deed.Removing (world.Leaves .cleanUp)) world world.cleanUp := by
  unfold cleanUp
  split
  · exact .refl world
  · rename_i arena found
    refine Course.foldl_mem (fun later handle member sound => .destroy sound ?_) good
    rintro other same
    cases same
    obtain ⟨actor, here, rfl⟩ := List.mem_map.mp member
    obtain ⟨there, astray⟩ := List.mem_filter.mp here
    rw [Bool.and_eq_true] at astray
    exact ⟨arena, actor, found, (Roster.find?_eq_some_iff good.distinct).mpr ⟨there, rfl⟩, astray⟩

variable [Scalar T]

/-- Timer rules have no target, so they remove nobody. -/
theorem course_tickTimers_removing (good : world.Sound others) (leaves : Handle → Prop) :
    Course (Deed.Removing leaves) world world.tickTimers := by
  unfold tickTimers
  split
  · rename_i clock alarms _ _
    have read := quiet_alarms world ((pollAlarms clock.now alarms).map (·.1))
    refine .trans (.quiet read) (Course.foldl (fun later index sound => ?_)
      (good.of_sameNames read.names) _)
    refine (course_rule sound (.timer index) none).mono fun _ deed allowed handle same => ?_
    cases allowed.2 handle same
  · exact .refl world

variable [Circular S] [Sampling S] [Rounding T S]

theorem course_runPhase_removing (good : world.Sound others) {keyboard : Option (List Key)}
    {delta : T} {phase : Phase} (done : world.runPhase keyboard delta phase = .ok after) :
    Course (Deed.Removing (world.Leaves phase)) { world with contacts := after.contacts } after := by
  have spare {phase : Phase} (done : world.runPhase keyboard delta phase = .ok after)
      (none : ∀ (world : World S T) handle, ¬ phase.permits world (.death handle))
      (leaves : Handle → Prop) :
      Course (Deed.Removing leaves) { world with contacts := after.contacts } after := by
    refine (course_runPhase good done).1.mono fun later deed allowed handle same => ?_
    rw [same] at allowed
    exact absurd allowed (none later handle)
  cases phase with
  | timers =>
    cases done
    have course := course_tickTimers_removing good (world.Leaves .timers)
    rwa [course.contacts]
  | dispatch =>
    cases done
    exact course_dispatch_removing good
  | cleanUp =>
    cases done
    have course := course_cleanUp_removing good
    rwa [course.contacts]
  | _ => exact spare done (fun _ _ => id) _

/-- In a part of a frame nobody is removed who came in it. -/
theorem course_runPhase_sparing (good : world.Sound others) (introduced : world.Introduced others)
    {keyboard : Option (List Key)} {delta : T} {phase : Phase}
    (done : world.runPhase keyboard delta phase = .ok after) :
    Course (Deed.Sparing world others) { world with contacts := after.contacts } after := by
  refine (course_runPhase_removing good done).mono fun _ deed removing handle same => ?_
  have leaves := removing handle same
  cases phase with
  | dispatch =>
    obtain ⟨contact, waiting, rfl⟩ := leaves
    exact introduced contact waiting
  | cleanUp =>
    obtain ⟨-, actor, -, there, -⟩ := leaves
    refine .inl ?_
    rw [alive, Roster.contains, there]
    rfl
  | _ => exact leaves.elim

theorem law_introduced : Law fun (others : List Handle) (world : World S T) =>
    world.Introduced others where
  camera _ introduced contact member := Issued.camera (introduced contact member)
  phase := by
    intro others world after _ _ _ phase lived _ introduced done
    have good : world.Sound others := lived.sound
    obtain ⟨course, -⟩ := course_runPhase good done
    have still {contact : Contact} (issued : world.Issued others contact.second) :
        after.Issued others contact.second := by
      have same : World.Issued { world with contacts := after.contacts } others contact.second := issued
      exact same.course good course
    intro contact member
    by_cases search : phase = .contacts
    · subst search
      cases done
      exact still ((mem_detect member).elim (introduced contact) .inl)
    · by_cases serve : phase = .dispatch
      · subst serve
        cases done
        rw [contacts_dispatch good] at member
        cases waiting : world.contacts with
        | none =>
          rw [waiting] at member
          cases member
        | some contacts =>
          rw [waiting] at member
          cases member
      · rw [(course_runPhase_of_ne good search serve done).contacts] at member
        exact still (introduced contact member)
  draw := by
    intro others world after _ _ lived _ introduced done contact member
    have course := course_draw lived.sound done
    rw [course.contacts] at member
    exact (introduced contact member).course lived.sound course

theorem Lived.introduced (lived : world.Lived others) {session : Session}
    (playing : world.playing = some session) : world.Introduced others := by
  refine law_introduced.lived ?_ lived playing
  intro others world spec options scene later _ _ contact member
  have ready : (world.tearDown.setUp spec options.seed).Sound others :=
    (safe_tearDown world others later.sound).1
  have built : ((world.tearDown.setUp spec options.seed).build scene).contacts = some [] :=
    (course_build ready scene).contacts
  rw [(untouched_begin world spec scene options.seed).contacts.trans built] at member
  cases member

theorem Lived.turnover_refl (lived : world.Lived others) {session : Session}
    (playing : world.playing = some session) : Turnover others world [] world := by
  obtain ⟨registry, found, named⟩ := lived.named playing
  exact .refl lived.sound (by rw [found]; rfl) named.copies

/-- What became of the actors of a game in a part of a frame. -/
theorem Lived.turnover (lived : world.Lived others) {session : Session}
    (playing : world.playing = some session) {keyboard : Option (List Key)} {delta : T}
    {phase : Phase} (done : world.runPhase keyboard delta phase = .ok after) :
    ∃ told, Turnover others world told after := by
  have start : Turnover others world [] { world with contacts := after.contacts } :=
    (lived.turnover_refl playing).still ⟨rfl, List.Perm.refl _, rfl, rfl, rfl⟩ rfl
  obtain ⟨more, turnover⟩ := start.course lived.sound
    (course_runPhase_sparing lived.sound (lived.introduced playing) done)
  exact ⟨_, turnover⟩

/-- Nothing is told when a game is shown. -/
theorem Lived.turnover_draw (lived : world.Lived others) {session : Session}
    (playing : world.playing = some session) {pictures : Bool}
    (done : world.draw pictures = .ok after) : Turnover others world [] after := by
  have course := course_draw lived.sound done
  obtain ⟨more, turnover⟩ := (lived.turnover_refl playing).course lived.sound
    (course.mono fun _ _ allowed => allowed.elim)
  have same := turnover.traffic.symm.trans (course.traffic (fun _ _ _ _ => id) fun _ _ => id)
  rwa [List.append_left_eq_self.mp same] at turnover

/-! ### Silence -/

omit [Scalar S] [Scalar T] [Circular S] [Sampling S] [Rounding T S] in
/-- Everybody leaves without a word when a game ends. -/
theorem traffic_tearDown (world : World S T) : world.tearDown.traffic = world.traffic := by
  rw [World.traffic, log_tearDown]
  cases world.playing with
  | none => rfl
  | some session =>
    have told := traffic_emit world (.gameStopped session.scene session.generation) none
    exact told

omit [Scalar S] [Scalar T] [Circular S] [Sampling S] [Rounding T S] in
theorem traffic_stop (world : World S T) (session : Session) :
    (world.stop session).traffic = world.traffic := by
  unfold stop
  split
  · split
    · exact traffic_tearDown world
    · rfl
  · rfl

omit [Circular S] [Sampling S] [Rounding T S] in
/-- While a scene is built no copy is made and nobody leaves. -/
theorem traffic_build (good : world.Sound others) (scene : Spec.Scene S) :
    (world.build scene).traffic = world.traffic := by
  refine (course_build good scene).traffic (fun _ _ _ _ allowed => ?_) fun _ _ => id
  cases allowed.2.2

omit [Circular S] [Sampling S] [Rounding T S] in
/-- Of who comes and leaves nothing is told when a game starts, but that it starts. -/
theorem traffic_playScene (good : world.Sound others) (spec : Spec S) (scene : Spec.Scene S)
    (seed : Option Nat) :
    ∃ title name generation, (world.playScene spec scene seed).2.traffic =
      .gameStarted title name generation :: world.traffic := by
  have ready : (world.tearDown.setUp spec seed).Sound others := (safe_tearDown world others good).1
  let begun := (world.playScene spec scene seed).1
  have told := traffic_emit { (world.tearDown.setUp spec seed).build scene with
    playing := some begun } (.gameStarted spec.title scene.name begun.generation) none
  refine ⟨spec.title, scene.name, begun.generation, told.trans ?_⟩
  exact congrArg (_ :: ·) ((traffic_build ready scene).trans (traffic_tearDown world))

omit [Circular S] [Sampling S] [Rounding T S] in
/-- When a game starts there are no copies. -/
theorem copyTotal_playScene (whole : world.Whole) (good : world.Sound others) (spec : Spec S)
    (scene : Spec.Scene S) (seed : Option Nat) :
    (world.playScene spec scene seed).2.copyTotal = 0 := by
  let blank := world.tearDown.setUp spec seed
  let ready : World S T := { blank with library := some (actionsOf scene) }
  have sound : blank.Sound others := (safe_tearDown world others good).1
  have nobody : ready.roster.actors = [] := (whole.tearDown good).actors
  have start : Turnover others ready [] ready := by
    refine .refl sound rfl fun handle who known => ?_
    have absent : ready.roster.who? handle = none := by
      rw [Roster.who?_eq_none_iff, Roster.handles, nobody]
      exact List.not_mem_nil
    rw [absent] at known
    cases known
  have building : Course (Deed.OfBuilding scene) ready (blank.build scene) :=
    course_build sound scene
  obtain ⟨more, turnover⟩ := start.course sound
    (building.mono fun _ deed allowed handle same => by
      rw [same] at allowed
      exact absurd allowed id)
  have silent := turnover.traffic.symm.trans (traffic_build sound scene)
  have balance := turnover.balance
  have alone : ready.copyTotal = 0 := by
    rw [copyTotal, nobody]
    rfl
  rw [List.append_left_eq_self.mp silent, alone] at balance
  rw [copyTotal_of_sameNames (building.sound sound) (names_playScene world spec scene seed)]
  exact balance

/-! ### The balance -/

/-- The copies that are there and those that were told of as gone are those that were told of as made. -/
def Balanced (world : World S T) : Prop :=
  world.copyTotal + world.newsOfGame.countP Signal.mournsCopy =
    world.newsOfGame.countP Signal.welcomes

omit [Scalar S] [Scalar T] [Circular S] [Sampling S] [Rounding T S] in
theorem Turnover.balanced (turnover : Turnover others origin told world)
    (balanced : origin.Balanced) : world.Balanced := by
  have news : world.newsOfGame = told ++ origin.newsOfGame := by
    rw [newsOfGame, turnover.traffic, List.takeWhile_append_of_pos, newsOfGame]
    intro signal member
    rw [turnover.midway signal member]
    rfl
  have balance := turnover.balance
  rw [Balanced] at balanced ⊢
  rw [news, List.countP_append, List.countP_append]
  omega

theorem law_balanced : Law fun (_ : List Handle) (world : World S T) => world.Balanced where
  camera _ balanced := balanced
  phase lived playing balanced done := by
    obtain ⟨told, turnover⟩ := lived.turnover playing done
    exact turnover.balanced balanced
  draw lived playing balanced done := (lived.turnover_draw playing done).balanced balanced

theorem Lived.balanced (lived : world.Lived others) {session : Session}
    (playing : world.playing = some session) : world.Balanced := by
  refine law_balanced.lived ?_ lived playing
  intro others world spec options scene later _ _
  obtain ⟨title, name, generation, traffic⟩ :=
    traffic_playScene later.sound spec scene options.seed
  rw [Balanced, copyTotal_playScene later.whole later.sound, newsOfGame, traffic]
  rfl

/-- Copies are conserved while a game is played: those that are there are those that were told of as made
since it started, without those that were told of as gone. In each part of a frame everybody who is gone
after it was told of, each once, with its id and its group; nobody is gone when the game was shown. And
when the game ends, by a stop or by the start of another, nobody is told of. -/
theorem Lived.conserves (lived : world.Lived others) {session : Session}
    (playing : world.playing = some session) :
    world.roster.actors.countP (·.transient) + world.newsOfGame.countP Signal.mournsCopy =
        world.newsOfGame.countP Signal.welcomes ∧
      (∀ keyboard delta phase after, world.runPhase keyboard delta phase = .ok after →
        ∃ told, after.traffic = told ++ world.traffic ∧
          (told.filter Signal.mourns).Perm ((world.roster.actors.filter fun actor =>
            !after.alive actor.handle).map fun actor =>
              .objectDestroyed actor.id actor.group)) ∧
      (∀ pictures after, world.draw pictures = .ok after → after.traffic = world.traffic ∧
        ∀ actor ∈ world.roster.actors, after.alive actor.handle = true) ∧
      (∀ other, (world.stop other).traffic = world.traffic) ∧
      ∀ spec options, (world.tryStart spec options).1 = world ∨
        ∃ title scene generation, (world.tryStart spec options).1.traffic =
          .gameStarted title scene generation :: world.traffic := by
  refine ⟨lived.balanced playing, fun keyboard delta phase after done => ?_,
    fun pictures after done => ?_, world.traffic_stop, fun spec options => ?_⟩
  · obtain ⟨told, turnover⟩ := lived.turnover playing done
    exact ⟨told, turnover.traffic, turnover.mourned⟩
  · have turnover := lived.turnover_draw playing done
    refine ⟨turnover.traffic, fun actor member => ?_⟩
    have nobody := List.map_eq_nil_iff.mp (List.nil_perm.mp turnover.mourned)
    simpa using List.filter_eq_nil_iff.mp nobody actor member
  · rcases tryStart_cases world spec options with same | ⟨scene, -, -, started⟩
    · exact .inl same
    · rw [started]
      exact .inr (traffic_playScene lived.sound spec scene options.seed)

/-- In the middle of the second frame of the small game five coins were made, two are gone, and three are
there; and when rules fire these are told of as gone. -/
theorem Lived.conserves_coins :
    ∃ (others : List Handle) (session : Session) (world after : World Float32 Float),
      world.Lived others ∧ world.playing = some session ∧
        world.runPhase none 25 .dispatch = .ok after ∧
        world.newsOfGame.countP Signal.mournsCopy = 2 ∧
        world.newsOfGame.countP Signal.welcomes = 5 ∧
        world.roster.actors.countP (·.transient) = 3 ∧
        (∃ told, after.traffic = told ++ world.traffic ∧
          (told.filter Signal.mourns).Perm ((world.roster.actors.filter fun actor =>
            !after.alive actor.handle).map fun actor =>
              .objectDestroyed actor.id actor.group)) ∧
        after.roster.actors.countP (·.transient) = 0 := by
  have fine : ((Cabinet.new Sample.entropy none (Option.map Screen.start none) : Cabinet Float32 Float).run
      [.start Sample.spec .default, .step none 25]).toOption.any (fun cabinet =>
        cabinet.world.playing.isSome &&
          (cabinet.world.runPhases none 25 (Phase.order.take 8)).toOption.any fun world =>
            decide (world.newsOfGame.countP Signal.mournsCopy = 2) &&
              decide (world.newsOfGame.countP Signal.welcomes = 5) &&
              (world.runPhase none 25 .dispatch).toOption.any fun after =>
                decide (after.roster.actors.countP (·.transient) = 0)) = true := by
    decide +kernel
  obtain ⟨cabinet, ran, fine⟩ := exists_ok_of_any fine
  obtain ⟨active, fine⟩ := (Bool.and_eq_true _ _).mp fine
  obtain ⟨session, playing⟩ := Option.isSome_iff_exists.mp active
  obtain ⟨world, framed, fine⟩ := exists_ok_of_any fine
  simp only [Bool.and_eq_true, decide_eq_true_eq] at fine
  obtain ⟨⟨gone, made⟩, fine⟩ := fine
  obtain ⟨after, done, none⟩ := exists_ok_of_any fine
  obtain ⟨lived, still⟩ :=
    World.Lived.phases (Cabinet.alive_of_run ran) playing framed
  obtain ⟨balance, phases, -⟩ := conserves lived still
  rw [gone, made] at balance
  exact ⟨_, session, world, after, lived, still, done, gone, made, Nat.add_right_cancel balance,
    phases _ _ _ _ done, of_decide_eq_true none⟩

end World

end Arcade
