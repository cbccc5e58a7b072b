import Arcade.Proofs.Census
import Arcade.Proofs.Numbering
import Arcade.Proofs.Quota
import Arcade.Proofs.Removal
import Arcade.Proofs.Turnover
import Mathlib.Data.List.Perm.Subperm

/-! Copies that leave the space of a game. A frame ends with a look at all copies, and those that are
entirely beyond an edge by more than a margin are removed one after the other, like anybody who is
removed. Only copies are looked at: what a scene declares stays wherever it is, and so does the banner
of a game that has ended. And a copy that is gone stays counted. -/

namespace Arcade

variable {S T : Type}

/-- A box is entirely beyond an edge of a space that begins at the origin, by more than the margin. -/
def Box.Astray [Scalar S] (extent : Vec S) (box : Box S) : Prop :=
  box.high.x < -100 ∨ box.high.y < -100 ∨ extent.x + 100 < box.low.x ∨ extent.y + 100 < box.low.y

instance [Scalar S] (extent : Vec S) (box : Box S) : Decidable (box.Astray extent) :=
  inferInstanceAs (Decidable (_ ∨ _ ∨ _ ∨ _))

/-- No spawner of a scene that goes by an id may make more copies than a number. -/
def Spec.Scene.Caps (scene : Spec.Scene S) (id : String) (most : Nat) : Prop :=
  ∀ spawner ∈ scene.spawners, spawner.id = id → ∃ own ≤ most, spawner.maxCount = some own

namespace World

variable {world before middle after : World S T} {others : List Handle} {registry : Registry S T}
  {handle : Handle} {gone rest : List (Actor S T)} {session : Session}

/-- The copies that left a space, in the order in which they stand. -/
def strays [Scalar S] (world : World S T) (extent : Vec S) : List (Actor S T) :=
  world.roster.actors.filter fun actor => actor.transient && decide (actor.box.Astray extent)

theorem mem_strays [Scalar S] {extent : Vec S} {actor : Actor S T} :
    actor ∈ world.strays extent ↔
      actor ∈ world.roster.actors ∧ actor.transient = true ∧ actor.box.Astray extent := by
  rw [strays, List.mem_filter, Bool.and_eq_true, decide_eq_true_iff]

theorem outside_eq_decide [Scalar S] (extent : Vec S) (box : Box S) :
    outside extent box = decide (box.Astray extent) := by
  rw [Bool.eq_iff_iff, outside, Bool.or_eq_true, Bool.or_eq_true, Bool.or_eq_true, or_assoc, or_assoc,
    decide_eq_true_iff, decide_eq_true_iff, decide_eq_true_iff, decide_eq_true_iff, decide_eq_true_iff]
  exact Iff.rfl

/-! ### Who is removed -/

/-- Actors are gone with all that goes by them, and everything else is as it was. -/
structure Clears (before : World S T) (gone : List (Actor S T)) (after : World S T) : Prop where
  left : ∀ actor ∈ gone, after.alive actor.handle = false
  /-- Everybody else has all the parts that it had, and nobody came. -/
  others : ∀ other, (∀ actor ∈ gone, other ≠ actor.handle) →
    after.roster.find? other = before.roster.find? other
  /-- What an id means, and what is said under it, is dropped only if it means one of them. -/
  meant : ∀ id, after.handle? id =
    if ∃ actor ∈ gone, before.handle? id = some actor.handle then none else before.handle? id
  behaviors : ∀ id, after.behaviors.get? id =
    if ∃ actor ∈ gone, before.handle? id = some actor.handle then none
    else before.behaviors.get? id
  memories : ∀ id, after.memories.get? id =
    if ∃ actor ∈ gone, before.handle? id = some actor.handle then none
    else before.memories.get? id
  /-- The other members of a group stay in their order, and no group goes. -/
  members : ∀ name, (after.registry.getD .empty).members name =
    ((before.registry.getD .empty).members name).filter
      fun member => ∀ actor ∈ gone, member ≠ actor.handle
  groups : ∀ name, (after.registry.getD .empty).hasGroup name =
    (before.registry.getD .empty).hasGroup name
  counts : (after.registry.getD .empty).copies = (before.registry.getD .empty).copies ∧
    (after.registry.getD .empty).shots = (before.registry.getD .empty).shots
  /-- Each is told of once, one after the other. -/
  told : after.log = gone.foldl (fun log actor =>
    log.emit (.objectDestroyed actor.id actor.group) (some actor.handle)) before.log
  /-- The rest of the world is the same. -/
  rest : after = { before with
    handles := after.handles
    roster := after.roster
    registry := after.registry
    log := after.log }

theorem Clears.refl (world : World S T) : Clears world [] world where
  left _ never := absurd never List.not_mem_nil
  others _ _ := rfl
  meant _ := by simp
  behaviors _ := by simp
  memories _ := by simp
  members _ := by simp
  groups _ := rfl
  counts := ⟨rfl, rfl⟩
  told := rfl
  rest := rfl

/-- One actor is removed before others are. -/
theorem Removes.clears {actor : Actor S T} (removes : Removes before actor.handle middle)
    (here : before.roster.find? actor.handle = some actor) (clears : Clears middle rest after) :
    Clears before (actor :: rest) after where
  left := by
    refine List.forall_mem_cons.mpr ⟨?_, clears.left⟩
    by_cases again : actor.handle ∈ rest.map (·.handle)
    · obtain ⟨other, member, same⟩ := List.mem_map.mp again
      rw [← same]
      exact clears.left other member
    · have apart : ∀ other ∈ rest, actor.handle ≠ other.handle :=
        fun other member same => again (List.mem_map.mpr ⟨other, member, same.symm⟩)
      rw [alive, Roster.contains, clears.others _ apart]
      exact removes.gone
  others other apart := by
    obtain ⟨first, further⟩ := List.forall_mem_cons.mp apart
    rw [clears.others other further, removes.others other first]
  meant id := by
    rw [clears.meant, removes.meant]
    by_cases own : before.handle? id = some actor.handle <;> simp [own]
  behaviors id := by
    rw [clears.behaviors, removes.behaviors, removes.meant]
    by_cases own : before.handle? id = some actor.handle <;> simp [own]
  memories id := by
    rw [clears.memories, removes.memories, removes.meant]
    by_cases own : before.handle? id = some actor.handle <;> simp [own]
  members name := by
    rw [clears.members, removes.members, List.filter_filter]
    refine List.filter_congr fun member _ => ?_
    rw [Bool.eq_iff_iff, Bool.and_eq_true, decide_eq_true_iff, decide_eq_true_iff, decide_eq_true_iff,
      List.forall_mem_cons, and_comm]
  groups name := (clears.groups name).trans (removes.groups name)
  counts := ⟨clears.counts.1.trans removes.counts.1, clears.counts.2.trans removes.counts.2⟩
  told := by rw [clears.told, removes.told, here, List.foldl_cons]
  rest := by
    refine clears.rest.trans ?_
    rw [removes.rest]

/-- Actors who are there are removed one after the other. -/
theorem clears_foldl (named : before.Named others registry) (good : before.Sound others)
    (known : before.registry = some registry)
    (here : ∀ actor ∈ gone, before.roster.find? actor.handle = some actor)
    (distinct : (gone.map (·.handle)).Nodup) :
    Clears before gone ((gone.map (·.handle)).foldl destroy before) := by
  induction gone generalizing before registry with
  | nil => exact .refl before
  | cons actor rest ih =>
    obtain ⟨own, apart⟩ := List.nodup_cons.mp distinct
    have removes := removes_destroy named good known actor.handle
    have course : Course Deed.OfRemoval before (before.destroy actor.handle) :=
      course_destroy good actor.handle
    obtain ⟨later, found, still⟩ := named.course good known course
    refine removes.clears (here actor List.mem_cons_self)
      (ih still (course.sound good) found (fun other member => ?_) apart)
    have apart : other.handle ≠ actor.handle :=
      fun same => own (List.mem_map.mpr ⟨other, member, same⟩)
    rw [removes.others other.handle apart]
    exact here other (List.mem_cons_of_mem _ member)

/-- The copies that left the space of the arena are removed, and nobody else. -/
theorem clears_cleanUp [Scalar S] (named : world.Named others registry) (good : world.Sound others)
    (known : world.registry = some registry) {arena : Arena S} (space : world.arena = some arena) :
    Clears world (world.strays arena.extent) world.cleanUp := by
  have cleaned : world.cleanUp =
      ((world.strays arena.extent).map (·.handle)).foldl destroy world := by
    simp only [cleanUp, space, strays, outside_eq_decide]
  rw [cleaned]
  refine clears_foldl named good known (fun actor member => ?_) ?_
  · exact (Roster.find?_eq_some_iff good.distinct).mpr ⟨(mem_strays.mp member).1, rfl⟩
  · exact good.distinct.sublist (List.filter_sublist.map _)

/-- Whoever is there afterwards was there before, and is none of those who are gone. -/
theorem Clears.mem_before (clears : Clears before gone after) (good : before.Sound others)
    (still : after.Sound others) {actor : Actor S T} (member : actor ∈ after.roster.actors) :
    actor ∈ before.roster.actors ∧ actor ∉ gone := by
  have found := (Roster.find?_eq_some_iff still.distinct).mpr ⟨member, rfl⟩
  have apart : ∀ other ∈ gone, actor.handle ≠ other.handle := by
    intro other left same
    have missing := clears.left other left
    rw [← same, alive, Roster.contains, found] at missing
    cases missing
  rw [clears.others _ apart] at found
  exact ⟨((Roster.find?_eq_some_iff good.distinct).mp found).1, fun inside => apart actor inside rfl⟩

/-- A handle under which nobody of those who are gone stands keeps its actor as it is. -/
theorem Clears.find?_of_spared [Scalar S] {extent : Vec S}
    (clears : Clears before (before.strays extent) after)
    (spared : ∀ actor ∈ before.roster.actors, actor.handle = handle → actor.transient = false) :
    after.roster.find? handle = before.roster.find? handle := by
  refine clears.others handle fun actor member same => ?_
  obtain ⟨here, copied, -⟩ := mem_strays.mp member
  rw [spared actor here same.symm] at copied
  cases copied

/-! ### Who is a copy -/

/-- The id of a copy or of a shot. -/
def Coined (id : String) : Prop :=
  (∃ spawner number, id = copyId spawner number) ∨ ∃ owner number, id = shotId owner number

theorem not_coined_banner : ¬ Coined gameOverTextId := by
  rintro (⟨spawner, number, same⟩ | ⟨owner, number, same⟩)
  · exact copyId_ne_banner _ _ same.symm
  · exact shotId_ne_banner _ _ same.symm

/-- Where nobody is made as a copy all copies were there before. -/
theorem Course.copy_before {may : World S T → Deed S → Prop} (course : Course may before after)
    (single : ∀ (world : World S T) blueprint id name,
      ¬ may world (.birth blueprint id (some name)))
    {who : Identity S} (known : after.roster.who? handle = some who)
    (copied : who.transient = true) : before.roster.who? handle = some who := by
  induction course with
  | quiet quiet => rwa [quiet.names.who] at known
  | @birth before after blueprint id group made allowed born =>
    rcases born.new_or_before known with ⟨-, rfl⟩ | old
    · obtain ⟨name, rfl⟩ := Option.isSome_iff_exists.mp copied
      exact absurd allowed (single before blueprint id name)
    · exact old
  | death _ removed => exact (removed.before_of_who known).2
  | note _ noted => exact known
  | record _ behaves memory => exact known
  | arrange _ arranged => rwa [arranged.names.who] at known
  | trans first second firstKnown secondKnown => exact firstKnown (secondKnown known)

variable [Scalar S] [Scalar T] [Circular S] [Sampling S] [Rounding T S] {keyboard : Option (List Key)}
  {delta : T}

/-- What shots and spawners make goes by the ids of shots and copies. -/
theorem coined_runPhase {phase : Phase} (copies : phase = .shots ∨ phase = .spawners)
    (done : world.runPhase keyboard delta phase = .ok after) :
    ∃ made, after.births = made ++ world.births ∧ ∀ birth ∈ made, Coined birth.id := by
  refine (runs_runPhase done).keeps (fun books => ∃ made, books.births = made ++ world.births ∧
    ∀ birth ∈ made, Coined birth.id) ?_ ⟨[], rfl, fun _ never => absurd never List.not_mem_nil⟩
  rintro books entry allowed - ⟨made, born, coined⟩
  have unborn (same : (books.enter entry).births = books.births) :
      ∃ made, (books.enter entry).births = made ++ world.births ∧ ∀ birth ∈ made, Coined birth.id :=
    ⟨made, same.trans born, coined⟩
  cases entry with
  | copy handle spawner =>
    exact ⟨_ :: made, congrArg (_ :: ·) born,
      List.forall_mem_cons.mpr ⟨.inl ⟨_, _, rfl⟩, coined⟩⟩
  | shot handle owner template =>
    exact ⟨_ :: made, congrArg (_ :: ·) born,
      List.forall_mem_cons.mpr ⟨.inr ⟨_, _, rfl⟩, coined⟩⟩
  | ending handle center =>
    rcases copies with rfl | rfl
    · exact allowed.elim
    · rcases allowed with never | ⟨nests, never⟩
      · exact never.elim
      · cases never
  | object handle object =>
    rcases copies with rfl | rfl
    · exact allowed.elim
    · rcases allowed with never | ⟨nests, never⟩
      · exact never.elim
      · cases never
  | _ => exact unborn (by simp only [Books.enter])

/-- Whoever is there after a part of a frame was there before, or was made in it under its id. -/
theorem Lived.before_or_born (lived : world.Lived others) (playing : world.playing = some session)
    {phase : Phase} (done : world.runPhase keyboard delta phase = .ok after) {who : Identity S}
    (known : after.roster.who? handle = some who) :
    world.roster.who? handle = some who ∨
      ∃ birth ∈ after.births, birth ∉ world.births ∧ birth.id = who.id := by
  have next : after.Lived others := World.Lived.phase lived playing done
  have still := (scene_runPhase lived.sound done).playing.trans playing
  obtain ⟨birth, born, rfl, own⟩ := (Lived.kept next still).born handle who known
  by_cases old : birth ∈ world.births
  · left
    obtain ⟨told, turnover⟩ := lived.turnover playing done
    rcases lived.issued_of_born playing (List.mem_map_of_mem old) with here | gone
    · rw [alive_eq_isSome] at here
      obtain ⟨first, there⟩ := Option.isSome_iff_exists.mp here
      rcases turnover.kept _ _ there with same | gone
      · rw [there, ← same, known]
      · rw [Roster.who?, gone.find?_eq_none] at known
        cases known
    · rw [Roster.who?, (turnover.gone _ gone).find?_eq_none] at known
      cases known
  · exact .inr ⟨birth, born, old, own⟩

/-- Copies go by the ids of copies and shots. -/
theorem law_coined : Law fun (_ : List Handle) (world : World S T) =>
    ∀ handle who, world.roster.who? handle = some who → who.transient = true → Coined who.id where
  camera _ coined := coined
  phase := by
    intro others world after _ keyboard delta phase lived playing coined done handle who known copied
    by_cases copies : phase = .shots ∨ phase = .spawners
    · obtain ⟨made, births, ids⟩ := coined_runPhase copies done
      rcases lived.before_or_born playing done known with old | ⟨birth, born, new, own⟩
      · exact coined handle who old copied
      · rw [births] at born
        rw [← own]
        exact ids birth ((List.mem_append.mp born).resolve_right new)
    · refine coined handle who ?_ copied
      refine (course_runPhase lived.sound done).1.copy_before ?_ known copied
      intro later blueprint id name allowed
      cases phase with
      | shots => exact copies (.inl rfl)
      | spawners => exact copies (.inr rfl)
      | timers => cases allowed.2.2
      | dispatch => cases allowed.2.2
      | _ => exact allowed
  draw lived _ coined done handle who known copied :=
    coined handle who ((course_draw lived.sound done).copy_before (fun _ _ _ _ => id) known copied)
      copied

/-- Whoever stood under a handle stands there as it was, or is gone for good. -/
theorem law_identity (handle : Handle) (who : Identity S) :
    Law fun (others : List Handle) (world : World S T) =>
      world.roster.who? handle = some who ∨ world.Spent others handle where
  camera _ known := known.imp_right Spent.camera
  phase lived playing known done := by
    obtain ⟨told, turnover⟩ := lived.turnover playing done
    exact known.elim (turnover.kept handle who) fun gone => .inr (turnover.gone handle gone)
  draw lived playing known done := by
    have turnover := lived.turnover_draw playing done
    exact known.elim (turnover.kept handle who) fun gone => .inr (turnover.gone handle gone)

theorem Lived.coined (lived : world.Lived others) (playing : world.playing = some session) :
    ∀ handle who, world.roster.who? handle = some who → who.transient = true → Coined who.id := by
  refine law_coined.lived ?_ lived playing
  intro others world spec options scene later _ _ handle who known copied
  have begun := safe_playScene world others spec scene options.seed later.sound
  obtain ⟨actor, found, rfl⟩ := Option.map_eq_some_iff.mp known
  have here := ((Roster.find?_eq_some_iff begun.1.distinct).mp found).1
  have nobody := copyTotal_playScene later.whole later.sound spec scene options.seed
  exact absurd copied (List.countP_eq_zero.mp nobody actor here)

/-- Objects of a scene are no copies, wherever the game has come. -/
theorem Lived.native {others₀ : List Handle} {world₀ started : World S T} {spec : Spec S}
    {options : StartOptions} {scene : Spec.Scene S} (lived : world₀.Lived others₀)
    (start : world₀.tryStart spec options = (started, .ok session))
    (chosen : spec.choose options.scene = .ok scene)
    (since : Later others₀ started others world) (playing : world.playing = some session)
    (declared : started.alive handle = true) {actor : Actor S T}
    (member : actor ∈ world.roster.actors) (own : actor.handle = handle) :
    actor.transient = false := by
  have begun := lived.start start
  obtain ⟨first, found⟩ := Option.isSome_iff_exists.mp declared
  have known : started.roster.who? handle = some first.identity := by
    rw [Roster.who?, found]
    rfl
  have single : first.identity.transient = false := by
    have nobody := copyTotal_playScene lived.whole lived.sound spec scene options.seed
    rw [playScene_of_tryStart chosen start] at nobody
    have here := ((Roster.find?_eq_some_iff begun.sound.distinct).mp found).1
    exact Bool.eq_false_iff.mpr (List.countP_eq_zero.mp nobody first here)
  have last := who?_of_mem (since.sound begun.sound) member
  rcases (law_identity handle first.identity).later begun (active_of_tryStart lived.sound start)
    (.inl known) since playing with still | gone
  · rw [own, still] at last
    rw [Option.some.inj last] at single
    exact single
  · rw [own, Roster.who?, gone.find?_eq_none] at last
    cases last

/-! ### How many copies are made -/

/-- The spawners of a scene are at work, and under no id more copies are counted than may be made. -/
structure Capped (scene : Spec.Scene S) (books : Books S T) : Prop where
  working : ∃ nests, books.nests = some nests ∧ nests.map (·.spawner) = scene.spawners
  within : ∀ id most, scene.Caps id most → books.copyCount id ≤ most

omit [Circular S] [Rounding T S] in
theorem within_tickNest {nest later : Nest S T} {now : T} {id : String} {most : Nat}
    (done : world.tickNest nest now = .ok (after, later))
    (cap : nest.spawner.id = id → ∃ own ≤ most, nest.spawner.maxCount = some own)
    (within : world.books.copyCount id ≤ most) : after.books.copyCount id ≤ most := by
  rw [(made_tickNest done).2 id]
  split
  · rename_i same
    by_cases nothing : Turn.made ⟨world, nest, now⟩ = []
    · rw [nothing]
      exact within
    · obtain ⟨own, few, limit⟩ := cap same
      have burst := burst_firings nest.spawner (Turn.fired ⟨world, nest, now⟩) world
      have counted := burst.most nothing own limit
      rw [same] at counted
      exact counted.trans few
  · exact within

omit [Circular S] [Rounding T S] in
theorem within_tickNests {nests ticked : List (Nest S T)} {now : T} {id : String} {most : Nat}
    (done : tickNests now nests world = .ok (after, ticked))
    (cap : ∀ nest ∈ nests, nest.spawner.id = id → ∃ own ≤ most, nest.spawner.maxCount = some own)
    (within : world.books.copyCount id ≤ most) : after.books.copyCount id ≤ most := by
  induction nests generalizing world ticked with
  | nil =>
    cases done
    exact within
  | cons nest rest ih =>
    obtain ⟨⟨next, later⟩, first, done⟩ := bind_eq_ok done
    obtain ⟨⟨last, others⟩, second, done⟩ := bind_eq_ok done
    cases done
    obtain ⟨here, there⟩ := List.forall_mem_cons.mp cap
    exact ih second there (within_tickNest first here within)

omit [Circular S] [Rounding T S] in
theorem Capped.tickSpawners {scene : Spec.Scene S} (capped : Capped scene world.books)
    (done : world.tickSpawners = .ok after) : Capped scene after.books := by
  obtain ⟨nests, working, listed⟩ := capped.working
  have present : world.nests = some nests := working
  unfold World.tickSpawners at done
  split at done
  · rename_i found clock same _
    obtain rfl : found = nests := Option.some.inj (same.symm.trans present)
    obtain ⟨⟨next, ticked⟩, made, done⟩ := bind_eq_ok done
    cases done
    refine ⟨⟨ticked, rfl, (listed_tickNests made).trans listed⟩, fun id most caps => ?_⟩
    have within : next.books.copyCount id ≤ most := by
      refine within_tickNests made (fun nest member => caps nest.spawner ?_)
        (capped.within id most caps)
      rw [← listed]
      exact List.mem_map_of_mem member
    exact within
  · cases done
    exact capped

theorem law_capped (scene : Spec.Scene S) :
    Law fun (_ : List Handle) (world : World S T) => Capped scene world.books where
  camera _ capped := capped
  phase := by
    intro others world after _ keyboard delta phase _ _ capped done
    by_cases work : phase = .spawners
    · subst work
      exact capped.tickSpawners done
    · have alone : world.runPhases keyboard delta [phase] = .ok after := by
        rw [runPhases, List.foldlM_cons, done]
        rfl
      obtain ⟨nests, copies⟩ := same_runPhases
        (fun member => work (List.mem_singleton.mp member).symm) alone
      refine ⟨nests ▸ capped.working, fun id most caps => ?_⟩
      rw [Books.copyCount, copies]
      exact capped.within id most caps
  draw _ _ capped done := (books_draw done).symm ▸ capped

omit [Scalar S] [Scalar T] [Circular S] [Sampling S] [Rounding T S] in
/-- Of those who were made under ids of their own, few were made as copies of one spawner. -/
theorem length_copies_le {books : Books S T} {made copies : List (Birth S)} {id : String}
    {most : Nat} (single : (made.map (·.id)).Nodup) (given : ∀ birth ∈ made, books.Given birth.id)
    (within : books.copyCount id ≤ most) (part : copies.Sublist made)
    (own : ∀ birth ∈ copies, ∃ number, birth.id = copyId id number) : copies.length ≤ most := by
  have few : copies.map (·.id) ⊆ (List.range (books.copyCount id)).map (copyId id) := by
    intro name member
    obtain ⟨birth, inside, rfl⟩ := List.mem_map.mp member
    obtain ⟨number, named⟩ := own birth inside
    refine List.mem_map.mpr ⟨number, List.mem_range.mpr ?_, named.symm⟩
    rcases given birth (part.subset inside) with ⟨spawner, other, same, below⟩ |
      ⟨owner, other, same, -⟩ | ⟨same, -⟩
    · obtain ⟨rfl, rfl⟩ := copyId_inj (named.symm.trans same)
      exact below
    · exact absurd (named.symm.trans same) (copyId_ne_shotId _ _ _ _)
    · exact absurd (named.symm.trans same) (copyId_ne_banner _ _)
  have counted := ((single.sublist (part.map _)).subperm few).length_le
  rw [List.length_map, List.length_map, List.length_range] at counted
  exact counted.trans within

omit [Scalar S] [Scalar T] [Circular S] [Sampling S] [Rounding T S] in
/-- A spawner that made all its copies makes no other as long as these stay counted. -/
theorem exhausted_of_le {spawner : Spec.Spawner S} {count later : Nat}
    (all : exhausted spawner count = true) (more : count ≤ later) :
    exhausted spawner later = true := by
  obtain ⟨most, limit, reached⟩ := Option.any_eq_true _ _ |>.mp all
  rw [exhausted, limit, Option.any_some]
  exact decide_eq_true ((of_decide_eq_true reached).trans more)

/-- What the number of copies of spawners comes to in a game, from one of its worlds on. -/
structure Rationed (scene : Spec.Scene S) (started world later : World S T) : Prop where
  /-- Copies that are gone stay counted, and a spawner that has made all makes no other for them. -/
  counted : ∀ spawner : Spec.Spawner S,
    world.books.copyCount spawner.id ≤ later.books.copyCount spawner.id ∧
      (exhausted spawner (world.books.copyCount spawner.id) = true →
        later.spawnOne spawner = .ok (later, false))
  /-- Since the game started no more copies were made under an id than may be made, whether they are
  there or gone. -/
  made : ∃ made, later.births = made ++ started.births ∧ ∀ id most, scene.Caps id most →
    ∀ copies : List (Birth S), copies.Sublist made →
      (∀ birth ∈ copies, ∃ number, birth.id = copyId id number) → copies.length ≤ most

theorem rationed_later {others₀ others₁ : List Handle} {world₀ started later : World S T}
    {spec : Spec S} {options : StartOptions} {scene : Spec.Scene S} (lived : world₀.Lived others₀)
    (start : world₀.tryStart spec options = (started, .ok session))
    (chosen : spec.choose options.scene = .ok scene)
    (since : Later others₀ started others world) (playing : world.playing = some session)
    (onward : Later others world others₁ later) (still : later.playing = some session) :
    Rationed scene started world later := by
  have begun := lived.start start
  have active := active_of_tryStart lived.sound start
  have reached : Later others₀ started others₁ later := since.trans onward
  have opened : started.books.Opened spec.settings scene.spawners := by
    have opened := opened_playScene world₀ spec scene options.seed
    rwa [playScene_of_tryStart chosen start] at opened
  have first : Capped scene started.books := by
    refine ⟨⟨_, opened.nests, ?_⟩, fun id most _ => ?_⟩
    · rw [List.map_map]
      exact List.map_id' _
    · rw [Books.copyCount, opened.copies, Index.get?_empty]
      exact Nat.zero_le most
  have capped := (law_capped scene).later begun active first reached still
  have law : Law fun (_ : List Handle) (world : World S T) => world.books.Distinct started.births :=
    law_books fun books entry framed admitted distinct => distinct.enter framed admitted
  have blank : started.books.Distinct started.births :=
    ⟨[], rfl, List.Pairwise.nil, fun _ member => absurd member List.not_mem_nil⟩
  obtain ⟨made, born, single, given⟩ := law.later begun active blank reached still
  constructor
  · intro spawner
    have more := (onward.grown (World.Lived.trans begun since) playing still).copies spawner.id
    refine ⟨more, fun all => ?_⟩
    have done : exhausted spawner ((later.registry.getD .empty).copyCount spawner.id) = true :=
      exhausted_of_le all more
    rw [spawnOne, if_pos done]
  · exact ⟨made, born, fun id most caps copies part own =>
      length_copies_le single given (capped.within id most caps) part own⟩

/-! ### The end of a frame -/

/-- The space of a game keeps its size. -/
theorem law_extent (extent : Vec S) : Law fun (_ : List Handle) (world : World S T) =>
    world.books.arena.map (·.extent) = some extent := by
  let holds (books : Books S T) : Prop := books.arena.map (·.extent) = some extent
  suffices law : Law fun _ (world : World S T) => holds world.books from law
  refine law_books fun books entry _ _ same => ?_
  cases entry with
  | ending handle center =>
    have still : (books.arena.map Arena.pause).map (·.extent) = some extent := by
      rw [Option.map_map]
      exact same
    exact still
  | _ => simpa only [Books.enter] using same

/-- A frame is taken apart where copies that left are removed. -/
theorem split_cleanUp (playing : world.playing = some session)
    (done : world.step keyboard delta = .ok after) :
    ∃ found, world.runPhases keyboard delta Phase.cleanUp.earlier = .ok found ∧
      after = found.cleanUp := by
  rw [step, playing] at done
  have parts : Phase.order = Phase.cleanUp.earlier ++ [.cleanUp] := rfl
  rw [parts, runPhases_append_eq_ok_iff] at done
  obtain ⟨found, early, done⟩ := done
  cases done
  exact ⟨found, early, rfl⟩

/-- Whatever was done before in a game, and whether it goes on or has ended: at the end of a frame no
copy is entirely beyond an edge of the space by more than the margin. Those that were when the rules had
fired are removed, with all that goes by them, each is told of once, and everything else is as it was.
What the scene declares stays as it is, and so does the banner. And those who are gone stay counted: no
spawner makes another copy for them when it has made all, and in the whole game no more copies are made
under an id than may be made. -/
theorem Lived.cleans_up {others₀ : List Handle} {world₀ started : World S T} {spec : Spec S}
    {options : StartOptions} {scene : Spec.Scene S} (lived : world₀.Lived others₀)
    (start : world₀.tryStart spec options = (started, .ok session))
    (chosen : spec.choose options.scene = .ok scene)
    (since : Later others₀ started others world) (playing : world.playing = some session)
    (done : world.step keyboard delta = .ok after) :
    let extent : Vec S := ⟨Scalar.ofNat spec.settings.width, Scalar.ofNat spec.settings.height⟩
    (∀ actor ∈ after.roster.actors, actor.transient = true → ¬ actor.box.Astray extent) ∧
    ∃ found, world.runPhases keyboard delta Phase.cleanUp.earlier = .ok found ∧
      Clears found (found.roster.actors.filter fun actor =>
        actor.transient && decide (actor.box.Astray extent)) after ∧
      (∀ handle, started.alive handle = true →
        after.roster.find? handle = found.roster.find? handle) ∧
      (∀ actor ∈ found.roster.actors, actor.id = gameOverTextId → actor ∈ after.roster.actors) ∧
      ∀ others₁ later, Later others after others₁ later → later.playing = some session →
        Rationed scene started found later := by
  intro extent
  obtain ⟨found, early, rfl⟩ := split_cleanUp playing done
  have begun := lived.start start
  have active := active_of_tryStart lived.sound start
  obtain ⟨reached, still⟩ := since.phases begun.sound playing early
  have here : found.Lived others := World.Lived.trans begun reached
  have last : found.runPhase keyboard delta .cleanUp = .ok found.cleanUp := rfl
  have ended : Later others found others found.cleanUp := .phase .refl still last
  obtain ⟨registry, known, named⟩ := here.named still
  obtain ⟨arena, space, same⟩ : ∃ arena, found.arena = some arena ∧ arena.extent = extent := by
    have first : started.books.arena.map (·.extent) = some extent := by
      have opened := (opened_playScene world₀ spec scene options.seed).arena
      rw [playScene_of_tryStart chosen start] at opened
      rw [opened]
      rfl
    exact Option.map_eq_some_iff.mp ((law_extent extent).later begun active first reached still)
  have clears := clears_cleanUp named here.sound known space
  rw [same] at clears
  refine ⟨fun actor member copied astray => ?_, found, early, clears, fun handle declared => ?_,
    fun actor member banner => ?_, fun others₁ later onward on => ?_⟩
  · obtain ⟨before, spared⟩ := clears.mem_before here.sound (ended.sound here.sound) member
    exact spared (mem_strays.mpr ⟨before, copied, astray⟩)
  · exact clears.find?_of_spared fun actor member own =>
      Lived.native lived start chosen reached still declared member own
  · have single : ∀ other ∈ found.roster.actors, other.handle = actor.handle →
        other.transient = false := by
      intro other inside own
      obtain rfl := List.inj_on_of_nodup_map here.sound.distinct inside member own
      refine Bool.eq_false_iff.mpr fun copied => not_coined_banner ?_
      rw [← banner]
      exact here.coined still other.handle other.identity (who?_of_mem here.sound inside) copied
    have kept := clears.find?_of_spared single
    rw [(Roster.find?_eq_some_iff here.sound.distinct).mpr ⟨member, rfl⟩] at kept
    exact ((Roster.find?_eq_some_iff (ended.sound here.sound).distinct).mp kept).1
  · exact rationed_later lived start chosen reached still (ended.trans onward) on

end World

namespace Sample

/-- A crate far outside; rocks that are made below the space, one at most; and an end after ten
milliseconds. -/
def cliff : Spec.Scene Float32 where
  name := "main"
  objects := [{ walker "crate" with x := -500, y := -500, behavior := none }]
  logic := some {
    onCollision := none
    onOverlap := none
    timers := some ["after 10 ms -> gameOver"]
    spawners := some [⟨"rocks", walker "rock", 10, some 1, "corner",
      some ⟨0, 10, some 900, some 950⟩⟩]
    actions := none }

def rockfall : Spec Float32 := { spec with scenes := [cliff] }

end Sample

/-- In the first frame the only rock is made and is gone again, the game ends, and the crate and the
banner stay. -/
theorem World.Lived.cleans_up_rocks :
    ∃ (started found after : World Float32 Float) (session : Session),
      (World.empty Sample.entropy).tryStart Sample.rockfall .default = (started, .ok session) ∧
        started.playing = some session ∧ started.step none 25 = .ok after ∧
        started.runPhases none 25 Phase.cleanUp.earlier = .ok found ∧
        found.roster.actors.map (·.id) = ["crate", "rocks_spawned_0", World.gameOverTextId] ∧
        after.roster.actors.map (·.id) = ["crate", World.gameOverTextId] ∧ after.ended = true ∧
        World.Clears found (found.roster.actors.filter fun actor => actor.transient &&
          decide (actor.box.Astray ⟨Scalar.ofNat 800, Scalar.ofNat 600⟩)) after ∧
        World.Rationed Sample.cliff started found after := by
  have chosen : Sample.rockfall.choose none = .ok Sample.cliff := by rfl
  have valid : Sample.rockfall.validate = .ok () := by rfl
  let started : World Float32 Float :=
    ((World.empty Sample.entropy).playScene Sample.rockfall Sample.cliff none).2
  have start : (World.empty Sample.entropy).tryStart Sample.rockfall .default = (started, .ok _) :=
    tryStart_of_choose valid chosen
  have begun : started.Lived [] := (lived_empty Sample.entropy).start start
  have active : started.playing = some ⟨1, "main", "Coins"⟩ := by rfl
  have halfway : (started.runPhases none 25 Phase.cleanUp.earlier).toOption.any (fun found =>
      decide (found.roster.actors.map (·.id) =
        ["crate", "rocks_spawned_0", World.gameOverTextId])) = true := by decide +kernel
  have stepped : (started.step none 25).toOption.any (fun after =>
      decide (after.playing = some ⟨1, "main", "Coins"⟩ ∧ after.ended = true ∧
        after.roster.actors.map (·.id) = ["crate", World.gameOverTextId])) = true := by
    decide +kernel
  obtain ⟨after, done, fine⟩ := exists_ok_of_any stepped
  obtain ⟨still, ended, left⟩ := of_decide_eq_true fine
  obtain ⟨-, found, early, clears, -, -, rationed⟩ :=
    Lived.cleans_up (lived_empty Sample.entropy) start chosen .refl active done
  rw [early] at halfway
  exact ⟨started, found, after, _, start, active, done, early, of_decide_eq_true halfway, left, ended,
    clears, rationed [] after .refl still⟩

end Arcade
