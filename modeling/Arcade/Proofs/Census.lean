import Arcade.Proofs.Ownership

/-! What is said of a game that is played, and how many objects it is said to have. Objects are counted
by their ids, so that an actor whose id was taken over by another one is not counted while it is still
there: the number is that of the actors who came last under their ids. It is the number of all actors
as long as nobody who is there was replaced, and so in particular while no id comes twice. -/

namespace Arcade

variable {S T : Type}

/-! ### Counting names -/

namespace Index

variable {α : Type}

theorem nodup_keys (index : Index α) : index.keys.Nodup :=
  (List.Pairwise.imp String.ne_of_lt index.ordered).map _ fun _ _ different => different

/-- An index that names nothing twice has as many values as names. -/
theorem nodup_values (index : Index α) (single : ∀ name other value,
    index.get? name = some value → index.get? other = some value → name = other) :
    (index.entries.map (·.2)).Nodup := by
  refine List.Nodup.map_on ?_ index.nodup_keys.of_map
  rintro ⟨name, value⟩ first ⟨other, _⟩ second rfl
  rw [mem_entries_iff] at first second
  rw [single name other value first second]

end Index

namespace World

variable {may : World S T → Deed S → Prop} {before after world : World S T} {others : List Handle}
  {registry : Registry S T}

/-- The actor came last under its id. -/
def foremost (world : World S T) (actor : Actor S T) : Bool :=
  (latest? world.births actor.id).any fun birth => birth.handle = actor.handle

/-- Who is there was made under the id that it has, and whoever came last under an id is meant by it as
long as it is there. -/
structure Kept (world : World S T) : Prop where
  born : ∀ handle who, world.roster.who? handle = some who →
    ∃ birth ∈ world.births, birth.handle = handle ∧ birth.id = who.id
  meant : ∀ id birth, latest? world.births id = some birth →
    birth.handle ∈ world.roster.handles → world.handle? id = some birth.handle

theorem kept_empty (nobody : world.roster.actors = []) (unborn : world.births = []) :
    world.Kept where
  born handle who known := by
    have absent : world.roster.who? handle = none := by
      rw [Roster.who?_eq_none_iff, Roster.handles, nobody]
      exact List.not_mem_nil
    rw [absent] at known
    cases known
  meant id birth latest := by
    rw [unborn] at latest
    cases latest

theorem Kept.same (kept : before.Kept) (same : SameNames before after) : after.Kept where
  born := by
    rw [same.who, same.births]
    exact kept.born
  meant id birth latest here := by
    rw [same.births] at latest
    rw [same.ids.meant]
    exact kept.meant id birth latest (same.held.mem_iff.mp here)

theorem Kept.birth {birth : Birth S} {identity : Identity S} {names : Option (Registry S T)}
    (kept : before.Kept) (came : CameUnder before birth after)
    (named : before.Named others registry) (good : before.Sound others)
    (made : Made before birth.blueprint identity birth.handle names after)
    (own : identity.id = birth.id) : after.Kept where
  born handle who known := by
    rw [came.births]
    rcases made.new_or_before known with ⟨new, same⟩ | old
    · exact ⟨birth, List.mem_cons_self, new.symm, by rw [same, own]⟩
    · obtain ⟨older, born, rest⟩ := kept.born handle who old
      exact ⟨older, List.mem_cons_of_mem _ born, rest⟩
  meant id other latest here := by
    rw [came.births] at latest
    rw [came.meant]
    by_cases same : birth.id = id
    · subst same
      rw [latest?_cons_self] at latest
      cases latest
      exact if_pos rfl
    · rw [latest?_cons_of_ne _ _ same] at latest
      rw [if_neg same]
      have different : other.handle ≠ birth.handle := by
        intro new
        refine (named.fresh good made).2 (List.mem_map.mpr ⟨other, ?_, new⟩)
        exact List.mem_of_find?_eq_some latest
      rcases List.mem_cons.mp (made.held.mem_iff.mp here) with new | old
      · exact absurd new different
      · exact kept.meant id other latest old

theorem Kept.death {handle : Handle} {identity : Identity S} (kept : before.Kept)
    (good : before.Sound others) (removed : Removed before handle identity after) : after.Kept where
  born other who known := by
    rw [removed.births]
    exact kept.born other who (removed.before_of_who known).2
  meant id birth latest here := by
    rw [removed.births] at latest
    have meant := kept.meant id birth latest
      (removed.held.mem_iff.mpr (List.mem_cons_of_mem _ here))
    have different : birth.handle ≠ handle := by
      intro same
      have distinct := removed.held.nodup_iff.mp good.distinct
      exact (List.nodup_cons.mp distinct).1 (same ▸ here)
    rw [removed.leftFrom.meant, if_neg, meant]
    rintro ⟨rfl, own⟩
    rw [meant] at own
    exact different (Option.some.inj own)

/-- Whoever came last under an id stays meant by it, whatever happens to the others. -/
theorem Kept.course (kept : before.Kept) (named : before.Named others registry)
    (good : before.Sound others) (known : before.registry = some registry)
    (course : Course may before after) : after.Kept := by
  induction course generalizing registry with
  | quiet quiet => exact kept.same quiet.names
  | birth _ made => exact kept.birth made.cameUnder named good made rfl
  | death _ removed => exact kept.death good removed
  | note _ noted =>
    have same := sameIds_noted noted
    refine ⟨kept.born, ?_⟩
    rw [same.meant]
    exact kept.meant
  | @record before id _ _ memory =>
    have same := sameOwners_remember before id memory
    refine ⟨kept.born, ?_⟩
    rw [same.meant]
    exact kept.meant
  | arrange _ arranged => exact kept.same arranged.names
  | trans first _ firstKeeps secondKeeps =>
    obtain ⟨middle, found, still⟩ := named.course good known first
    exact secondKeeps (firstKeeps kept named good known) still (first.sound good) found

/-- An actor is meant by its id if it came last under it. -/
theorem Kept.meant_iff (kept : world.Kept) (named : world.Named others registry)
    (known : world.registry = some registry) {actor : Actor S T}
    (member : actor ∈ world.roster.actors) :
    registry.handle? actor.id = some actor.handle ↔ world.foremost actor = true := by
  have means : world.handle? actor.id = registry.handle? actor.id := by
    rw [handle?, known, Option.bind_some]
  rw [foremost, Option.any_eq_true]
  constructor
  · intro meant
    obtain ⟨birth, latest, own⟩ := Option.map_eq_some_iff.mp (named.latest _ _ meant)
    exact ⟨birth, latest, decide_eq_true own⟩
  · rintro ⟨birth, latest, own⟩
    have own := of_decide_eq_true own
    rw [← means, ← own]
    exact kept.meant actor.id birth latest (own ▸ List.mem_map_of_mem member)

/-- There are as many names as actors who came last under their ids. -/
theorem Kept.objectCount (kept : world.Kept) (named : world.Named others registry)
    (good : world.Sound others) (known : world.registry = some registry) :
    registry.objectCount = (world.roster.actors.filter world.foremost).length := by
  have distinct : world.roster.handles.Nodup := good.distinct
  have single : ∀ id other handle, registry.objects.get? id = some handle →
      registry.objects.get? other = some handle → id = other := by
    intro id other handle first second
    obtain ⟨who, there, own⟩ := named.meant id handle first
    obtain ⟨_, there', own'⟩ := named.meant other handle second
    rw [there] at there'
    cases there'
    exact own.symm.trans own'
  have counted : (registry.objects.entries.map (·.2)).Perm
      ((world.roster.actors.filter world.foremost).map (·.handle)) := by
    have few : ((world.roster.actors.filter world.foremost).map (·.handle)).Nodup :=
      distinct.sublist (List.filter_sublist.map _)
    refine (List.perm_ext_iff_of_nodup (registry.objects.nodup_values single) few).mpr ?_
    intro handle
    constructor
    · intro listed
      obtain ⟨⟨id, _⟩, entry, rfl⟩ := List.mem_map.mp listed
      have meant := (registry.objects.mem_entries_iff _ _).mp entry
      obtain ⟨who, there, own⟩ := named.meant _ _ meant
      obtain ⟨actor, found, rfl⟩ := Option.map_eq_some_iff.mp there
      obtain ⟨member, same⟩ := (Roster.find?_eq_some_iff distinct).mp found
      refine List.mem_map.mpr ⟨actor, List.mem_filter.mpr ⟨member, ?_⟩, same⟩
      refine (kept.meant_iff named known member).mp ?_
      have goesBy : actor.id = id := own
      rw [same, goesBy]
      exact meant
    · intro listed
      obtain ⟨actor, member, rfl⟩ := List.mem_map.mp listed
      obtain ⟨member, foremost⟩ := List.mem_filter.mp member
      have meant := (kept.meant_iff named known member).mpr foremost
      exact List.mem_map.mpr
        ⟨(actor.id, actor.handle), (registry.objects.mem_entries_iff _ _).mpr meant, rfl⟩
  simpa [Registry.objectCount, Index.size] using counted.length_eq

/-- Nobody was replaced while no id came twice. -/
theorem Kept.foremost_of_nodup (kept : world.Kept) (good : world.Sound others)
    (once : (world.births.map (·.id)).Nodup) {actor : Actor S T}
    (member : actor ∈ world.roster.actors) : world.foremost actor = true := by
  have found := (Roster.find?_eq_some_iff good.distinct).mpr ⟨member, rfl⟩
  obtain ⟨birth, born, own, same⟩ := kept.born actor.handle actor.identity
    (by rw [Roster.who?, found]; rfl)
  have some : (latest? world.births actor.id).isSome = true :=
    List.find?_isSome.mpr ⟨birth, born, decide_eq_true same⟩
  obtain ⟨latest, first⟩ := Option.isSome_iff_exists.mp some
  have named : latest.id = actor.id := by simpa using List.find?_some first
  have one : latest = birth :=
    List.inj_on_of_nodup_map once (List.mem_of_find?_eq_some first) born (named.trans same.symm)
  rw [foremost, first, one]
  simp [own]

variable [Scalar S] [Scalar T] [Circular S] [Sampling S] [Rounding T S]

theorem law_kept : Law fun (_ : List Handle) (world : World S T) => world.Kept where
  camera _ kept := ⟨kept.born, kept.meant⟩
  phase := by
    intro others world after _ _ _ _ lived playing kept done
    obtain ⟨registry, known, named⟩ := Lived.named lived playing
    have still : World.Kept { world with contacts := after.contacts } := ⟨kept.born, kept.meant⟩
    have good : world.Sound others := lived.sound
    exact still.course (named.contacts after.contacts) good known (course_runPhase good done).1
  draw := by
    intro others world after _ _ lived playing kept done
    obtain ⟨registry, known, named⟩ := Lived.named lived playing
    exact kept.course named lived.sound known (course_draw lived.sound done)

theorem Lived.kept (lived : world.Lived others) {session : Session}
    (playing : world.playing = some session) : world.Kept := by
  refine law_kept.lived ?_ lived playing
  intro others world spec options scene later _ _
  have ready : (world.tearDown.setUp spec options.seed).Sound others :=
    (safe_tearDown world others later.sound).1
  let blank : World S T :=
    { world.tearDown.setUp spec options.seed with library := some (actionsOf scene) }
  have nobody : blank.roster.actors = [] := (later.whole.tearDown later.sound).actors
  have nameless : blank.Named others .empty := named_empty nobody rfl
  have built := (kept_empty nobody rfl).course nameless ready rfl (course_build ready scene)
  exact built.same (names_playScene world spec scene options.seed)

/-- Whoever is there was made in the game that is played. -/
theorem Lived.born_of_alive (lived : world.Lived others) {session : Session}
    (playing : world.playing = some session) {handle : Handle}
    (here : world.alive handle = true) : handle ∈ world.births.map (·.handle) := by
  obtain ⟨actor, there⟩ := Option.isSome_iff_exists.mp here
  obtain ⟨birth, born, own, -⟩ := (Lived.kept lived playing).born handle actor.identity
    (by rw [Roster.who?, there]; rfl)
  exact List.mem_map.mpr ⟨birth, born, own⟩

theorem Lived.issued_of_born (lived : world.Lived others) {session : Session}
    (playing : world.playing = some session) {handle : Handle}
    (made : handle ∈ world.births.map (·.handle)) :
    world.Issued others handle := by
  obtain ⟨registry, -, named⟩ := Lived.named lived playing
  obtain ⟨birth, born, rfl⟩ := List.mem_map.mp made
  exact (named.past birth born).imp_left Roster.mem_handles_iff.mp

/-- Whatever was done before and however far a frame has come: without a game the status is that of no
game. While one is played it is running, under the title, the scene and the number that it has, with
its score, its clock and its diagnostics; and it has as many objects as there are actors who came last
under their ids. So all that are there are counted exactly if nobody who is there was replaced under
its id, and that is so while no id comes twice. -/
theorem Lived.counts_objects (lived : world.Lived others) :
    (world.playing = none → Api.status world = .idle) ∧
      ∀ session, world.playing = some session →
        ∃ spec board clock messages, world.spec = some spec ∧ world.board = some board ∧
          world.clock = some clock ∧ world.diagnostics = some messages ∧
          spec.title = session.title ∧ (∃ scene ∈ spec.scenes, scene.name = session.scene) ∧
          session.generation = world.starts ∧
          Api.status world = {
            running := true
            title := some session.title
            scene := some session.scene
            generation := some session.generation
            score := board.score
            ended := board.ended
            objects := (world.roster.actors.filter world.foremost).length
            elapsed := clock.now
            diagnostics := messages } ∧
          ((Api.status world).objects = world.roster.actors.length ↔
            ∀ actor ∈ world.roster.actors, world.foremost actor = true) ∧
          ((world.births.map (·.id)).Nodup →
            (Api.status world).objects = world.roster.actors.length) := by
  constructor
  · intro idle
    rw [Api.status, session?, idle]
  · intro session active
    have good : world.Sound others := lived.sound
    obtain ⟨registry, known, named⟩ := lived.named active
    have kept := lived.kept active
    obtain ⟨_, playing⟩ | idle := lived.whole
    · obtain ⟨board, scored⟩ := Option.isSome_iff_exists.mp (playing.parts .board)
      obtain ⟨clock, running⟩ := Option.isSome_iff_exists.mp (playing.parts .clock)
      obtain ⟨messages, told⟩ := Option.isSome_iff_exists.mp (playing.parts .diagnostics)
      obtain ⟨spec, loaded, -, title, scene⟩ := playing.spec
      obtain rfl : session = _ := Option.some.inj (active.symm.trans playing.active)
      have status : Api.status world = {
          running := true
          title := some session.title
          scene := some session.scene
          generation := some session.generation
          score := board.score
          ended := board.ended
          objects := (world.roster.actors.filter world.foremost).length
          elapsed := clock.now
          diagnostics := messages } := by
        simp only [Api.status, session?, active, scored, known, running, told, Option.map_some,
          Option.getD_some, kept.objectCount named good known]
      refine ⟨spec, board, clock, messages, loaded, scored, running, told, title, scene,
        lived.generation active, status, ?_, ?_⟩
      · rw [status]
        exact List.length_filter_eq_length_iff
      · intro once
        rw [status]
        exact List.length_filter_eq_length_iff.mpr fun actor member =>
          kept.foremost_of_nodup good once member
    · rw [idle.inactive] at active
      cases active

end World

/-- The small game in the middle of its second frame. -/
theorem World.Lived.counts_objects_midway :
    ∃ (cabinet : Cabinet Float32 Float) (session : Session) (world : World Float32 Float),
      (Cabinet.new Sample.entropy none (Option.map Screen.start none)).run
          [.start Sample.spec .default, .step none 5] = .ok cabinet ∧
        cabinet.world.runPhases none 25 (Phase.order.take 6) = .ok world ∧
        world.playing = some session ∧
        (Api.status world).running = true ∧ (Api.status world).title = some "Coins" ∧
        (Api.status world).objects = (world.roster.actors.filter world.foremost).length := by
  have fine : ((Cabinet.new Sample.entropy none (Option.map Screen.start none) : Cabinet Float32 Float).run
      [.start Sample.spec .default, .step none 5]).toOption.any (fun cabinet =>
        decide (cabinet.world.playing = some ⟨1, "main", "Coins"⟩) &&
          (cabinet.world.runPhases none 25 (Phase.order.take 6)).isOk) = true := by decide +kernel
  obtain ⟨cabinet, ran, fine⟩ := exists_ok_of_any fine
  obtain ⟨active, framed⟩ := (Bool.and_eq_true _ _).mp fine
  obtain ⟨world, framed⟩ := eq_ok_of_isOk framed
  obtain ⟨lived, still⟩ := World.Lived.phases (Cabinet.alive_of_run ran)
    (of_decide_eq_true active) framed
  obtain ⟨-, told⟩ := World.Lived.counts_objects lived
  obtain ⟨_, _, _, _, -, -, -, -, -, -, -, status, -⟩ := told _ still
  exact ⟨cabinet, _, world, ran, framed, still, by rw [status], by rw [status], by rw [status]⟩

/-- Two crates of one name are there, and one object is counted. -/
theorem World.counts_objects_once :
    ∃ (cabinet : Cabinet Float32 Float),
      (Cabinet.new Sample.entropy none (Option.map Screen.start none)).run [.start Sample.spec .default] =
          .ok cabinet ∧
        cabinet.world.playing = some ⟨1, "main", "Coins"⟩ ∧
        cabinet.world.roster.actors.length = 2 ∧ (Api.status cabinet.world).objects = 1 := by
  have fine : ((Cabinet.new Sample.entropy none (Option.map Screen.start none) : Cabinet Float32 Float).run
      [.start Sample.spec .default]).toOption.any (fun cabinet =>
        decide (cabinet.world.playing = some ⟨1, "main", "Coins"⟩ ∧
          cabinet.world.roster.actors.length = 2 ∧ (Api.status cabinet.world).objects = 1)) =
      true := by decide +kernel
  obtain ⟨cabinet, ran, fine⟩ := exists_ok_of_any fine
  exact ⟨cabinet, ran, of_decide_eq_true fine⟩

end Arcade
