import Arcade.Proofs.Chronicle
import Arcade.Proofs.Rejection
import Arcade.Proofs.Stirring

/-! Games come one after the other. They are numbered as they start, and a start that fails takes no
number; a game can be stopped once, and only while it is the one that is played; and that it began and
that it ended is told in turn. Between games time stands still. -/

namespace Arcade

variable {S T : Type}

/-- The game that a reply tells of. -/
def Api.Reply.session? : Api.Reply S T → Option Session
  | .started outcome => outcome.toOption
  | _ => none

/-! ### What is told of games -/

/-- The beginnings and the ends of so many games, one after the other. -/
def Milestone.turns (count : Nat) : List Milestone :=
  (List.range' 1 count).flatMap fun generation => [.started generation, .stopped generation]

theorem Milestone.turns_succ (count : Nat) :
    turns (count + 1) = turns count ++ [.started (count + 1), .stopped (count + 1)] := by
  simp only [turns, List.range'_concat, List.flatMap_append, List.flatMap_singleton, Nat.one_mul,
    Nat.add_comm 1 count]

namespace World

variable {before after world : World S T} {others : List Handle} {session : Session}

/-- The end of the game that is played, which is still to come. -/
def awaited (world : World S T) : List Milestone :=
  world.playing.toList.map fun session => .stopped session.generation

variable [Scalar S]

theorem milestones_tearDown (world : World S T) :
    world.tearDown.milestones = world.milestones ++ world.awaited := by
  unfold tearDown awaited
  split
  · rename_i idle
    rw [idle]
    exact (List.append_nil _).symm
  · rename_i session playing
    have left : Stirs Actor.Gentle { world with playing := none, registry := none } world.vacate :=
      stirs_vacate world
    have stripped : world.vacate.strip.milestones = world.vacate.milestones :=
      milestones_of_log rfl
    rw [milestones_emit, stripped, left.milestones, playing]
    rfl

omit [Scalar S] in
theorem awaited_of_none (idle : world.playing = none) : world.awaited = [] := by
  rw [awaited, idle]
  rfl

variable [Scalar T]

theorem milestones_playScene (good : world.Sound others) (spec : Spec S) (scene : Spec.Scene S)
    (seed : Option Nat) :
    (world.playScene spec scene seed).2.milestones =
      world.milestones ++ world.awaited ++ [.started (world.starts + 1)] := by
  have built : Stirs Actor.Gentle (world.tearDown.setUp spec seed)
      ((world.tearDown.setUp spec seed).build scene) := stirs_build _ scene
  have ready : (world.tearDown.setUp spec seed).milestones = world.tearDown.milestones :=
    milestones_of_log rfl
  have number : (world.tearDown.setUp spec seed).starts = world.starts + 1 :=
    congrArg (· + 1) (starts_tearDown good)
  let begun := { (world.tearDown.setUp spec seed).build scene with
    playing := some (world.playScene spec scene seed).1 }
  have same : begun.milestones = ((world.tearDown.setUp spec seed).build scene).milestones :=
    milestones_of_log rfl
  change (begun.emit (.gameStarted spec.title scene.name (world.tearDown.setUp spec seed).starts)
    none).milestones = _
  rw [milestones_emit, same, built.milestones, ready, milestones_tearDown, number]
  rfl

variable [Circular S] [Sampling S] [Rounding T S]

/-- What was told of games, with the end of the game that is played, is all games in turn. -/
theorem Lived.turns (lived : world.Lived others) :
    world.milestones ++ world.awaited = Milestone.turns world.starts := by
  induction lived using Lived.induction with
  | empty entropy => rfl
  | camera _ told => exact told
  | @start others world later spec options told =>
    rcases tryStart_cases world spec options with same | ⟨scene, -, -, started⟩
    · rw [same]
      exact told
    · have good := Lived.sound later
      obtain ⟨active, number⟩ := session_playScene good spec scene options.seed
      rw [starts_playScene good] at number
      rw [started, milestones_playScene good, told, starts_playScene good, awaited, active,
        Milestone.turns_succ, Option.toList_some, List.map_singleton, number, List.append_assoc]
      rfl
  | @stop others world later session told =>
    have good := Lived.sound later
    rw [starts_stop good]
    unfold stop
    split
    · rename_i current playing
      split
      · have idle := (Lived.whole later).tearDown good
        rw [awaited_of_none idle.inactive, List.append_nil, milestones_tearDown]
        exact told
      · exact told
    · exact told
  | phase later active done told =>
    have same := scene_runPhase (Lived.sound later) done
    rw [(lenient_any.stirs_runPhase done).milestones, awaited, same.playing, same.starts]
    exact told
  | draw later done told =>
    have same := (course_draw (Lived.sound later) done).scene
    rw [(stirs_draw done).milestones, awaited, same.playing, same.starts]
    exact told

/-- A game that is over is never played again. -/
theorem Later.bygone {others₀ : List Handle} {origin : World S T}
    (later : Later others₀ origin others world) (good : origin.Sound others₀)
    (begun : session.generation ≤ origin.starts) (ended : origin.playing ≠ some session) :
    world.playing ≠ some session := by
  induction later with
  | refl => exact ended
  | camera _ still => exact still
  | @start others world later spec options still =>
    rcases tryStart_cases world spec options with same | ⟨scene, -, -, started⟩
    · rw [same]
      exact still
    · have sound := later.sound good
      obtain ⟨active, number⟩ := session_playScene sound spec scene options.seed
      rw [starts_playScene sound] at number
      rw [started, active]
      intro same
      have counted := later.starts_le good
      rw [Option.some.inj same] at number
      omega
  | @stop others world later stopped still =>
    unfold World.stop
    split
    · split
      · intro playing
        rename_i current active _
        rw [(idle_tearDown (later.sound good) active).inactive] at playing
        cases playing
      · exact still
    · exact still
  | phase later active done still =>
    rw [(scene_runPhase (later.sound good) done).playing]
    exact still
  | draw later done still =>
    rw [(course_draw (later.sound good) done).scene.playing]
    exact still

end World

/-! ### Games that began -/

namespace World

variable {before after world : World S T} {others : List Handle} {session : Session}
  {begun : List Session}

/-- The games that began are numbered in their order, and the one that is played is one of them. -/
structure Counts (begun : List Session) (world : World S T) : Prop where
  numbered : begun.map (·.generation) = List.range' 1 world.starts
  last : ∀ session, world.playing = some session → session ∈ begun

namespace Counts

theorem of_same (counts : Counts begun before) (starts : after.starts = before.starts)
    (playing : ∀ session, after.playing = some session → before.playing = some session) :
    Counts begun after := by
  refine ⟨?_, fun session active => counts.last session (playing session active)⟩
  rw [starts]
  exact counts.numbered

/-- Nothing began. -/
theorem append_nil (counts : Counts begun world) : Counts (begun ++ []) world := by
  rwa [List.append_nil]

/-- A game that was stopped began once, and no other game has its number. -/
theorem stop_ne_iff (counts : Counts begun world) (good : world.Sound others)
    (member : session ∈ begun) : world.stop session ≠ world ↔ world.playing = some session := by
  have apart : (begun.map (·.generation)).Nodup := by
    rw [counts.numbered]
    exact List.nodup_range'
  unfold World.stop World.session?
  constructor
  · intro changes
    split at changes
    · rename_i current playing
      split at changes
      · rename_i same
        rw [playing, List.inj_on_of_nodup_map apart (counts.last current playing) member same]
      · exact absurd rfl changes
    · exact absurd rfl changes
  · intro playing same
    rw [playing] at same
    simp only [↓reduceIte] at same
    have idle := (idle_tearDown good playing).inactive
    rw [same, playing] at idle
    cases idle

variable [Scalar S] [Scalar T]

/-- A start counts if it succeeds. -/
theorem tryStart (counts : Counts begun world) (good : world.Sound others) (spec : Spec S)
    (options : StartOptions) :
    Counts (begun ++ (world.tryStart spec options).2.toOption.toList)
      (world.tryStart spec options).1 := by
  rw [tryStart_eq]
  split
  · exact counts.append_nil
  · rename_i scene opened
    obtain ⟨active, number⟩ := session_playScene good spec scene options.seed
    have counted := starts_playScene good spec scene options.seed
    refine ⟨?_, fun session playing => ?_⟩
    · change (begun ++ [(world.playScene spec scene options.seed).1]).map (·.generation) = _
      rw [List.map_append, counts.numbered, List.map_singleton, number, counted,
        List.range'_concat, Nat.one_mul, Nat.add_comm 1]
    · rw [active] at playing
      cases playing
      exact List.mem_append_right _ List.mem_cons_self

variable [Circular S] [Sampling S] [Rounding T S]

theorem stop (counts : Counts begun world) (lived : world.Lived others) (session : Session) :
    Counts begun (world.stop session) := by
  refine counts.of_same (starts_stop lived.sound) fun other playing => ?_
  rcases lived.stop_cases session with same | idle
  · rwa [same] at playing
  · rw [idle.inactive] at playing
    cases playing

/-- The games that commands start are told in the replies. -/
theorem serve (counts : Counts begun world) (lived : world.Lived others)
    (command : Api.Command S) :
    Counts (begun ++ (Api.serve world command).2.session?.toList) (Api.serve world command).1 := by
  cases command with
  | start spec options => exact counts.tryStart lived.sound spec options
  | stop =>
    simp only [Api.serve, Api.stopCurrent]
    split
    · exact (counts.stop lived _).append_nil
    · exact counts.append_nil
  | status => exact counts.append_nil
  | spec => exact counts.append_nil
  | events since name => exact counts.append_nil

theorem serveAll (counts : Counts begun world) (lived : world.Lived others)
    (commands : List (Api.Command S)) :
    Counts (begun ++ (Api.serveAll world commands).2.filterMap Api.Reply.session?)
      (Api.serveAll world commands).1 := by
  induction commands generalizing world begun with
  | nil => exact counts.append_nil
  | cons command rest ih =>
    have first := ih (counts.serve lived command) (World.Lived.serve lived command)
    have replies : (Api.serveAll world (command :: rest)).2.filterMap Api.Reply.session? =
        (Api.serve world command).2.session?.toList ++
          (Api.serveAll (Api.serve world command).1 rest).2.filterMap Api.Reply.session? := by
      simp only [Api.serveAll, List.filterMap_cons]
      cases (Api.serve world command).2.session? <;> rfl
    rw [replies, ← List.append_assoc]
    exact first

end Counts

end World

/-! ### Runs -/

variable [Scalar S] [Scalar T] [Circular S] [Sampling S] [Rounding T S]

namespace Cabinet

variable {α : Type} {cabinet after : Cabinet S T} {operations : List (Operation S T)}

/-- What is noted while things happen one after the other, as long as the game can go on. -/
def trail (note : Cabinet S T → Operation S T → List α) (cabinet : Cabinet S T) :
    List (Operation S T) → List α
  | [] => []
  | operation :: rest =>
    note cabinet operation ++
      match cabinet.apply operation with
      | .ok next => next.trail note rest
      | .error _ => []

/-- What each operation keeps, with what was noted so far, holds at the end of a run. -/
theorem trail_run {note : Cabinet S T → Operation S T → List α}
    (holds : List α → Cabinet S T → Prop)
    (step : ∀ {past : List α} {cabinet after : Cabinet S T} {operation : Operation S T},
      cabinet.Alive → holds past cabinet → cabinet.apply operation = .ok after →
      holds (past ++ note cabinet operation) after)
    (alive : cabinet.Alive) {past : List α} (held : holds past cabinet)
    (ran : cabinet.run operations = .ok after) :
    holds (past ++ cabinet.trail note operations) after := by
  induction operations generalizing cabinet past with
  | nil =>
    cases ran
    rwa [trail, List.append_nil]
  | cons operation rest ih =>
    obtain ⟨next, first, ran⟩ := bind_eq_ok ran
    rw [trail, first, ← List.append_assoc]
    exact ih (alive.later (later_apply alive.sound first)) (step alive held first) ran

theorem later_run (alive : cabinet.Alive) (ran : cabinet.run operations = .ok after) :
    cabinet.Later after := by
  induction operations generalizing cabinet with
  | nil =>
    cases ran
    exact .refl
  | cons operation rest ih =>
    obtain ⟨next, first, ran⟩ := bind_eq_ok ran
    have later := later_apply alive.sound first
    exact World.Later.trans later (ih (alive.later later) ran)

/-- The games that begin in an operation. -/
def begins (cabinet : Cabinet S T) : Operation S T → List Session
  | .start spec options => (cabinet.world.tryStart spec options).2.toOption.toList
  | .service .commands => cabinet.serve.2.filterMap Api.Reply.session?
  | .service .pending =>
    (cabinet.pending.bind fun pending =>
      (cabinet.world.tryStart pending.spec pending.options).2.toOption).toList
  | _ => []

theorem counts_attend {begun : List Session} (alive : cabinet.Alive)
    (counts : World.Counts begun cabinet.world) {service : Service}
    (done : cabinet.attend service = .ok after) :
    World.Counts (begun ++ cabinet.begins (.service service)) after.world := by
  cases service with
  | screen =>
    cases done
    unfold switchOn
    split
    · exact counts.append_nil
    · split
      · exact counts.append_nil
      · have taken (handles : Handles) : World.Counts begun { cabinet.world with handles } :=
          counts.of_same rfl fun _ => id
        exact (taken _).append_nil
  | display =>
    simp only [attend, display] at done
    split at done
    · cases done
      exact counts.append_nil
    · obtain ⟨world, drawn, done⟩ := bind_eq_ok done
      cases done
      have same := (World.course_draw alive.sound drawn).scene
      refine (counts.of_same same.starts fun session playing => ?_).append_nil
      exact same.playing.symm.trans playing
  | commands =>
    cases done
    exact counts.serveAll alive _
  | pending =>
    cases done
    cases waits : cabinet.pending with
    | none =>
      rw [startPending, begins, waits]
      exact counts.append_nil
    | some pending =>
      rw [startPending, begins, waits]
      exact counts.tryStart alive.sound pending.spec pending.options
  | changes =>
    cases done
    unfold lookForChanges
    split
    · exact counts.append_nil
    · exact counts.append_nil

theorem counts_apply {begun : List Session} (alive : cabinet.Alive)
    (counts : World.Counts begun cabinet.world) {operation : Operation S T}
    (done : cabinet.apply operation = .ok after) :
    World.Counts (begun ++ cabinet.begins operation) after.world := by
  cases operation with
  | start spec options =>
    cases done
    exact counts.tryStart alive.sound spec options
  | stop session =>
    cases done
    exact (counts.stop alive session).append_nil
  | stopCurrent =>
    cases done
    exact counts.serve alive .stop
  | step keyboard delta =>
    obtain ⟨world, stepped, done⟩ := bind_eq_ok done
    cases done
    have same := World.scene_step alive.sound stepped
    refine (counts.of_same same.starts fun session playing => ?_).append_nil
    exact same.playing.symm.trans playing
  | insert spec options =>
    cases done
    exact counts.append_nil
  | change contents =>
    cases done
    exact counts.append_nil
  | send command =>
    cases done
    exact counts.append_nil
  | service service => exact counts_attend alive counts done

theorem counts_run {begun : List Session} (alive : cabinet.Alive)
    (counts : World.Counts begun cabinet.world) (ran : cabinet.run operations = .ok after) :
    World.Counts (begun ++ cabinet.trail begins operations) after.world :=
  trail_run (fun past cabinet => World.Counts past cabinet.world)
    (fun alive counts done => counts_apply alive counts done) alive counts ran

/-- Whatever is done, the games that began are numbered from one on, and a start that failed took no
number. Stopping one of them does something just while it is played, and never again once it is over.
A frame between games changes nothing at all. The games that began and ended are told in turn, and only
the end of a game that is still played is missing. -/
theorem plays_in_turn {entropy : Entropy} {watch : Option Watch} {pictures : Option Bool}
    (ran : (new entropy watch (pictures.map Screen.start)).run operations = .ok cabinet) :
    ∃ begun, begun = (new entropy watch (pictures.map Screen.start)).trail begins operations ∧
      begun.map (·.generation) = List.range' 1 begun.length ∧
      (∀ session ∈ begun,
        (cabinet.world.stop session ≠ cabinet.world ↔ cabinet.world.playing = some session) ∧
        (cabinet.world.playing ≠ some session →
          ∀ {more : List (Operation S T)} {later : Cabinet S T}, cabinet.run more = .ok later →
            later.world.stop session = later.world)) ∧
      (cabinet.world.playing = none →
        ∀ keyboard delta, cabinet.apply (.step keyboard delta) = .ok cabinet) ∧
      cabinet.world.milestones ++ cabinet.world.awaited = Milestone.turns begun.length := by
  have alive := alive_of_run ran
  have nothing : World.Counts [] (new entropy watch (pictures.map Screen.start) : Cabinet S T).world :=
    ⟨rfl, fun session playing => by cases playing⟩
  have counts := counts_run (alive_new entropy watch pictures) nothing ran
  rw [List.nil_append] at counts
  have number : cabinet.world.starts =
      ((new entropy watch (pictures.map Screen.start)).trail begins operations).length := by
    have lengths := congrArg List.length counts.numbered
    rw [List.length_map, List.length_range'] at lengths
    exact lengths.symm
  refine ⟨_, rfl, number ▸ counts.numbered, fun session member => ?_, fun idle keyboard delta => ?_,
    number ▸ World.Lived.turns alive⟩
  · refine ⟨counts.stop_ne_iff alive.sound member, fun ended more later rerun => ?_⟩
    have began : session.generation ≤ cabinet.world.starts := by
      have listed := List.mem_map_of_mem member (f := Session.generation)
      rw [counts.numbered, List.mem_range'_1] at listed
      omega
    have bygone := (later_run alive rerun).bygone alive.sound began ended
    have recounts := counts_run alive counts rerun
    by_contra changes
    exact bygone ((recounts.stop_ne_iff (alive.run rerun).sound
      (List.mem_append_left _ member)).mp changes)
  · rw [apply, World.step, idle]
    rfl

end Cabinet

/-- A game, another one in its place, a stop that comes too late, a start that fails, the end of the
game, and a third one. -/
def Sample.encore : List (Operation Float32 Float) :=
  [.start spec .default, .step none 25, .send (.start spec .default), .service .commands,
    .stop ⟨1, "main", "Coins"⟩, .start spec ⟨some "bonus", none⟩, .step none 25, .stopCurrent,
    .step none 25, .insert spec .default, .service .pending]

/-- Three games began, and the third is played. -/
theorem Cabinet.plays_in_turn_encore :
    ∃ (cabinet : Cabinet Float32 Float) (begun : List Session),
      (new Sample.entropy none (Option.map Screen.start none)).run Sample.encore = .ok cabinet ∧
        cabinet.world.playing = some ⟨3, "main", "Coins"⟩ ∧
        begun = (new Sample.entropy none (Option.map Screen.start none)).trail begins Sample.encore ∧
        begun.map (·.generation) = [1, 2, 3] ∧
        (∀ session ∈ begun,
          (cabinet.world.stop session ≠ cabinet.world ↔ cabinet.world.playing = some session) ∧
          (cabinet.world.playing ≠ some session →
            ∀ {more : List (Operation Float32 Float)} {later : Cabinet Float32 Float},
              cabinet.run more = .ok later → later.world.stop session = later.world)) ∧
        cabinet.world.milestones =
          [.started 1, .stopped 1, .started 2, .stopped 2, .started 3] := by
  have fine : ((new Sample.entropy none (Option.map Screen.start none) : Cabinet Float32 Float).run
      Sample.encore).toOption.any (fun cabinet =>
        cabinet.world.playing = some ⟨3, "main", "Coins"⟩ &&
          decide (((new Sample.entropy none (Option.map Screen.start none) :
            Cabinet Float32 Float).trail begins
            Sample.encore).length = 3)) = true := by decide +kernel
  obtain ⟨cabinet, ran, fine⟩ := exists_ok_of_any fine
  obtain ⟨active, fine⟩ := (Bool.and_eq_true _ _).mp fine
  have playing := of_decide_eq_true active
  obtain ⟨begun, noted, numbered, stops, -, told⟩ := plays_in_turn ran
  have three : begun.length = 3 := noted ▸ of_decide_eq_true fine
  rw [three] at numbered told
  refine ⟨cabinet, begun, ran, playing, noted, numbered, stops, ?_⟩
  rw [World.awaited, playing] at told
  exact List.append_cancel_right (told.trans rfl :
    _ ++ [Milestone.stopped 3] = [.started 1, .stopped 1, .started 2, .stopped 2, .started 3] ++ _)

end Arcade
