import Arcade.Proofs.Numbering
import Arcade.Proofs.Stillness

/-! The end of a game. It comes once, however often it is called for: it is told once and shown by one
banner, and from then on the arena is paused. In a frame in which the arena does not run nobody is put
elsewhere and nobody meets. -/

namespace Arcade

variable {S T : Type}

/-! ### The end in the books -/

namespace Books

/-- Since some books were closed the game has ended once or not at all: the arena is paused, the end
was told, and a banner was made, exactly if the board says that the game has ended. -/
structure EndsOnce (first books : Books S T) : Prop where
  paused : ∃ board arena, books.board = some board ∧ books.arena = some arena ∧
    arena.paused = board.ended
  told : ∃ news, books.log.history = news ++ first.log.history ∧
    news.countP (fun signal => signal.name = "game_over") = if books.ended then 1 else 0
  shown : ∃ made, books.births = made ++ first.births ∧
    made.countP (fun birth => birth.id = World.gameOverTextId) = if books.ended then 1 else 0

theorem Opened.endsOnce [Scalar S] [Scalar T] {books : Books S T} {settings : Spec.Settings S}
    {spawners : List (Spec.Spawner S)} (opened : books.Opened settings spawners) :
    EndsOnce books books := by
  have going : books.ended = false := by
    rw [ended, opened.board]
    rfl
  refine ⟨⟨_, _, opened.board, opened.arena, rfl⟩, ⟨[], rfl, ?_⟩, ⟨[], rfl, ?_⟩⟩
  · rw [going]
    rfl
  · rw [going]
    rfl

variable {first books : Books S T}

/-- Whoever is made under another id than the banner's is no banner. -/
theorem EndsOnce.birth (once : EndsOnce first books) {later : Books S T} {birth : Birth S}
    (other : birth.id ≠ World.gameOverTextId) (log : later.log = books.log)
    (board : later.board = books.board) (arena : later.arena = books.arena)
    (born : later.births = birth :: books.births) : EndsOnce first later := by
  have same : later.ended = books.ended := by rw [ended, ended, board]
  refine ⟨?_, ?_, ?_⟩
  · rw [board, arena]
    exact once.paused
  · rw [log, same]
    exact once.told
  · obtain ⟨made, since, banners⟩ := once.shown
    refine ⟨birth :: made, by rw [born, since, List.cons_append], ?_⟩
    rw [List.countP_cons_of_neg (by simpa using other), same]
    exact banners

/-- Whatever is told under another name is not the end. -/
theorem EndsOnce.news (once : EndsOnce first books) {later : Books S T} {signal : Signal}
    (other : signal.name ≠ "game_over") (told : later.log.history = signal :: books.log.history)
    (board : later.board = books.board) (arena : later.arena = books.arena)
    (births : later.births = books.births) : EndsOnce first later := by
  have same : later.ended = books.ended := by rw [ended, ended, board]
  refine ⟨?_, ?_, ?_⟩
  · rw [board, arena]
    exact once.paused
  · obtain ⟨news, since, ends⟩ := once.told
    refine ⟨signal :: news, by rw [told, since, List.cons_append], ?_⟩
    rw [List.countP_cons_of_neg (by simpa using other), same]
    exact ends
  · rw [births, same]
    exact once.shown

/-- The game ends once, whatever is entered while it is played. -/
theorem EndsOnce.enter (once : EndsOnce first books) {entry : Entry S T}
    (framed : entry.OfFrame) (admitted : books.Admits entry) :
    EndsOnce first (books.enter entry) := by
  obtain ⟨board, arena, boarded, fenced, paused⟩ := once.paused
  obtain ⟨news, told, ends⟩ := once.told
  obtain ⟨made, since, banners⟩ := once.shown
  cases entry with
  | frame => exact ⟨once.paused, once.told, once.shown⟩
  | news signal source =>
    have other : signal.name ≠ "game_over" := by
      cases signal with
      | gameOver score => exact absurd rfl (admitted score)
      | _ => simp [Signal.name]
    refine once.news other ?_ ?_ ?_ ?_ <;> simp only [Books.enter, Log.emit]
  | score points =>
    refine ⟨⟨⟨board.score + points, board.ended⟩, arena, ?_, fenced, paused⟩, once.told, once.shown⟩
    rw [Books.enter, boarded]
    rfl
  | ending handle center =>
    have going : books.ended = false := admitted
    rw [going] at ends banners
    refine ⟨⟨⟨board.score, true⟩, arena.pause, ?_, ?_, rfl⟩,
      ⟨.gameOver (books.board.getD .start).score :: news, ?_, ?_⟩,
      ⟨⟨handle, World.gameOverTextId, World.banner center⟩ :: made, ?_, ?_⟩⟩
    · rw [Books.enter, boarded]
      rfl
    · rw [Books.enter, fenced]
      rfl
    · rw [List.cons_append, ← told]
      rfl
    · rw [List.countP_cons_of_pos (by rfl), ends]
      rfl
    · rw [List.cons_append, ← since]
      rfl
    · rw [List.countP_cons_of_pos (by simp), banners]
      rfl
  | object handle object => exact absurd framed (Entry.not_ofFrame_object handle object)
  | copy handle spawner => exact once.birth (World.copyId_ne_banner _ _) rfl rfl rfl rfl
  | shot handle owner template => exact once.birth (World.shotId_ne_banner _ _) rfl rfl rfl rfl
  | miss owner => exact ⟨once.paused, once.told, once.shown⟩
  | nests nests => exact ⟨once.paused, once.told, once.shown⟩

end Books

/-! ### Frames in which the arena does not run -/

/-- What comes before a part of a frame. -/
theorem Phase.eq_earlier {phase : Phase} {before rest : List Phase}
    (split : Phase.order = before ++ phase :: rest) : before = phase.earlier := by
  have distinct : Phase.order.Nodup := by decide
  rw [split] at distinct
  have others : ∀ other ∈ before, decide (other ≠ phase) = true := by
    intro other member
    exact decide_eq_true ((List.nodup_append.mp distinct).2.2 other member phase
      List.mem_cons_self)
  rw [Phase.earlier, split, List.takeWhile_append_of_pos others,
    List.takeWhile_cons_of_neg (by simp), List.append_nil]

namespace World

variable [Scalar S] [Scalar T] [Circular S] [Sampling S] [Rounding T S]
  {world after : World S T} {others : List Handle} {keyboard : Option (List Key)} {delta : T}

/-- An arena that does not run is not set going while the game is played. -/
theorem halted_runPhase {phase : Phase} (halted : world.running = false)
    (done : world.runPhase keyboard delta phase = .ok after) : after.running = false := by
  refine (runs_runPhase done).keeps
    (fun books => books.arena.any Arena.running = false) ?_ halted
  intro books entry _ _ still
  cases entry with
  | ending handle center =>
    cases fenced : books.arena with
    | none => rw [Books.enter, fenced]; rfl
    | some arena =>
      rw [Books.enter, fenced]
      exact Bool.and_false _
  | _ => simpa only [Books.enter] using still

/-- In a frame in which the arena does not run when it comes to movement, nobody is put elsewhere at any
time, and nobody meets. -/
theorem still_frame (good : world.Sound others) {first rest : List Phase}
    (split : Phase.order = first ++ rest)
    (framed : world.runPhases keyboard delta first = .ok after)
    (halted : ∀ found, world.runPhases keyboard delta Phase.movement.earlier = .ok found →
      found.running = false) :
    Still others world after ∧ (world.Settled → after.Settled) := by
  refine (still_runPhases good ?_ framed).imp_right And.left
  intro earlier phase later found parted reached
  rw [parted, List.append_assoc, List.cons_append] at split
  have before := Phase.eq_earlier split
  rw [before] at reached
  cases phase with
  | movement => exact .inr (halted found reached)
  | contacts =>
    -- movement comes right before the search for contacts
    have steps : Phase.contacts.earlier = Phase.movement.earlier ++ [.movement] := rfl
    rw [steps, runPhases_append_eq_ok_iff] at reached
    obtain ⟨idle, moved, reached⟩ := reached
    obtain ⟨last, first, reached⟩ := bind_eq_ok reached
    cases reached
    exact .inr (halted_runPhase (halted idle moved) first)
  | _ => exact .inl ⟨Phase.noConfusion, Phase.noConfusion⟩

omit [Scalar T] [Circular S] [Sampling S] [Rounding T S] in
/-- Where no contact waits no callback is run for any. -/
theorem calls_of_settled (settled : world.Settled) : world.calls = [] := by
  unfold calls
  split
  · rfl
  · rename_i contacts waiting
    have none : contacts = [] := by simpa [Settled, waiting] using settled
    rw [none]
    rfl

/-! ### The end of a game -/

/-- A game was just started. -/
def Begun (session : Session) (others : List Handle) (started : World S T) : Prop :=
  ∃ (world : World S T) (spec : Spec S) (options : StartOptions), world.Lived others ∧
    world.tryStart spec options = (started, .ok session)

/-- Since its start a game has ended once or not at all. -/
theorem Lived.endsOnce {session : Session} (lived : world.Lived others)
    (playing : world.playing = some session) :
    ∃ others₀ started, Begun session others₀ started ∧ Later others₀ started others world ∧
      Books.EndsOnce started.books world.books := by
  have law : Law fun (others : List Handle) (world : World S T) =>
      ∀ session, world.playing = some session → ∃ others₀ started, Begun session others₀ started ∧
        Later others₀ started others world ∧ Books.EndsOnce started.books world.books := by
    constructor
    · intro world _ known session playing
      obtain ⟨others₀, started, begun, later, once⟩ := known session playing
      exact ⟨others₀, started, begun, later.camera, once⟩
    · intro others world after active keyboard delta phase lived playing known done session still
      have same := (scene_runPhase lived.sound done).playing
      obtain ⟨others₀, started, begun, later, once⟩ := known session (same.symm.trans still)
      refine ⟨others₀, started, begun, later.phase playing done, ?_⟩
      exact (runs_runPhase done).keeps (Books.EndsOnce started.books)
        (fun _ _ allowed admitted once => once.enter ⟨phase, allowed⟩ admitted) once
    · intro others world after active pictures lived playing known done session still
      have same := (course_draw lived.sound done).scene.playing
      obtain ⟨others₀, started, begun, later, once⟩ := known session (same.symm.trans still)
      refine ⟨others₀, started, begun, later.draw done, ?_⟩
      rw [books_draw done]
      exact once
  refine law.lived ?_ lived playing session playing
  intro others world spec options scene lived valid chosen session playing
  have start : world.tryStart spec options = _ := tryStart_of_choose valid chosen
  have active := (session_playScene lived.sound spec scene options.seed).1
  rw [active] at playing
  cases playing
  exact ⟨others, _, ⟨world, spec, options, lived, start⟩, .refl,
    (opened_playScene world spec scene options.seed).endsOnce⟩

/-- A game that has ended stays so as long as it is played. -/
theorem Later.ended {others₀ : List Handle} {world₀ : World S T} {session : Session}
    (lived : world₀.Lived others₀) (begun : world₀.playing = some session)
    (finished : world₀.ended = true) (later : Later others₀ world₀ others world)
    (playing : world.playing = some session) : world.ended = true :=
  (later.grown lived begun playing).ended finished

end World

variable [Scalar S] [Scalar T] [Circular S] [Sampling S] [Rounding T S]

/-- Whatever is done to a cabinet, and wherever a frame stands: since the game was started its arena was
paused, its end told and a banner made exactly if its board says that it has ended, and then once. It
stays ended as long as it is played. And in a frame that finds the arena not running when bodies are
to move, whoever stays stays in place, and no contact is found and none is served. -/
theorem Cabinet.ends_once {entropy : Entropy} {watch : Option Watch} {pictures : Option Bool}
    {operations : List (Operation S T)} {cabinet : Cabinet S T} {session : Session}
    {keyboard : Option (List Key)} {delta : T} {first rest : List Phase} {world : World S T}
    (ran : (new entropy watch (pictures.map Screen.start)).run operations = .ok cabinet)
    (playing : cabinet.world.playing = some session) (split : Phase.order = first ++ rest)
    (framed : cabinet.world.runPhases keyboard delta first = .ok world) :
    (∃ others started, World.Begun session others started ∧
      World.Later others started cabinet.held world ∧
      Books.EndsOnce started.books world.books) ∧
    (world.ended = true → ∀ others later, World.Later cabinet.held world others later →
      later.playing = some session → later.ended = true) ∧
    ((∀ found, cabinet.world.runPhases keyboard delta Phase.movement.earlier = .ok found →
        found.running = false) →
      (∀ handle, cabinet.world.alive handle = true → world.alive handle = true →
        world.place? handle = cabinet.world.place? handle) ∧
      world.contacts = some [] ∧ world.calls = []) := by
  have alive := alive_of_run ran
  obtain ⟨lived, still⟩ := World.Lived.phases alive playing framed
  refine ⟨World.Lived.endsOnce lived still, ?_, ?_⟩
  · intro finished others later since active
    exact World.Later.ended lived still finished since active
  · intro halted
    obtain ⟨placed, settled⟩ := World.still_frame alive.sound split framed halted
    have settled := settled (rests_run World.rest_settled (alive_new entropy watch pictures) rfl ran)
    refine ⟨?_, ?_, World.calls_of_settled settled⟩
    · intro handle here there
      obtain ⟨actor, found⟩ := Option.isSome_iff_exists.mp here
      have known : cabinet.world.place? handle = some actor.position := by
        rw [World.place?, found]
        rfl
      rcases placed handle actor.position known with same | gone
      · rw [same, known]
      · rw [gone.not_alive] at there
        cases there
    · rcases World.Lived.whole lived with ⟨_, whole⟩ | idle
      · obtain ⟨contacts, waiting⟩ := Option.isSome_iff_exists.mp (whole.parts .contacts)
        rw [World.Settled, waiting] at settled
        exact waiting.trans (congrArg some settled)
      · rw [idle.inactive] at still
        cases still

namespace Sample

/-- Someone who runs, in a game that ends after ten milliseconds. -/
def finale : Spec Float32 :=
  { spec with
    scenes := [{
      name := "main"
      objects := [{ walker "runner" with
        body := some { role := .dynamic, bounce := none, bounded := none, velocity := some ⟨90, 0⟩ } }]
      logic := some {
        onCollision := none
        onOverlap := none
        timers := some ["after 10 ms -> gameOver"]
        spawners := none
        actions := none } }] }

end Sample

/-- In the frame in which the game ends nobody runs any more. -/
theorem Cabinet.ends_once_finale :
    ∃ (cabinet : Cabinet Float32 Float) (session : Session) (world : World Float32 Float),
      (new Sample.entropy none (Option.map Screen.start none)).run [.start Sample.finale .default] =
          .ok cabinet ∧
        cabinet.world.playing = some session ∧
        cabinet.world.runPhases none 25 Phase.order = .ok world ∧ world.ended = true ∧
        (∃ others started, World.Begun session others started ∧
          World.Later others started cabinet.held world ∧
          Books.EndsOnce started.books world.books) ∧
        ∀ handle, cabinet.world.alive handle = true → world.alive handle = true →
          world.place? handle = cabinet.world.place? handle := by
  have fine : ((new Sample.entropy none (Option.map Screen.start none) : Cabinet Float32 Float).run
      [.start Sample.finale .default]).toOption.any (fun cabinet =>
        cabinet.world.playing.isSome &&
          ((cabinet.world.runPhases none 25 Phase.order).toOption.any (·.ended) &&
            (cabinet.world.runPhases none 25 Phase.movement.earlier).toOption.all
              fun found => !found.running)) = true := by decide +kernel
  obtain ⟨cabinet, ran, fine⟩ := exists_ok_of_any fine
  obtain ⟨active, fine⟩ := (Bool.and_eq_true _ _).mp fine
  obtain ⟨session, playing⟩ := Option.isSome_iff_exists.mp active
  obtain ⟨frames, halted⟩ := (Bool.and_eq_true _ _).mp fine
  obtain ⟨world, framed, ended⟩ := exists_ok_of_any frames
  obtain ⟨once, -, frozen⟩ := ends_once ran playing (List.append_nil _).symm framed
  refine ⟨cabinet, session, world, ran, playing, framed, ended, once, (frozen ?_).1⟩
  intro found reached
  rw [reached] at halted
  have stopped : (!found.running) = true := halted
  simpa using stopped

end Arcade
