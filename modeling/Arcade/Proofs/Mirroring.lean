import Arcade.Proofs.Restart

/-! Two worlds that answer alike. They may differ in the identities of their actors and in what was drawn
of them; no command can tell, and after it they still do not differ in anything else. Showing a world
and letting a camera take a place in it do not make it another one. -/

namespace Arcade

variable {S T : Type}

/-- An actor as if it had never been drawn. -/
def Actor.undrawn (actor : Actor S T) : Actor S T :=
  { actor with drawing := none, moved := false, rewritten := false }

namespace World

variable {world other after : World S T} {others held : List Handle}

/-- A world as if it had never been shown. -/
def undrawn (world : World S T) : World S T :=
  { world with roster := world.roster.map Actor.undrawn }

theorem find?_undrawn (world : World S T) (handle : Handle) :
    world.undrawn.roster.find? handle = (world.roster.find? handle).map Actor.undrawn := by
  have keeps (actor : Actor S T) : actor.undrawn.handle = actor.handle := rfl
  exact Roster.find?_map keeps handle

/-- Two worlds that differ only in identities and drawings. -/
structure Mirrors (world other : World S T) : Prop where
  alike : ∃ rename, Alike rename world.undrawn other.undrawn
  log : other.log = world.log
  starts : other.starts = world.starts
  entropy : other.entropy = world.entropy
  playing : other.playing = world.playing

theorem Mirrors.refl (world : World S T) : Mirrors world world :=
  ⟨⟨_, .refl _⟩, rfl, rfl, rfl, rfl⟩

theorem Alike.undrawn {rename : Handle ≃ Handle} (alike : Alike rename world other) :
    Alike rename world.undrawn other.undrawn := by
  refine { alike with actors := fun handle => ?_ }
  rw [find?_undrawn, find?_undrawn, alike.actors, Option.map_map, Option.map_map]
  rfl

/-! ### The end of a game -/

/-- Actors that leave a world without names leave it without a word. -/
theorem silent_foldl_destroy (nameless : world.registry = none) (handles : List Handle) :
    (handles.foldl destroy world).log = world.log ∧
      (handles.foldl destroy world).origins = world.origins := by
  induction handles generalizing world with
  | nil => exact ⟨rfl, rfl⟩
  | cons handle rest ih =>
    have silent : (world.destroy handle).registry = none ∧ (world.destroy handle).log = world.log := by
      unfold destroy
      split
      · exact ⟨nameless, rfl⟩
      · simp only [nameless, and_self]
    obtain ⟨log, origins⟩ := ih silent.1
    exact ⟨log.trans silent.2, origins.trans (origins_destroy world handle)⟩

/-- Of the end of a game only this is told. -/
theorem log_tearDown (world : World S T) :
    world.tearDown.log = (world.playing.map fun session =>
      world.log.emit (.gameStopped session.scene session.generation) none).getD world.log := by
  unfold tearDown
  split
  · rename_i idle
    rw [idle]
    rfl
  · rename_i session playing
    have silent : world.vacate.log = world.log := (silent_foldl_destroy rfl _).1
    simp only [playing, Option.map_some, Option.getD_some, emit, strip, silent]

theorem origins_tearDown (world : World S T) : world.tearDown.origins = world.origins := by
  unfold tearDown
  split
  · rfl
  · have kept : world.vacate.origins = world.origins := (silent_foldl_destroy rfl _).2
    simp only [origins, emit, strip] at kept ⊢
    exact kept

/-- Where no game is played, nothing differs but who was there. -/
theorem alike_of_idle {rename : Handle ≃ Handle} (idle : world.Idle) (otherIdle : other.Idle)
    (births : other.births = world.births.map (·.renamed rename))
    (cradles : other.cradles = world.cradles.map fun cradle => (rename cradle.1, cradle.2)) :
    Alike rename world other := by
  have gone {α : Type} {part : Option α} (absent : part.isSome = false) : part = none := by
    simpa using absent
  have none_of {α β : Type} {part : Option α} {otherPart : Option β} {change : α → β}
      (absent : part.isSome = false) (otherAbsent : otherPart.isSome = false) :
      otherPart = part.map change := by
    rw [gone absent, gone otherAbsent, Option.map_none]
  have same {α : Type} {part otherPart : Option α} (absent : part.isSome = false)
      (otherAbsent : otherPart.isSome = false) : otherPart = part :=
    (gone otherAbsent).trans (gone absent).symm
  have empty (world : World S T) (idle : world.Idle) (handle : Handle) :
      world.roster.find? handle = none := by
    rw [Roster.find?, idle.actors, List.find?_nil]
  constructor
  case actors =>
    intro handle
    rw [empty world idle, empty other otherIdle, Option.map_none]
  case births => exact births
  case cradles => exact cradles
  case registry => exact none_of (idle.parts .registry) (otherIdle.parts .registry)
  case bindings => exact none_of (idle.parts .bindings) (otherIdle.parts .bindings)
  case shots => exact none_of (idle.parts .shots) (otherIdle.parts .shots)
  case contacts => exact none_of (idle.parts .contacts) (otherIdle.parts .contacts)
  case diagnostics => exact same (idle.parts .diagnostics) (otherIdle.parts .diagnostics)
  case furniture =>
    simp only [furniture, Prod.mk.injEq]
    exact ⟨same (idle.parts .clock) (otherIdle.parts .clock),
      same (idle.parts .arena) (otherIdle.parts .arena),
      same (idle.parts .board) (otherIdle.parts .board),
      same (idle.parts .manifest) (otherIdle.parts .manifest),
      same (idle.parts .alarms) (otherIdle.parts .alarms),
      same (idle.parts .nests) (otherIdle.parts .nests),
      same (idle.parts .random) (otherIdle.parts .random),
      same (idle.parts .spec) (otherIdle.parts .spec),
      same (idle.parts .library) (otherIdle.parts .library)⟩

namespace Mirrors

theorem log_tearDown (mirrors : Mirrors world other) : other.tearDown.log = world.tearDown.log := by
  rw [World.log_tearDown, World.log_tearDown, mirrors.playing, mirrors.log]

theorem tearDown (mirrors : Mirrors world other) (sound : world.Sound others)
    (otherSound : other.Sound held) {session : Session} (playing : world.playing = some session) :
    Mirrors world.tearDown other.tearDown := by
  have idle := idle_tearDown sound playing
  have otherIdle := idle_tearDown otherSound (mirrors.playing.trans playing)
  obtain ⟨rename, alike⟩ := mirrors.alike
  have origins := origins_tearDown world
  have otherOrigins := origins_tearDown other
  simp only [World.origins, Prod.mk.injEq] at origins otherOrigins
  refine ⟨⟨rename, (alike_of_idle idle otherIdle ?_ ?_).undrawn⟩, mirrors.log_tearDown, ?_, ?_, ?_⟩
  · rw [origins.1, otherOrigins.1]
    exact alike.births
  · rw [origins.2, otherOrigins.2]
    exact alike.cradles
  · rw [starts_tearDown sound, starts_tearDown otherSound, mirrors.starts]
  · rw [entropy_tearDown sound, entropy_tearDown otherSound, mirrors.entropy]
  · rw [idle.inactive, otherIdle.inactive]

/-! ### Commands -/

variable [Scalar T]

/-- How the game stands looks the same in both. -/
theorem status (mirrors : Mirrors world other) : Api.status other = Api.status world := by
  obtain ⟨rename, alike⟩ := mirrors.alike
  have diagnostics : other.diagnostics = world.diagnostics := alike.diagnostics
  have registry : other.registry = world.registry.map (·.renamed rename) := alike.registry
  have same : other.undrawn.furniture = world.undrawn.furniture := alike.furniture
  simp only [furniture, undrawn, Prod.mk.injEq] at same
  obtain ⟨clock, -, board, -⟩ := same
  have objects : other.registry.map (·.objectCount) = world.registry.map (·.objectCount) := by
    rw [registry, Option.map_map]
    exact congrArg (Option.map · _) (funext fun registry => registry.objectCount_renamed rename)
  simp only [Api.status, session?, mirrors.playing, diagnostics, clock, board, objects]

omit [Scalar T] in
theorem spec (mirrors : Mirrors world other) : other.spec = world.spec := by
  obtain ⟨rename, alike⟩ := mirrors.alike
  have same : other.undrawn.furniture = world.undrawn.furniture := alike.furniture
  simp only [furniture, undrawn, Prod.mk.injEq] at same
  exact same.2.2.2.2.2.2.2.1

omit [Scalar T] in
theorem stopCurrent (mirrors : Mirrors world other) (sound : world.Sound others)
    (otherSound : other.Sound held) :
    (Api.stopCurrent other).2 = (Api.stopCurrent world).2 ∧
      Mirrors (Api.stopCurrent world).1 (Api.stopCurrent other).1 := by
  simp only [Api.stopCurrent, World.stop, session?, mirrors.playing]
  cases playing : world.playing with
  | none => exact ⟨rfl, mirrors⟩
  | some session =>
    simp only [↓reduceIte, true_and]
    exact mirrors.tearDown sound otherSound playing

variable [Scalar S] [Circular S] [Sampling S] [Rounding T S]

/-- A start fails in both for the same reason, or the same game is played in both. -/
theorem tryStart (mirrors : Mirrors world other) (lived : world.Lived others)
    (otherLived : other.Lived held) (spec : Spec S) (options : StartOptions) :
    (other.tryStart spec options).2 = (world.tryStart spec options).2 ∧
      Mirrors (world.tryStart spec options).1 (other.tryStart spec options).1 := by
  rw [tryStart_eq, tryStart_eq]
  cases spec.opening options with
  | error error => exact ⟨rfl, mirrors⟩
  | ok scene =>
    have session := playScene_fst lived.sound spec scene options.seed
    have otherSession := playScene_fst otherLived.sound spec scene options.seed
    rw [mirrors.starts, ← session] at otherSession
    have drawn : world.generator options.seed = other.generator options.seed := by
      rw [generator, generator, mirrors.starts, mirrors.entropy]
    obtain ⟨rename, signals, alike, told, otherTold⟩ :=
      lived.alike_playScene otherLived spec scene drawn
    refine ⟨congrArg Except.ok otherSession, ⟨rename, alike.undrawn⟩, ?_, ?_, ?_, ?_⟩
    · rw [otherTold, told, mirrors.log_tearDown, mirrors.starts]
    · rw [starts_playScene otherLived.sound, starts_playScene lived.sound, mirrors.starts]
    · rw [entropy_playScene otherLived.sound, entropy_playScene lived.sound, mirrors.entropy]
    · rw [(session_playScene otherLived.sound spec scene options.seed).1,
        (session_playScene lived.sound spec scene options.seed).1, otherSession]

/-- A command has the same reply in both, and leaves them alike. -/
theorem serve (mirrors : Mirrors world other) (lived : world.Lived others)
    (otherLived : other.Lived held) (command : Api.Command S) :
    (Api.serve other command).2 = (Api.serve world command).2 ∧
      Mirrors (Api.serve world command).1 (Api.serve other command).1 := by
  cases command with
  | start spec options =>
    obtain ⟨same, begun⟩ := mirrors.tryStart lived otherLived spec options
    exact ⟨congrArg Api.Reply.started same, begun⟩
  | stop =>
    obtain ⟨same, stopped⟩ := mirrors.stopCurrent lived.sound otherLived.sound
    exact ⟨congrArg Api.Reply.stopped same, stopped⟩
  | status => exact ⟨congrArg Api.Reply.status mirrors.status, mirrors⟩
  | spec => exact ⟨congrArg Api.Reply.spec mirrors.spec, mirrors⟩
  | events since name =>
    have told : Api.events other since name = Api.events world since name := by
      rw [Api.events, mirrors.log, Api.events]
    exact ⟨congrArg Api.Reply.events told, mirrors⟩

theorem serveAll (mirrors : Mirrors world other) (lived : world.Lived others)
    (otherLived : other.Lived held) (commands : List (Api.Command S)) :
    (Api.serveAll other commands).2 = (Api.serveAll world commands).2 ∧
      Mirrors (Api.serveAll world commands).1 (Api.serveAll other commands).1 := by
  induction commands generalizing world other with
  | nil => exact ⟨rfl, mirrors⟩
  | cons command rest ih =>
    obtain ⟨same, next⟩ := mirrors.serve lived otherLived command
    have lives := World.Lived.serve lived command
    have otherLives := World.Lived.serve otherLived command
    obtain ⟨others, last⟩ := ih next lives otherLives
    refine ⟨?_, last⟩
    simp only [Api.serveAll, same, others]

end Mirrors

/-! ### Showing a world -/

variable [Scalar S]

/-- Drawing an actor changes nothing else about anybody. -/
theorem find?_attachDrawing (good : world.Sound others) (pictures : Bool) (handle sought : Handle) :
    (world.attachDrawing pictures handle).undrawn.roster.find? sought =
      world.undrawn.roster.find? sought := by
  rw [find?_undrawn, find?_undrawn, attachDrawing, Roster.find?_update good.distinct]
  · split
    · rw [Option.map_map]
      rfl
    · rfl
  · exact fun _ => rfl

theorem safe_attachDrawing (world : World S T) (pictures : Bool) (handle : Handle) :
    Safe others world (world.attachDrawing pictures handle) := by
  have drawn : Stirs (fun _ _ => True) world (world.attachDrawing pictures handle) :=
    .updated handle (fun _ => rfl) fun _ => trivial
  exact drawn.safe

/-- Drawing actors one after the other changes nothing but the roster, and in it only drawings. -/
theorem drawn_foldl (good : world.Sound others) (pictures : Bool) (handles : List Handle) :
    ∃ roster, handles.foldl (attachDrawing pictures) world = { world with roster } ∧
      ∀ sought, (roster.find? sought).map Actor.undrawn =
        (world.roster.find? sought).map Actor.undrawn := by
  induction handles generalizing world with
  | nil => exact ⟨world.roster, rfl, fun _ => rfl⟩
  | cons handle rest ih =>
    obtain ⟨roster, drawn, same⟩ := ih (safe_attachDrawing world pictures handle good).1
    have first (sought : Handle) := find?_attachDrawing good pictures handle sought
    simp only [find?_undrawn] at first
    exact ⟨roster, drawn, fun sought => (same sought).trans (first sought)⟩

/-- A world that is shown is the same but for what is drawn. -/
theorem drawn_draw (good : world.Sound others) {pictures : Bool}
    (done : world.draw pictures = .ok after) :
    ∃ roster, after = { world with roster } ∧
      ∀ sought, (roster.find? sought).map Actor.undrawn =
        (world.roster.find? sought).map Actor.undrawn := by
  unfold draw at done
  split at done
  · cases done
  · cases done
    obtain ⟨roster, drawn, same⟩ := drawn_foldl good pictures
      ((world.roster.actors.filter fun actor => actor.drawing.isNone).map (·.handle))
    have attached : world.attachDrawings pictures = { world with roster } := drawn
    rw [attached]
    refine ⟨_, rfl, fun sought => ?_⟩
    rw [← same, Roster.find?_map, Option.map_map]
    · rfl
    · exact fun _ => rfl

/-- A world that is shown again is alike. -/
theorem Mirrors.draw (mirrors : Mirrors world other) (good : other.Sound others) {pictures : Bool}
    (done : other.draw pictures = .ok after) : Mirrors world after := by
  obtain ⟨roster, rfl, same⟩ := drawn_draw good done
  obtain ⟨rename, alike⟩ := mirrors.alike
  refine ⟨⟨rename, { alike with actors := fun handle => ?_ }⟩, mirrors.log, mirrors.starts,
    mirrors.entropy, mirrors.playing⟩
  rw [find?_undrawn, same, ← find?_undrawn]
  exact alike.actors handle

omit [Scalar S] in
/-- A world in which a camera took a place is alike. -/
theorem Mirrors.camera (mirrors : Mirrors world other) (handles : Handles) :
    Mirrors world { other with handles } := by
  obtain ⟨rename, alike⟩ := mirrors.alike
  exact ⟨⟨rename, { alike with }⟩, mirrors.log, mirrors.starts, mirrors.entropy,
    mirrors.playing⟩

end World

end Arcade
