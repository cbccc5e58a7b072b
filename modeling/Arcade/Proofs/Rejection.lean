import Arcade.Proofs.Life

/-! A start that is refused leaves everything as it is. Whether it is refused depends on the document
and on the options alone, never on the game that is played; so what is refused can be left out of a
run, however it arrives, and the run is the same. -/

namespace Arcade

variable {S T : Type}

/-! ### Documents -/

/-- The scene that a start plays first, or why it is refused. -/
def Spec.opening (spec : Spec S) (options : StartOptions) : Except StartError (Spec.Scene S) :=
  (spec.validate.mapError .spec).bind fun _ => spec.choose options.scene

/-- Whether a start is refused. -/
def Spec.refused (spec : Spec S) (options : StartOptions) : Bool := !(spec.opening options).isOk

/-- Whether a text holds no game that could be started. -/
def Spec.refusedText (S : Type) [Scalar S] (options : StartOptions) (contents : String) : Bool :=
  match (ofText contents : Except SpecError (Spec S)) with
  | .ok spec => spec.refused options
  | .error _ => true

theorem Spec.refused_of_choose {spec : Spec S} {options : StartOptions} {error : StartError}
    (missing : spec.choose options.scene = .error error) : spec.refused options = true := by
  rw [refused, opening]
  cases spec.validate with
  | error invalid => rfl
  | ok valid =>
    change (!(spec.choose options.scene).isOk) = true
    rw [missing]
    rfl

namespace World

variable [Scalar S] [Scalar T] {spec : Spec S} {options : StartOptions}

/-- A start either fails on the document, without a trace, or plays the scene it opens with. -/
theorem tryStart_eq (world : World S T) (spec : Spec S) (options : StartOptions) :
    world.tryStart spec options =
      match spec.opening options with
      | .error error => (world, .error error)
      | .ok scene =>
        ((world.playScene spec scene options.seed).2,
          .ok (world.playScene spec scene options.seed).1) := by
  rw [tryStart, Spec.opening]
  cases spec.validate with
  | error invalid => rfl
  | ok valid =>
    cases spec.choose options.scene with
    | error missing => rfl
    | ok scene => rfl

theorem tryStart_of_refused (world : World S T) (refused : spec.refused options = true) :
    (world.tryStart spec options).1 = world := by
  rw [tryStart_eq]
  cases opened : spec.opening options with
  | error error => rfl
  | ok scene =>
    rw [Spec.refused, opened] at refused
    cases refused

theorem refused_of_tryStart {world : World S T} {error : StartError}
    (failed : (world.tryStart spec options).2 = .error error) : spec.refused options = true := by
  rw [tryStart_eq] at failed
  rw [Spec.refused]
  cases opened : spec.opening options with
  | error error => rfl
  | ok scene =>
    rw [opened] at failed
    cases failed

end World

/-! ### Commands -/

namespace Api

variable [Scalar S] [Scalar T]

/-- Whether a command leaves the game alone. -/
def Command.powerless : Command S → Bool
  | .start document options => document.refused options
  | .stop => false
  | .status => true
  | .spec => true
  | .events _ _ => true

theorem serve_powerless (world : World S T) {command : Command S}
    (powerless : command.powerless = true) : (serve world command).1 = world := by
  cases command with
  | start spec options => exact world.tryStart_of_refused powerless
  | stop => cases powerless
  | status => rfl
  | spec => rfl
  | events since name => rfl

theorem serveAll_append (world : World S T) (first second : List (Command S)) :
    (serveAll world (first ++ second)).1 = (serveAll (serveAll world first).1 second).1 := by
  induction first generalizing world with
  | nil => rfl
  | cons command rest ih => exact ih (serve world command).1

theorem serveAll_powerless (world : World S T) {commands : List (Command S)}
    (powerless : ∀ command ∈ commands, command.powerless = true) :
    (serveAll world commands).1 = world := by
  induction commands generalizing world with
  | nil => rfl
  | cons command rest ih =>
    have first := serve_powerless world (powerless command List.mem_cons_self)
    have later := ih (serve world command).1
      fun other member => powerless other (List.mem_cons_of_mem _ member)
    exact later.trans first

/-- A start that is refused does not count among the commands around it. -/
theorem serveAll_refused (world : World S T) (before after : List (Command S)) {spec : Spec S}
    {options : StartOptions} (refused : spec.refused options = true) :
    (serveAll world (before ++ .start spec options :: after)).1 =
      (serveAll world (before ++ after)).1 := by
  have powerless : (Command.start spec options).powerless = true := refused
  have same := serve_powerless (serveAll world before).1 powerless
  rw [serveAll_append, serveAll_append]
  change (serveAll (serve (serveAll world before).1 (.start spec options)).1 after).1 = _
  rw [same]

end Api

/-! ### Changes of the file -/

namespace Watch

variable [Scalar S] {watch : Watch}

/-- Changes that were looked at are gone. -/
theorem rest_take (watch : Watch) (pending : Option (Pending S)) :
    (watch.take pending).1 = { watch with waiting := watch.waiting.drop maxPerUpdate } := by
  unfold take
  split
  · rfl
  · rfl

/-- A change that is no game changes nothing. -/
theorem take_of_error {contents : String} {error : SpecError} (newest : watch.latest? = some contents)
    (broken : (Spec.ofText contents : Except SpecError (Spec S)) = .error error)
    (pending : Option (Pending S)) : (watch.take pending).2 = pending := by
  simp only [take, newest, Option.map_some, broken]

theorem take_of_ok {contents : String} {spec : Spec S} (newest : watch.latest? = some contents)
    (parsed : Spec.ofText contents = .ok spec) (pending : Option (Pending S)) :
    (watch.take pending).2 = some ⟨spec, watch.options⟩ := by
  simp only [take, newest, Option.map_some, parsed]

/-- When all changes hold nothing to start, a look at them lets nothing wait that could be started. -/
theorem refused_take {pending : Option (Pending S)}
    (changes : ∀ contents ∈ watch.waiting, Spec.refusedText S watch.options contents = true)
    (before : ∀ game, pending = some game → game.spec.refused game.options = true) :
    ∀ game, (watch.take pending).2 = some game → game.spec.refused game.options = true := by
  intro game next
  unfold take at next
  split at next
  · rename_i spec read
    obtain ⟨contents, newest, parsed⟩ := Option.map_eq_some_iff.mp read
    have refused := changes contents (List.mem_of_mem_take (List.mem_of_getLast? newest))
    rw [Spec.refusedText, parsed] at refused
    cases next
    exact refused
  · exact before game next

end Watch

/-! ### Arrivals -/

variable [Scalar S] [Scalar T]

/-- Whether an operation only lets something wait. -/
def Operation.arrives : Operation S T → Bool
  | .insert _ _ => true
  | .change _ => true
  | .send _ => true
  | _ => false

/-- Whether an operation is a start that is refused, or lets nothing wait but what is powerless.
Changes of the file are started with the options of the watch, if there is one. -/
def Operation.void (watching : Option StartOptions) : Operation S T → Bool
  | .start spec options => spec.refused options
  | .insert spec options => spec.refused options
  | .change contents => watching.all fun options => Spec.refusedText S options contents
  | .send command => command.powerless
  | _ => false

namespace Cabinet

/-- How games from a changed file are started. -/
def watching (cabinet : Cabinet S T) : Option StartOptions := cabinet.watch.map (·.options)

/-- Nothing waits that could start a game or stop one. -/
structure Harmless (cabinet : Cabinet S T) : Prop where
  commands : ∀ command ∈ cabinet.commands, command.powerless = true
  pending : ∀ pending, cabinet.pending = some pending →
    pending.spec.refused pending.options = true
  changes : ∀ watch, cabinet.watch = some watch → ∀ contents ∈ watch.waiting,
    Spec.refusedText S watch.options contents = true

/-- A cabinet for which nothing waits. -/
def settle (cabinet : Cabinet S T) : Cabinet S T :=
  { cabinet with pending := none, watch := none, commands := [] }

/-- What a cabinet is after something that left it harmless and under the same watch. -/
structure Keeps (cabinet after : Cabinet S T) : Prop where
  harmless : after.Harmless
  watching : after.watching = cabinet.watching

/-- What waits. -/
def waiting (cabinet : Cabinet S T) : Option (Pending S) × Option Watch × List (Api.Command S) :=
  (cabinet.pending, cabinet.watch, cabinet.commands)

variable {cabinet after : Cabinet S T} {operation : Operation S T}

omit [Scalar S] [Scalar T] in
theorem waiting_switchOn (cabinet : Cabinet S T) : cabinet.switchOn.waiting = cabinet.waiting := by
  unfold switchOn
  split
  · rfl
  · split
    · rfl
    · rfl

omit [Scalar T] in
theorem waiting_display (done : cabinet.display = .ok after) : after.waiting = cabinet.waiting := by
  unfold display at done
  split at done
  · cases done
    rfl
  · obtain ⟨world, drawn, done⟩ := bind_eq_ok done
    cases done
    rfl

omit [Scalar T] in
/-- As long as the same waits nothing is lost. -/
theorem Harmless.keeps (harmless : cabinet.Harmless) (same : after.waiting = cabinet.waiting) :
    cabinet.Keeps after := by
  simp only [waiting, Prod.mk.injEq] at same
  obtain ⟨pending, watch, commands⟩ := same
  constructor
  · constructor
    · rw [commands]
      exact harmless.commands
    · rw [pending]
      exact harmless.pending
    · rw [watch]
      exact harmless.changes
  · rw [watching, watching, watch]

omit [Scalar T] in
/-- A look at powerless changes lets nothing wait that could be started. -/
theorem keeps_lookForChanges (harmless : cabinet.Harmless) :
    cabinet.Keeps cabinet.lookForChanges := by
  unfold lookForChanges
  split
  · exact ⟨harmless, rfl⟩
  · rename_i watch watched
    refine ⟨⟨harmless.commands, ?_, ?_⟩, ?_⟩
    · exact Watch.refused_take (harmless.changes watch watched) harmless.pending
    · intro other next contents member
      have known := Option.some.inj next
      rw [← known, Watch.rest_take] at member ⊢
      exact harmless.changes watch watched contents (List.mem_of_mem_drop member)
    · rw [watching, watching, watched]
      simp only [Option.map_some, Watch.rest_take]

omit [Scalar T] in
theorem settle_lookForChanges (cabinet : Cabinet S T) :
    cabinet.lookForChanges.settle = cabinet.settle := by
  unfold lookForChanges
  split
  · rfl
  · rfl

/-- What is refused when it is started is gone afterwards, and nothing else. -/
theorem startPending_of_refused {game : Pending S} (waits : cabinet.pending = some game)
    (refused : game.spec.refused game.options = true) :
    cabinet.startPending = { cabinet with pending := none } := by
  rw [startPending, waits]
  simp only [cabinet.world.tryStart_of_refused refused]

theorem serve_of_harmless (harmless : cabinet.Harmless) :
    cabinet.serve.1 = { cabinet with commands := cabinet.commands.drop Api.maxPerUpdate } := by
  have taken : ∀ command ∈ cabinet.commands.take Api.maxPerUpdate, command.powerless = true :=
    fun command member => harmless.commands command (List.mem_of_mem_take member)
  simp only [serve, Api.pump, Api.serveAll_powerless cabinet.world taken]

theorem keeps_attend (harmless : cabinet.Harmless) {service : Service}
    (done : cabinet.attend service = .ok after) : cabinet.Keeps after := by
  cases service with
  | screen =>
    cases done
    exact harmless.keeps (waiting_switchOn cabinet)
  | display => exact harmless.keeps (waiting_display done)
  | commands =>
    cases done
    rw [serve_of_harmless harmless]
    have rest : ∀ command ∈ cabinet.commands.drop Api.maxPerUpdate, command.powerless = true :=
      fun command member => harmless.commands command (List.mem_of_mem_drop member)
    exact ⟨⟨rest, harmless.pending, harmless.changes⟩, rfl⟩
  | pending =>
    cases done
    cases waits : cabinet.pending with
    | none =>
      rw [startPending, waits]
      exact harmless.keeps rfl
    | some game =>
      rw [startPending_of_refused waits (harmless.pending game waits)]
      have nothing : ∀ game : Pending S, none = some game →
          game.spec.refused game.options = true := by
        intro game next
        cases next
      exact ⟨⟨harmless.commands, nothing, harmless.changes⟩, rfl⟩
  | changes =>
    cases done
    exact keeps_lookForChanges harmless

/-- What is done when only powerless things wait is what is done when nothing waits. -/
theorem settle_attend (harmless : cabinet.Harmless) (service : Service) :
    cabinet.settle.attend service = (cabinet.attend service).map settle := by
  cases service with
  | screen =>
    have lit : cabinet.settle.switchOn = cabinet.switchOn.settle := by
      simp only [switchOn, settle]
      split
      · rfl
      · split
        · rfl
        · rfl
    exact congrArg Except.ok lit
  | display =>
    simp only [attend, display, settle]
    split
    · rfl
    · cases cabinet.world.draw _ with
      | error crash => rfl
      | ok world => rfl
  | commands =>
    rw [attend, attend, serve_of_harmless harmless]
    rfl
  | pending =>
    cases waits : cabinet.pending with
    | none =>
      rw [attend, attend, startPending, startPending, waits]
      rfl
    | some game =>
      rw [attend, attend, startPending_of_refused waits (harmless.pending game waits)]
      rfl
  | changes =>
    rw [attend, attend]
    exact congrArg Except.ok cabinet.settle_lookForChanges.symm

variable [Circular S] [Sampling S] [Rounding T S]

/-- An operation that is no arrival does the same whatever powerless things wait. -/
theorem settle_apply (harmless : cabinet.Harmless) (plain : operation.arrives = false) :
    cabinet.settle.apply operation = (cabinet.apply operation).map settle := by
  cases operation with
  | start spec options => rfl
  | stop session => rfl
  | stopCurrent => rfl
  | step keyboard delta =>
    rw [apply, apply]
    change (cabinet.world.step keyboard delta >>= _) = _
    cases cabinet.world.step keyboard delta with
    | error crash => rfl
    | ok world => rfl
  | insert spec options => cases plain
  | change contents => cases plain
  | send command => cases plain
  | service service => exact settle_attend harmless service

theorem keeps_apply (harmless : cabinet.Harmless) (plain : operation.arrives = false)
    (done : cabinet.apply operation = .ok after) : cabinet.Keeps after := by
  cases operation with
  | start spec options =>
    cases done
    exact harmless.keeps rfl
  | stop session =>
    cases done
    exact harmless.keeps rfl
  | stopCurrent =>
    cases done
    exact harmless.keeps rfl
  | step keyboard delta =>
    obtain ⟨world, stepped, done⟩ := bind_eq_ok done
    cases done
    exact harmless.keeps rfl
  | insert spec options => cases plain
  | change contents => cases plain
  | send command => cases plain
  | service service => exact keeps_attend harmless done

/-- A refused start and a powerless arrival change nothing but what waits. -/
theorem apply_void (harmless : cabinet.Harmless)
    (void : operation.void cabinet.watching = true) :
    ∃ after, cabinet.apply operation = .ok after ∧ cabinet.Keeps after ∧
      after.settle = cabinet.settle := by
  cases operation with
  | start spec options =>
    refine ⟨_, rfl, harmless.keeps rfl, ?_⟩
    simp only [settle, cabinet.world.tryStart_of_refused void]
  | stop session => cases void
  | stopCurrent => cases void
  | step keyboard delta => cases void
  | insert spec options =>
    have next : ∀ game, some (Pending.mk spec options) = some game →
        game.spec.refused game.options = true := by
      intro game same
      cases same
      exact void
    exact ⟨_, rfl, ⟨⟨harmless.commands, next, harmless.changes⟩, rfl⟩, rfl⟩
  | change contents =>
    refine ⟨_, rfl, ⟨⟨harmless.commands, harmless.pending, ?_⟩, ?_⟩, rfl⟩
    · intro watch noted other member
      obtain ⟨before, watched, known⟩ := Option.map_eq_some_iff.mp noted
      rw [← known] at member ⊢
      rcases List.mem_append.mp member with old | new
      · exact harmless.changes before watched other old
      · rw [Operation.void, watching, watched] at void
        rw [List.mem_singleton.mp new]
        exact void
    · rw [watching, watching, noteChange, Option.map_map]
      rfl
  | send command =>
    have waits : ∀ other ∈ cabinet.commands ++ [command], other.powerless = true := by
      intro other member
      rcases List.mem_append.mp member with old | new
      · exact harmless.commands other old
      · rw [List.mem_singleton.mp new]
        exact void
    exact ⟨_, rfl, ⟨⟨waits, harmless.pending, harmless.changes⟩, rfl⟩, rfl⟩
  | service service => cases void

/-- As long as nothing but powerless things arrive, a run is the same without them. -/
theorem run_void (harmless : cabinet.Harmless) {operations : List (Operation S T)}
    (arrivals : ∀ operation ∈ operations, operation.arrives = true →
      operation.void cabinet.watching = true) :
    (cabinet.run operations).map settle =
      cabinet.settle.run (operations.filter fun operation => !operation.void cabinet.watching) := by
  induction operations generalizing cabinet with
  | nil => rfl
  | cons operation rest ih =>
    have later : ∀ after, cabinet.Keeps after →
        (after.run rest).map settle = after.settle.run (rest.filter fun operation =>
          !operation.void cabinet.watching) := by
      intro after keeps
      rw [← keeps.watching]
      apply ih keeps.harmless
      intro other member arrives
      rw [keeps.watching]
      exact arrivals other (List.mem_cons_of_mem _ member) arrives
    cases void : operation.void cabinet.watching with
    | true =>
      obtain ⟨after, done, keeps, same⟩ := apply_void harmless void
      rw [List.filter_cons_of_neg (by simp [void]), ← same, ← later after keeps, run,
        List.foldlM_cons, done]
      rfl
    | false =>
      have plain : operation.arrives = false := by
        cases arrives : operation.arrives with
        | true =>
          have contrary := arrivals operation List.mem_cons_self arrives
          rw [void] at contrary
          cases contrary
        | false => rfl
      have mirrored := settle_apply harmless plain
      rw [List.filter_cons_of_pos (by simp [void]), run, run, List.foldlM_cons, List.foldlM_cons,
        mirrored]
      cases done : cabinet.apply operation with
      | error crash => rfl
      | ok after => exact later after (keeps_apply harmless plain done)

/-- A cabinet whose game no start that fails can touch, whichever way it arrives. -/
structure Steadfast (cabinet : Cabinet S T) : Prop where
  /-- Whether a start fails is a matter of the document and the options. -/
  fails : ∀ spec options, spec.refused options = true ↔
    ∃ error, (cabinet.world.tryStart spec options).2 = .error error
  start : ∀ spec options error, (cabinet.world.tryStart spec options).2 = .error error →
    (cabinet.world.tryStart spec options).1 = cabinet.world
  /-- A request for a start whose body is no game sends no command. -/
  request : ∀ (guard : Api.Guard) (request : Api.Request) (now : Nat) (error : SpecError),
    request.route? = some .start →
    (Spec.ofText request.body : Except SpecError (Spec S)) = .error error →
    (cabinet.receive guard request now).1 = cabinet
  /-- A start that fails does not count among the commands around it. -/
  command : ∀ before after spec options error,
    ((Api.serveAll cabinet.world before).1.tryStart spec options).2 = .error error →
    (Api.serveAll cabinet.world (before ++ .start spec options :: after)).1 =
      (Api.serveAll cabinet.world (before ++ after)).1
  /-- When the newest change is no game, the changes that were looked at are gone, and that is all. -/
  broken : ∀ watch contents error, cabinet.watch = some watch →
    watch.latest? = some contents →
    (Spec.ofText contents : Except SpecError (Spec S)) = .error error →
    cabinet.lookForChanges =
      { cabinet with
        watch := some { watch with waiting := watch.waiting.drop Watch.maxPerUpdate } }
  /-- When the newest change lacks the scene to start with, it waits for a start that does nothing. -/
  missing : ∀ watch contents spec error, cabinet.watch = some watch →
    watch.latest? = some contents → Spec.ofText contents = .ok spec →
    spec.choose watch.options.scene = .error error →
    cabinet.lookForChanges.world = cabinet.world ∧
      cabinet.lookForChanges.pending = some ⟨spec, watch.options⟩ ∧
      ∀ later : Cabinet S T, later.pending = some ⟨spec, watch.options⟩ →
        later.startPending = { later with pending := none }
  /-- While nothing else arrives, a run is the same without what is refused. -/
  run : cabinet.Harmless → ∀ operations : List (Operation S T),
    (∀ operation ∈ operations, operation.arrives = true →
      operation.void cabinet.watching = true) →
    (cabinet.run operations).map settle =
      cabinet.settle.run (operations.filter fun operation => !operation.void cabinet.watching)

omit [Scalar T] [Circular S] [Sampling S] [Rounding T S] in
theorem receive_of_error (guard : Api.Guard) {request : Api.Request} (now : Nat)
    {error : SpecError} (route : request.route? = some .start)
    (broken : (Spec.ofText request.body : Except SpecError (Spec S)) = .error error) :
    (cabinet.receive guard request now).1 = cabinet := by
  have answered : ∃ response : Api.Response S T, Api.readRoute request = .done response := by
    simp only [Api.readRoute, route]
    split
    · simp only [Api.readStart, broken]
      split
      · split
        · exact ⟨_, rfl⟩
        · exact ⟨_, rfl⟩
      · exact ⟨_, rfl⟩
    · exact ⟨_, rfl⟩
  obtain ⟨response, done⟩ := answered
  simp only [receive, Api.receive, done]
  split
  · rfl
  · rename_i asked
    split at asked
    · split at asked
      · cases asked
      · cases asked
    · cases asked

/-- No start that fails touches the game that is played. -/
theorem steadfast (cabinet : Cabinet S T) : cabinet.Steadfast where
  fails spec options := by
    constructor
    · intro refused
      rw [World.tryStart_eq]
      cases opened : spec.opening options with
      | error error => exact ⟨error, rfl⟩
      | ok scene =>
        rw [Spec.refused, opened] at refused
        cases refused
    · intro failed
      obtain ⟨error, failed⟩ := failed
      exact World.refused_of_tryStart failed
  start spec options error failed :=
    cabinet.world.tryStart_of_refused (World.refused_of_tryStart failed)
  request guard request now error route broken := receive_of_error guard now route broken
  command before after spec options error failed :=
    Api.serveAll_refused cabinet.world before after (World.refused_of_tryStart failed)
  broken watch contents error watched newest broken := by
    rw [lookForChanges, watched]
    simp only [Watch.rest_take, Watch.take_of_error newest broken]
  missing watch contents spec error watched newest parsed chosen := by
    refine ⟨?_, ?_, ?_⟩
    · rw [lookForChanges, watched]
    · rw [lookForChanges, watched]
      exact Watch.take_of_ok newest parsed cabinet.pending
    · intro later waits
      exact startPending_of_refused waits (Spec.refused_of_choose chosen)
  run harmless operations arrivals := run_void harmless arrivals

/-- The small game goes on when a scene is asked for that it does not have. -/
theorem steadfast_bonus :
    ∃ cabinet : Cabinet Float32 Float,
      (new Sample.entropy none (Option.map Screen.start none)).run
          [.start Sample.spec .default, .step none 5] =
          .ok cabinet ∧
        cabinet.world.playing.isSome = true ∧
        (cabinet.world.tryStart Sample.spec ⟨some "bonus", none⟩).2 =
          .error (.unknownScene "bonus") ∧
        (cabinet.world.tryStart Sample.spec ⟨some "bonus", none⟩).1 = cabinet.world := by
  have fine : (match (new Sample.entropy none (Option.map Screen.start none) : Cabinet Float32 Float).run
      [.start Sample.spec .default, .step none 5] with
    | .ok cabinet => cabinet.world.playing.isSome
    | .error _ => false) = true := by decide +kernel
  split at fine
  · rename_i cabinet ran
    have unknown : (cabinet.world.tryStart Sample.spec ⟨some "bonus", none⟩).2 =
        .error (.unknownScene "bonus") := by
      rw [World.tryStart_eq]
      rfl
    exact ⟨cabinet, ran, fine, unknown, (steadfast cabinet).start _ _ _ unknown⟩
  · cases fine

end Cabinet

end Arcade
