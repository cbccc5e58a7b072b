import Arcade.Proofs.Pump
import Arcade.Proofs.Reading

/-! A game that follows its file. Changes of the file wait to be looked at, a few at a time; what the
latest of those brings waits to be started, in the one place there is. Whatever the order in which
changes arrive, are looked at and are started, once nothing waits the game that is played is the one
that the newest change holds: older ones may have been played before it, but never after it. -/

namespace Arcade

variable {S T : Type}

/-- The contents of a changed file that an operation tells of. -/
def Operation.saved? : Operation S T → Option String
  | .change contents => some contents
  | _ => none

/-- Whether an operation leaves it to the changes of the file to start a game or to stop one. -/
def Operation.yields [Scalar S] [Scalar T] : Operation S T → Bool
  | .start spec options => spec.refused options
  | .stop _ => false
  | .stopCurrent => false
  | .insert _ _ => false
  | .send command => command.powerless
  | _ => true

/-- The game that is played, and how many were started so far. -/
def World.game (world : World S T) : Option Session × Option (Spec S) × Nat :=
  (world.playing, world.spec, world.starts)

theorem World.SameScene.game {before after : World S T} (same : SameScene before after) :
    after.game = before.game := by
  rw [World.game, World.game, same.playing, same.spec, same.starts]

variable [Scalar S] [Scalar T]

theorem World.spec_playScene {world : World S T} {others : List Handle} (good : world.Sound others)
    (spec : Spec S) (scene : Spec.Scene S) (seed : Option Nat) :
    (world.playScene spec scene seed).2.spec = some spec := by
  have ready : (world.tearDown.setUp spec seed).Sound others := (safe_tearDown world others good).1
  exact (untouched_begin world spec scene seed).scene.spec.trans (course_build ready scene).scene.spec

variable [Circular S] [Sampling S] [Rounding T S]

namespace Cabinet

variable {cabinet after : Cabinet S T} {operation : Operation S T}
  {operations rest : List (Operation S T)} {game : Pending S} {contents : String}

/-! ### Operations that yield -/

theorem powerless_apply (powerless : ∀ command ∈ cabinet.commands, command.powerless = true)
    (yields : operation.yields = true) (done : cabinet.apply operation = .ok after) :
    ∀ command ∈ after.commands, command.powerless = true := by
  intro command member
  have waited : command ∈ cabinet.commands ++ operation.sent?.toList := by
    rw [line_apply done]
    exact List.mem_append_right _ member
  rcases List.mem_append.mp waited with old | new
  · exact powerless command old
  · cases operation with
    | send sent =>
      rw [List.mem_singleton.mp new]
      exact yields
    | _ => cases new

/-- The same game is played until one that waits is started. -/
theorem game_apply (good : cabinet.world.Sound cabinet.held)
    (powerless : ∀ command ∈ cabinet.commands, command.powerless = true)
    (yields : operation.yields = true)
    (unstarted : operation = .service .pending → cabinet.pending = none)
    (done : cabinet.apply operation = .ok after) : after.world.game = cabinet.world.game := by
  cases operation with
  | start spec options =>
    cases done
    exact congrArg World.game (cabinet.world.tryStart_of_refused yields)
  | step keyboard delta =>
    obtain ⟨world, stepped, done⟩ := bind_eq_ok done
    cases done
    exact (World.scene_step good stepped).game
  | change contents =>
    cases done
    rfl
  | send command =>
    cases done
    rfl
  | service service =>
    cases service with
    | screen =>
      cases done
      unfold switchOn
      split
      · rfl
      · split
        · rfl
        · rfl
    | display =>
      simp only [apply, attend, display] at done
      split at done
      · cases done
        rfl
      · obtain ⟨world, drawn, done⟩ := bind_eq_ok done
        cases done
        exact (World.course_draw good drawn).scene.game
    | commands =>
      cases done
      have taken : ∀ command ∈ cabinet.commands.take Api.maxPerUpdate, command.powerless = true :=
        fun command member => powerless command (List.mem_of_mem_take member)
      exact congrArg World.game (Api.serveAll_powerless cabinet.world taken)
    | pending =>
      cases done
      rw [startPending, unstarted rfl]
    | changes =>
      cases done
      unfold lookForChanges
      split
      · rfl
      · rfl
  | _ => cases yields

/-- What waits to be looked at or to be started changes only in an operation that tells of a change,
looks at changes, or starts what waits. -/
theorem waits_apply (yields : operation.yields = true) (unsaved : operation.saved? = none)
    (unlooked : operation ≠ .service .changes) (unstarted : operation ≠ .service .pending)
    (done : cabinet.apply operation = .ok after) :
    after.pending = cabinet.pending ∧ after.watch = cabinet.watch := by
  have of_waiting (same : after.waiting = cabinet.waiting) :
      after.pending = cabinet.pending ∧ after.watch = cabinet.watch := by
    simp only [waiting, Prod.mk.injEq] at same
    exact ⟨same.1, same.2.1⟩
  cases operation with
  | start spec options =>
    cases done
    exact ⟨rfl, rfl⟩
  | step keyboard delta =>
    obtain ⟨world, stepped, done⟩ := bind_eq_ok done
    cases done
    exact ⟨rfl, rfl⟩
  | change contents => cases unsaved
  | send command =>
    cases done
    exact ⟨rfl, rfl⟩
  | service service =>
    cases service with
    | screen =>
      cases done
      exact of_waiting (waiting_switchOn cabinet)
    | display => exact of_waiting (waiting_display done)
    | commands =>
      cases done
      exact ⟨rfl, rfl⟩
    | pending => exact absurd rfl unstarted
    | changes => exact absurd rfl unlooked
  | _ => cases yields

/-! ### When nothing waits -/

omit [Scalar S] [Scalar T] [Circular S] [Sampling S] [Rounding T S] in
theorem Calm.of_waits (calm : cabinet.Calm)
    (same : after.pending = cabinet.pending ∧ after.watch = cabinet.watch) : after.Calm :=
  ⟨same.1.trans calm.pending, same.2 ▸ calm.changes⟩

theorem Calm.apply (calm : cabinet.Calm) (yields : operation.yields = true)
    (unsaved : operation.saved? = none) (done : cabinet.apply operation = .ok after) :
    after.Calm := by
  by_cases looked : operation = .service .changes
  · rw [looked] at done
    cases done
    rwa [lookForChanges_of_drained calm.changes]
  · by_cases started : operation = .service .pending
    · rw [started] at done
      cases done
      rwa [startPending, calm.pending]
    · exact calm.of_waits (waits_apply yields unsaved looked started done)

/-- When nothing waits and no more changes come, the same game is played on. -/
theorem Calm.run (calm : cabinet.Calm) (alive : cabinet.Alive)
    (powerless : ∀ command ∈ cabinet.commands, command.powerless = true)
    (yields : ∀ operation ∈ operations, operation.yields = true)
    (last : operations.filterMap Operation.saved? = [])
    (ran : cabinet.run operations = .ok after) : after.world.game = cabinet.world.game := by
  induction operations generalizing cabinet with
  | nil =>
    cases ran
    rfl
  | cons operation rest ih =>
    obtain ⟨next, done, ran⟩ := bind_eq_ok ran
    have own := yields operation List.mem_cons_self
    have unsaved := List.filterMap_eq_nil_iff.mp last
    have same := game_apply alive.sound powerless own (fun _ => calm.pending) done
    have later := ih (calm.apply own (unsaved operation List.mem_cons_self) done)
      (alive.later (later_apply alive.sound done)) (powerless_apply powerless own done)
      (fun other member => yields other (List.mem_cons_of_mem _ member))
      (List.filterMap_eq_nil_iff.mpr fun other member =>
        unsaved other (List.mem_cons_of_mem _ member)) ran
    exact later.trans same

/-! ### The newest change -/

/-- A game comes with the newest change of a file, when so much is still to happen: the change is still
to come or waits to be looked at, or the game waits to be started and nothing comes after it. -/
inductive Expects (game : Pending S) (contents : String) (rest : List (Operation S T))
    (cabinet : Cabinet S T) : Prop
  | ahead {watch : Watch} (watched : cabinet.watch = some watch)
      (options : watch.options = game.options)
      (newest : (watch.waiting ++ rest.filterMap Operation.saved?).getLast? = some contents)
  | taken (waits : cabinet.pending = some game)
      (drained : ∀ watch, cabinet.watch = some watch → watch.waiting = [])
      (last : rest.filterMap Operation.saved? = [])

namespace Expects

omit [Scalar T] [Circular S] [Sampling S] [Rounding T S] in
/-- A look at the changes takes the newest one if it is among the first of those that wait, and then
none is left; otherwise it is still ahead. -/
theorem lookForChanges (expects : cabinet.Expects game contents rest)
    (parsed : Spec.ofText contents = .ok game.spec) :
    cabinet.lookForChanges.Expects game contents rest := by
  cases expects with
  | @ahead watch watched options newest =>
    have looked : cabinet.lookForChanges =
        { cabinet with
          watch := some (watch.take cabinet.pending).1
          pending := (watch.take cabinet.pending).2 } := by
      rw [Cabinet.lookForChanges, watched]
    rw [looked]
    by_cases left : watch.waiting.drop Watch.maxPerUpdate ++ rest.filterMap Operation.saved? = []
    · obtain ⟨few, last⟩ := List.append_eq_nil_iff.mp left
      have all : watch.waiting.take Watch.maxPerUpdate = watch.waiting :=
        List.take_of_length_le (List.drop_eq_nil_iff.mp few)
      have latest : watch.latest? = some contents := by
        rw [Watch.latest?, all, ← newest, last, List.append_nil]
      refine .taken ?_ ?_ last
      · rw [Watch.take_of_ok latest parsed, options]
      · intro other same
        rw [← Option.some.inj same, Watch.rest_take]
        exact few
    · refine .ahead rfl ?_ ?_
      · rw [Watch.rest_take]
        exact options
      · rw [Watch.rest_take]
        rw [← List.take_append_drop Watch.maxPerUpdate watch.waiting, List.append_assoc,
          List.getLast?_append_of_ne_nil _ left] at newest
        exact newest
  | taken waits drained last =>
    rw [lookForChanges_of_drained drained]
    exact .taken waits drained last

/-- One operation brings the newest change nearer, unless it starts its game. -/
theorem apply (expects : cabinet.Expects game contents (operation :: rest))
    (parsed : Spec.ofText contents = .ok game.spec) (yields : operation.yields = true)
    (done : cabinet.apply operation = .ok after) :
    after.Expects game contents rest ∨
      operation = .service .pending ∧ cabinet.pending = some game ∧
        (∀ watch, cabinet.watch = some watch → watch.waiting = []) ∧
        rest.filterMap Operation.saved? = [] := by
  by_cases saved : ∃ saved, operation = .change saved
  · obtain ⟨saved, rfl⟩ := saved
    cases done
    cases expects with
    | ahead watched options newest =>
      refine .inl (.ahead (congrArg (Option.map _) watched) options ?_)
      rw [List.append_assoc]
      exact newest
    | taken waits drained last => cases last
  have unsaved : operation.saved? = none := by
    cases operation with
    | change contents => exact absurd ⟨contents, rfl⟩ saved
    | _ => rfl
  have later : (operation :: rest).filterMap Operation.saved? =
      rest.filterMap Operation.saved? := List.filterMap_cons_none unsaved
  by_cases looked : operation = .service .changes
  · subst looked
    cases done
    refine .inl (lookForChanges ?_ parsed)
    cases expects with
    | ahead watched options newest => exact .ahead watched options newest
    | taken waits drained last => exact .taken waits drained last
  by_cases started : operation = .service .pending
  · subst started
    cases done
    cases expects with
    | @ahead watch watched options newest =>
      have same : cabinet.startPending.watch = cabinet.watch := by
        unfold startPending
        split
        · rfl
        · rfl
      exact .inl (.ahead (same.trans watched) options newest)
    | taken waits drained last => exact .inr ⟨rfl, waits, drained, last⟩
  obtain ⟨pending, watch⟩ := waits_apply yields unsaved looked started done
  cases expects with
  | ahead watched options newest =>
    rw [later] at newest
    exact .inl (.ahead (watch.trans watched) options newest)
  | taken waits drained last =>
    rw [later] at last
    exact .inl (.taken (pending.trans waits) (watch ▸ drained) last)

/-- By the time that nothing waits, the game of the newest change was started, and nothing waited any
more right after it. -/
theorem run (expects : cabinet.Expects game contents operations)
    (parsed : Spec.ofText contents = .ok game.spec)
    (yields : ∀ operation ∈ operations, operation.yields = true)
    (ran : cabinet.run operations = .ok after) (calm : after.Calm) :
    ∃ earlier later ready, operations = earlier ++ .service .pending :: later ∧
      cabinet.run earlier = .ok ready ∧ ready.pending = some game ∧ ready.startPending.Calm ∧
      later.filterMap Operation.saved? = [] ∧ ready.startPending.run later = .ok after := by
  induction operations generalizing cabinet with
  | nil =>
    cases ran
    cases expects with
    | ahead watched options newest =>
      rw [calm.changes _ watched] at newest
      cases newest
    | taken waits drained last =>
      rw [calm.pending] at waits
      cases waits
  | cons operation rest ih =>
    obtain ⟨next, done, ran⟩ := bind_eq_ok ran
    rcases expects.apply parsed (yields operation List.mem_cons_self) done with
      nearer | ⟨rfl, waits, drained, last⟩
    · obtain ⟨earlier, later, ready, same, reached, found⟩ :=
        ih nearer (fun other member => yields other (List.mem_cons_of_mem _ member)) ran
      refine ⟨operation :: earlier, later, ready, ?_, ?_, found⟩
      · rw [same, List.cons_append]
      · rw [Cabinet.run, List.foldlM_cons, done]
        exact reached
    · cases done
      have started : cabinet.startPending.Calm := by
        rw [startPending, waits]
        exact ⟨rfl, drained⟩
      exact ⟨[], rest, cabinet, rfl, rfl, waits, started, last, ran⟩

end Expects

theorem powerless_run (powerless : ∀ command ∈ cabinet.commands, command.powerless = true)
    (yields : ∀ operation ∈ operations, operation.yields = true)
    (ran : cabinet.run operations = .ok after) :
    ∀ command ∈ after.commands, command.powerless = true := by
  induction operations generalizing cabinet with
  | nil =>
    cases ran
    exact powerless
  | cons operation rest ih =>
    obtain ⟨next, done, ran⟩ := bind_eq_ok ran
    exact ih (powerless_apply powerless (yields operation List.mem_cons_self) done)
      (fun other member => yields other (List.mem_cons_of_mem _ member)) ran

/-- Whatever waits at first, and in whatever order changes of the file arrive, are looked at and are
started among frames and other parts of updates: once nothing waits, the game of the newest change, if
it can be started, was started as the watch says, and it has been played ever since. -/
theorem plays_newest {entropy : Entropy} {watch₀ : Option Watch} {pictures : Option Bool}
    {past : List (Operation S T)}
    (ran : (new entropy watch₀ (pictures.map Screen.start)).run past = .ok cabinet)
    (powerless : ∀ command ∈ cabinet.commands, command.powerless = true)
    (yields : ∀ operation ∈ operations, operation.yields = true)
    (rerun : cabinet.run operations = .ok after) (calm : after.Calm)
    {watch : Watch} (watched : cabinet.watch = some watch)
    (newest : (watch.waiting ++ operations.filterMap Operation.saved?).getLast? = some contents)
    {spec : Spec S} (parsed : Spec.ofText contents = .ok spec) {scene : Spec.Scene S}
    (chosen : spec.choose watch.options.scene = .ok scene) :
    ∃ earlier later ready session world, operations = earlier ++ .service .pending :: later ∧
      cabinet.run earlier = .ok ready ∧ ready.pending = some ⟨spec, watch.options⟩ ∧
      ready.world.start spec watch.options = .ok (session, world) ∧ session.scene = scene.name ∧
      { ready with world, pending := none }.run later = .ok after ∧
      after.world.playing = some session ∧ after.world.spec = some spec ∧
      ∀ done todo middle, later = done ++ todo →
        { ready with world, pending := none }.run done = .ok middle →
        middle.world.playing = some session ∧ middle.world.starts = world.starts := by
  have expects : cabinet.Expects ⟨spec, watch.options⟩ contents operations :=
    .ahead watched rfl newest
  obtain ⟨earlier, later, ready, same, reached, waits, still, last, went⟩ :=
    expects.run parsed yields rerun calm
  obtain ⟨before, since⟩ : (∀ operation ∈ earlier, operation.yields = true) ∧
      ∀ operation ∈ later, operation.yields = true := by
    constructor
    · intro operation member
      exact yields operation (same ▸ List.mem_append_left _ member)
    · intro operation member
      exact yields operation (same ▸ List.mem_append_right _ (List.mem_cons_of_mem _ member))
  have alive : ready.Alive := (alive_of_run ran).run reached
  let played := ready.world.playScene spec scene watch.options.seed
  have start : ready.world.tryStart spec watch.options = (played.2, .ok played.1) :=
    World.tryStart_of_choose (Spec.valid_of_ofText parsed).1 chosen
  have started : ready.startPending = { ready with world := played.2, pending := none } := by
    simp only [startPending, waits, start]
  have next : ready.startPending.Alive :=
    alive.later (later_attend (rfl : ready.attend .pending = .ok ready.startPending))
  rw [started] at still went next
  have quiet := powerless_run powerless before reached
  have holds : ∀ done todo middle, later = done ++ todo →
      { ready with world := played.2, pending := none }.run done = .ok middle →
      middle.world.game = played.2.game := by
    intro done todo middle split onward
    rw [split, List.filterMap_append] at last
    refine still.run next quiet ?_ (List.append_eq_nil_iff.mp last).1 onward
    exact fun operation member => since operation (split ▸ List.mem_append_left _ member)
  have own : played.2.spec = some spec := World.spec_playScene alive.sound spec scene _
  simp only [World.game, Prod.mk.injEq] at holds
  obtain ⟨playing, document, -⟩ := holds later [] after (List.append_nil _).symm went
  refine ⟨earlier, later, ready, played.1, played.2, same, reached, waits, ?_, rfl, went, playing,
    document.trans own, fun done todo middle split onward => ?_⟩
  · rw [World.start, start]
    rfl
  · obtain ⟨playing, -, starts⟩ := holds done todo middle split onward
    exact ⟨playing, starts⟩

end Cabinet

namespace Sample

/-- A game without objects, as it is saved. -/
def save (title : String) : String :=
  "[\"" ++ title ++ r#"","",[800,600,"",[true,[0,0]]],[],[["main",[],null]]]"#

/-- More drafts than are looked at together, the last of them broken. -/
def drafts : Watch := ⟨List.replicate 16 (save "Draft") ++ ["["], ⟨some "main", some 7⟩⟩

/-- The last save comes while a draft waits to be started. -/
def saving : List (Operation Float32 Float) :=
  [.service .changes, .change (save "Final"), .service .pending, .step (some []) 25,
    .service .changes, .service .pending, .step (some []) 25]

end Sample

/-- A draft is played, and then the last save. -/
theorem Cabinet.plays_newest_save :
    ∃ (after ready : Cabinet Float32 Float) (spec : Spec Float32) (world : World Float32 Float)
      (earlier later : List (Operation Float32 Float)),
      (new Sample.entropy (some Sample.drafts) (Option.map Screen.start none)).run Sample.saving =
          .ok after ∧
        Spec.ofText (Sample.save "Final") = .ok spec ∧
        Sample.saving = earlier ++ .service .pending :: later ∧
        ready.world.start spec Sample.drafts.options = .ok (⟨2, "main", "Final"⟩, world) ∧
        after.world.playing = some ⟨2, "main", "Final"⟩ ∧ after.world.spec = some spec := by
  have fine : ((new Sample.entropy (some Sample.drafts) (Option.map Screen.start none) :
      Cabinet Float32 Float).run Sample.saving).toOption.any (fun after =>
        decide (after.world.playing = some ⟨2, "main", "Final"⟩) && after.pending.isNone &&
          after.watch.all fun watch => watch.waiting.isEmpty) = true := by decide +kernel
  have read : (Spec.ofText (Sample.save "Final") : Except SpecError (Spec Float32)).toOption.any
      (fun spec => (spec.choose Sample.drafts.options.scene).toOption.any fun _ => true) = true := by
    decide +kernel
  obtain ⟨after, ran, fine⟩ := exists_ok_of_any fine
  simp only [Bool.and_eq_true, Option.isNone_iff_eq_none] at fine
  obtain ⟨⟨active, idle⟩, drained⟩ := fine
  obtain ⟨spec, parsed, chosen⟩ := exists_ok_of_any read
  obtain ⟨scene, chosen, -⟩ := exists_ok_of_any chosen
  have calm : after.Calm := by
    refine ⟨idle, fun watch watched => ?_⟩
    rw [watched] at drained
    exact List.isEmpty_iff.mp drained
  have yields : ∀ operation ∈ Sample.saving, operation.yields = true := by decide
  have begun : (new Sample.entropy (some Sample.drafts) (Option.map Screen.start none)).run [] =
      .ok (new Sample.entropy (some Sample.drafts) (Option.map Screen.start none) :
        Cabinet Float32 Float) := rfl
  obtain ⟨earlier, later, ready, session, world, same, -, -, start, -, -, playing, document, -⟩ :=
    plays_newest begun nofun yields ran calm rfl rfl parsed chosen
  have own : session = ⟨2, "main", "Final"⟩ :=
    Option.some.inj (playing.symm.trans (of_decide_eq_true active))
  rw [own] at start playing
  exact ⟨after, ready, spec, world, earlier, later, ran, parsed, same, start, playing, document⟩

end Arcade
