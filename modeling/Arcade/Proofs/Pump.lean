import Arcade.Proofs.Mirroring
import Arcade.Proofs.Sessions

/-! Commands are served in the order in which they were sent, each of them once, and only so many at a
time; what is left waits for the next update. As long as nothing else happens to the game, it does not
matter between which commands the updates fall: the replies, and what becomes of the game, are those of
serving one command after the other. -/

namespace Arcade

variable {S T : Type}

/-- Commands that are served together, their replies, and the world before and after them. -/
structure Api.Batch (S T : Type) where
  before : World S T
  commands : List (Api.Command S)
  replies : List (Api.Reply S T)
  after : World S T
  /-- The commands that are left waiting. -/
  left : List (Api.Command S)

/-- The command that is sent in an operation. -/
def Operation.sent? : Operation S T → Option (Api.Command S)
  | .send command => some command
  | _ => none

theorem Operation.sent_cons (operation : Operation S T) (rest : List (Operation S T)) :
    (operation :: rest).filterMap sent? = operation.sent?.toList ++ rest.filterMap sent? := by
  rw [List.filterMap_cons]
  cases operation.sent? <;> rfl

/-- Whether an operation is no more than that a command is sent, or a part of an update. -/
def Operation.pumps : Operation S T → Bool
  | .send _ => true
  | .service _ => true
  | _ => false

variable [Scalar S] [Scalar T]

namespace Api

theorem length_serveAll (world : World S T) (commands : List (Command S)) :
    (serveAll world commands).2.length = commands.length := by
  induction commands generalizing world with
  | nil => rfl
  | cons command rest ih => exact congrArg (· + 1) (ih (serve world command).1)

theorem replies_append (world : World S T) (first second : List (Command S)) :
    (serveAll world (first ++ second)).2 =
      (serveAll world first).2 ++ (serveAll (serveAll world first).1 second).2 := by
  induction first generalizing world with
  | nil => rfl
  | cons command rest ih => exact congrArg (_ :: ·) (ih (serve world command).1)

end Api

namespace Cabinet

variable {cabinet after : Cabinet S T} {operation : Operation S T}
  {operations : List (Operation S T)} {origin : World S T} {held : List Handle}

/-- The commands that are served in an operation. -/
def batches (cabinet : Cabinet S T) : Operation S T → List (Api.Batch S T)
  | .service .commands =>
    [{ before := cabinet.world
       commands := cabinet.commands.take Api.maxPerUpdate
       replies := cabinet.serve.2
       after := cabinet.serve.1.world
       left := cabinet.serve.1.commands }]
  | _ => []

/-- Nothing waits that would start a game. -/
structure Calm (cabinet : Cabinet S T) : Prop where
  pending : cabinet.pending = none
  changes : ∀ watch, cabinet.watch = some watch → watch.waiting = []

omit [Scalar T] in
/-- Where no change waits there is nothing to look at. -/
theorem lookForChanges_of_drained
    (drained : ∀ watch, cabinet.watch = some watch → watch.waiting = []) :
    cabinet.lookForChanges = cabinet := by
  unfold lookForChanges
  split
  · rfl
  · rename_i watch watched
    have nothing := drained watch watched
    have newest : watch.latest? = none := by
      rw [Watch.latest?, nothing, List.take_nil, List.getLast?_nil]
    have same : { watch with waiting := watch.waiting.drop Watch.maxPerUpdate } = watch := by
      rw [nothing, List.drop_nil, ← nothing]
    simp only [Watch.take, newest, Option.map_none, same, ← watched]

/-! ### The line -/

variable [Circular S] [Sampling S] [Rounding T S]

/-- What waits and what is sent is served, or waits on. -/
theorem line_apply (done : cabinet.apply operation = .ok after) :
    cabinet.commands ++ operation.sent?.toList =
      (cabinet.batches operation).flatMap (·.commands) ++ after.commands := by
  have still (same : after.waiting = cabinet.waiting) :
      cabinet.commands ++ [] = [] ++ after.commands := by
    simp only [waiting, Prod.mk.injEq] at same
    rw [List.append_nil, List.nil_append, same.2.2]
  cases operation with
  | step keyboard delta =>
    obtain ⟨world, stepped, done⟩ := bind_eq_ok done
    cases done
    exact still rfl
  | send command =>
    cases done
    rfl
  | service service =>
    cases service with
    | screen =>
      cases done
      exact still (waiting_switchOn cabinet)
    | display => exact still (waiting_display done)
    | commands =>
      cases done
      simp only [batches, Operation.sent?, Option.toList_none, List.append_nil,
        List.flatMap_singleton]
      exact (List.take_append_drop Api.maxPerUpdate cabinet.commands).symm
    | pending =>
      cases done
      unfold startPending
      split
      · exact List.append_nil _
      · exact List.append_nil _
    | changes =>
      cases done
      unfold lookForChanges
      split
      · exact List.append_nil _
      · exact List.append_nil _
  | _ =>
    cases done
    exact List.append_nil _

/-- No command is served in an operation that fails. -/
theorem batches_of_error {crash : Crash} (failed : cabinet.apply operation = .error crash) :
    cabinet.batches operation = [] := by
  cases operation with
  | service service =>
    cases service with
    | commands => cases failed
    | _ => rfl
  | _ => rfl

/-- The commands that were served are the first of those that were sent. -/
theorem prefix_of_trail (cabinet : Cabinet S T) (operations : List (Operation S T)) :
    (cabinet.trail batches operations).flatMap (·.commands) <+:
      cabinet.commands ++ operations.filterMap Operation.sent? := by
  induction operations generalizing cabinet with
  | nil => exact List.nil_prefix
  | cons operation rest ih =>
    rw [trail]
    cases done : cabinet.apply operation with
    | error crash =>
      rw [batches_of_error done]
      exact List.nil_prefix
    | ok next =>
      rw [Operation.sent_cons, ← List.append_assoc, line_apply done, List.flatMap_append,
        List.append_assoc]
      exact (List.prefix_append_right_inj _).mpr (ih next)

/-- In a run that did not fail, what was not served waits. -/
theorem line_run (ran : cabinet.run operations = .ok after) :
    (cabinet.trail batches operations).flatMap (·.commands) ++ after.commands =
      cabinet.commands ++ operations.filterMap Operation.sent? := by
  induction operations generalizing cabinet with
  | nil =>
    cases ran
    exact (List.append_nil _).symm
  | cons operation rest ih =>
    obtain ⟨next, done, ran⟩ := bind_eq_ok ran
    rw [trail, done, Operation.sent_cons, ← List.append_assoc, line_apply done,
      List.flatMap_append, List.append_assoc, ih ran, List.append_assoc]

/-- A batch is served as it was taken, and commands are left only by one that is full. -/
theorem mem_trail_batches {batch : Api.Batch S T}
    (member : batch ∈ cabinet.trail batches operations) :
    batch.commands.length ≤ Api.maxPerUpdate ∧
      (batch.commands.length < Api.maxPerUpdate → batch.left = []) ∧
      batch.replies.length = batch.commands.length ∧
      Api.serveAll batch.before batch.commands = (batch.after, batch.replies) := by
  induction operations generalizing cabinet with
  | nil => cases member
  | cons operation rest ih =>
    rcases List.mem_append.mp member with now | later
    · unfold batches at now
      split at now
      · rw [List.mem_singleton.mp now]
        refine ⟨List.length_take_le _ _, fun few => ?_, Api.length_serveAll _ _, rfl⟩
        apply List.drop_eq_nil_of_le
        rw [List.length_take] at few
        omega
      · cases now
    · split at later
      · exact ih later
      · cases later

/-! ### One after the other -/

/-- A cabinet follows a world that nobody looks at: nobody who asks can tell its own world from it, and
as long as the cabinet has no screen its world is the same. -/
structure Follows (origin : World S T) (cabinet : Cabinet S T) : Prop where
  mirrors : World.Mirrors origin cabinet.world
  same : cabinet.screen = none → cabinet.world = origin
  calm : cabinet.Calm

namespace Follows

omit [Scalar S] [Scalar T] [Circular S] [Sampling S] [Rounding T S] in
theorem of_waiting (follows : Follows origin cabinet) (waits : after.waiting = cabinet.waiting)
    (mirrors : World.Mirrors origin after.world)
    (same : after.screen = none → after.world = origin) : Follows origin after := by
  simp only [waiting, Prod.mk.injEq] at waits
  obtain ⟨pending, watch, -⟩ := waits
  exact ⟨mirrors, same, pending.trans follows.calm.pending, watch ▸ follows.calm.changes⟩

omit [Scalar S] [Scalar T] [Circular S] [Sampling S] [Rounding T S] in
theorem switchOn (follows : Follows origin cabinet) : Follows origin cabinet.switchOn := by
  apply follows.of_waiting (waiting_switchOn cabinet)
  · unfold Cabinet.switchOn
    split
    · exact follows.mirrors
    · split
      · exact follows.mirrors
      · exact follows.mirrors.camera _
  · unfold Cabinet.switchOn
    split
    · exact follows.same
    · split
      · exact follows.same
      · intro dark
        cases dark

omit [Scalar T] [Circular S] [Sampling S] [Rounding T S] in
theorem display (follows : Follows origin cabinet) (good : cabinet.world.Sound cabinet.held)
    (done : cabinet.display = .ok after) : Follows origin after := by
  apply follows.of_waiting (waiting_display done)
  · unfold Cabinet.display at done
    split at done
    · cases done
      exact follows.mirrors
    · obtain ⟨world, drawn, done⟩ := bind_eq_ok done
      cases done
      exact follows.mirrors.draw good drawn
  · unfold Cabinet.display at done
    split at done
    · cases done
      exact follows.same
    · obtain ⟨world, drawn, done⟩ := bind_eq_ok done
      cases done
      intro dark
      cases dark

omit [Scalar T] [Circular S] [Sampling S] [Rounding T S] in
theorem lookForChanges (follows : Follows origin cabinet) :
    Follows origin cabinet.lookForChanges := by
  rwa [lookForChanges_of_drained follows.calm.changes]

/-- What is served in an operation is served in the world that is followed. -/
theorem apply (follows : Follows origin cabinet) (lived : origin.Lived held) (alive : cabinet.Alive)
    (pumps : operation.pumps = true) (done : cabinet.apply operation = .ok after) :
    (cabinet.batches operation).flatMap (·.replies) =
        (Api.serveAll origin ((cabinet.batches operation).flatMap (·.commands))).2 ∧
      Follows (Api.serveAll origin ((cabinet.batches operation).flatMap (·.commands))).1 after := by
  cases operation with
  | send command =>
    cases done
    exact ⟨rfl, follows.mirrors, follows.same, follows.calm.pending, follows.calm.changes⟩
  | service service =>
    cases service with
    | screen =>
      cases done
      exact ⟨rfl, follows.switchOn⟩
    | display => exact ⟨rfl, follows.display alive.sound done⟩
    | commands =>
      cases done
      simp only [batches, List.flatMap_singleton]
      obtain ⟨replies, mirrors⟩ := follows.mirrors.serveAll lived alive
        (cabinet.commands.take Api.maxPerUpdate)
      refine ⟨replies, mirrors, fun dark => ?_, follows.calm.pending, follows.calm.changes⟩
      rw [← follows.same dark]
      rfl
    | pending =>
      cases done
      rw [startPending, follows.calm.pending]
      exact ⟨rfl, follows⟩
    | changes =>
      cases done
      exact ⟨rfl, follows.lookForChanges⟩
  | _ => cases pumps

theorem run (follows : Follows origin cabinet) (lived : origin.Lived held) (alive : cabinet.Alive)
    (pumps : ∀ operation ∈ operations, operation.pumps = true) :
    (cabinet.trail batches operations).flatMap (·.replies) =
        (Api.serveAll origin ((cabinet.trail batches operations).flatMap (·.commands))).2 ∧
      ∀ after, cabinet.run operations = .ok after →
        Follows (Api.serveAll origin ((cabinet.trail batches operations).flatMap (·.commands))).1
          after := by
  induction operations generalizing cabinet origin with
  | nil =>
    refine ⟨rfl, fun after ran => ?_⟩
    cases ran
    exact follows
  | cons operation rest ih =>
    rw [trail]
    cases done : cabinet.apply operation with
    | error crash =>
      rw [batches_of_error done]
      refine ⟨rfl, fun after ran => ?_⟩
      obtain ⟨next, first, -⟩ := bind_eq_ok ran
      rw [done] at first
      cases first
    | ok next =>
      obtain ⟨replies, first⟩ := follows.apply lived alive (pumps operation List.mem_cons_self) done
      obtain ⟨more, last⟩ := ih first (World.Lived.serveAll lived _)
        (alive.later (later_apply alive.sound done))
        fun other member => pumps other (List.mem_cons_of_mem _ member)
      simp only [List.flatMap_append]
      refine ⟨?_, fun after ran => ?_⟩
      · rw [Api.replies_append, replies, more]
      · obtain ⟨other, same, ran⟩ := bind_eq_ok ran
        rw [done] at same
        cases same
        rw [Api.serveAll_append]
        exact last after ran

end Follows

/-- Whatever is done to a cabinet and whoever sends commands to it, the commands are served in the order
in which they were sent, each once and with a reply of its own, at most so many at a time and fewer only
if no more wait, and what was not served waits. If there are only commands and updates, and nothing
else waits to be started, the replies and what becomes of the world are those of serving one command
after the other, wherever the updates fall; only what was drawn, and the identities, can differ in a
cabinet with a screen. -/
theorem serves_in_line {entropy : Entropy} {watch : Option Watch} {pictures : Option Bool}
    {past : List (Operation S T)}
    (ran : (new entropy watch (pictures.map Screen.start)).run past = .ok cabinet)
    (operations : List (Operation S T)) :
    ∃ batches served, batches = cabinet.trail Cabinet.batches operations ∧
      served = batches.flatMap (·.commands) ∧
      (∀ batch ∈ batches, batch.commands.length ≤ Api.maxPerUpdate ∧
        (batch.commands.length < Api.maxPerUpdate → batch.left = []) ∧
        batch.replies.length = batch.commands.length ∧
        Api.serveAll batch.before batch.commands = (batch.after, batch.replies)) ∧
      served <+: cabinet.commands ++ operations.filterMap Operation.sent? ∧
      (∀ after, cabinet.run operations = .ok after →
        served ++ after.commands = cabinet.commands ++ operations.filterMap Operation.sent?) ∧
      (cabinet.Calm → (∀ operation ∈ operations, operation.pumps = true) →
        batches.flatMap (·.replies) = (Api.serveAll cabinet.world served).2 ∧
        ∀ after, cabinet.run operations = .ok after →
          World.Mirrors (Api.serveAll cabinet.world served).1 after.world ∧
          (after.screen = none → after.world = (Api.serveAll cabinet.world served).1)) := by
  refine ⟨_, _, rfl, rfl, fun batch => mem_trail_batches, prefix_of_trail cabinet operations,
    fun after => line_run, fun calm pumps => ?_⟩
  have alive := alive_of_run ran
  have start : Follows cabinet.world cabinet := ⟨.refl _, fun _ => rfl, calm⟩
  obtain ⟨replies, last⟩ := start.run alive alive pumps
  exact ⟨replies, fun after rerun => ⟨(last after rerun).mirrors, (last after rerun).same⟩⟩

end Cabinet

/-- More commands than are served at a time, and a last one that stops the game. -/
def Sample.crowd : List (Operation Float32 Float) :=
  List.replicate 33 (.send .status) ++ [.service .commands, .send .stop, .service .commands]

/-- Two updates serve what a crowd asks, and the game is stopped. -/
theorem Cabinet.serves_in_line_crowd :
    ∃ cabinet after : Cabinet Float32 Float,
      (new Sample.entropy none (Option.map Screen.start none)).run [.start Sample.spec .default] =
          .ok cabinet ∧
        cabinet.run Sample.crowd = .ok after ∧ cabinet.Calm ∧ after.world.playing = none ∧
        (cabinet.trail batches Sample.crowd).map (·.commands.length) = [32, 2] ∧
        (cabinet.trail batches Sample.crowd).flatMap (·.replies) =
          (Api.serveAll cabinet.world (List.replicate 33 .status ++ [.stop])).2 ∧
        after.world = (Api.serveAll cabinet.world (List.replicate 33 .status ++ [.stop])).1 := by
  have fine : ((new Sample.entropy none (Option.map Screen.start none) : Cabinet Float32 Float).run
      [.start Sample.spec .default]).toOption.any (fun cabinet =>
        cabinet.pending.isNone && cabinet.watch.isNone && cabinet.commands.isEmpty &&
          decide ((cabinet.trail batches Sample.crowd).map (·.commands.length) = [32, 2]) &&
          (cabinet.run Sample.crowd).toOption.any fun after =>
            after.world.playing.isNone && after.screen.isNone && after.commands.isEmpty) = true := by
    decide +kernel
  obtain ⟨cabinet, ran, fine⟩ := exists_ok_of_any fine
  simp only [Bool.and_eq_true, Option.isNone_iff_eq_none, List.isEmpty_iff,
    decide_eq_true_eq] at fine
  obtain ⟨⟨⟨⟨idle, unwatched⟩, first⟩, sizes⟩, fine⟩ := fine
  obtain ⟨after, rerun, fine⟩ := exists_ok_of_any fine
  simp only [Bool.and_eq_true, Option.isNone_iff_eq_none, List.isEmpty_iff] at fine
  obtain ⟨⟨stopped, dark⟩, last⟩ := fine
  have calm : cabinet.Calm := ⟨idle, fun watch watched => by rw [unwatched] at watched; cases watched⟩
  have pumps : ∀ operation ∈ Sample.crowd, operation.pumps = true := by decide
  have sent : Sample.crowd.filterMap Operation.sent? = List.replicate 33 .status ++ [.stop] := rfl
  obtain ⟨_, served, rfl, -, -, -, line, inOrder⟩ := serves_in_line ran Sample.crowd
  have all := line after rerun
  rw [first, last, sent, List.append_nil, List.nil_append] at all
  obtain ⟨replies, world⟩ := inOrder calm pumps
  rw [all] at replies world
  exact ⟨cabinet, after, ran, rerun, calm, stopped, sizes, replies, (world after rerun).2 dark⟩

end Arcade
