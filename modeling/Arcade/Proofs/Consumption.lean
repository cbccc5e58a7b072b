import Arcade.Proofs.Dispatch

/-! Over a whole run no actor is consumed twice. In a frame contacts are found once and dispatched
once, and between frames none waits; what a callback consumed stays spent through whatever happens
later, other games included. -/

namespace Arcade

variable {S T : Type} [Scalar S] [Scalar T] [Circular S] [Sampling S] [Rounding T S]

namespace World

/-- The worlds whose contacts are dispatched in parts of a frame. -/
def dispatchesIn (keyboard : Option (List Key)) (delta : T) (world : World S T) :
    List Phase → List (World S T)
  | [] => []
  | phase :: rest =>
    (if phase = .dispatch then [world] else []) ++
      match world.runPhase keyboard delta phase with
      | .ok next => next.dispatchesIn keyboard delta rest
      | .error _ => []

/-- The worlds whose contacts are dispatched in a frame of the game that is played. -/
def dispatches (world : World S T) (keyboard : Option (List Key)) (delta : T) :
    List (World S T) :=
  match world.playing with
  | none => []
  | some _ => world.dispatchesIn keyboard delta Phase.order

end World

namespace Cabinet

/-- The worlds whose contacts are dispatched while one thing happens. -/
def dispatchesAt (cabinet : Cabinet S T) : Operation S T → List (World S T)
  | .step keyboard delta => cabinet.world.dispatches keyboard delta
  | _ => []

/-- The worlds whose contacts are dispatched while things happen one after the other, as long as the
game can go on. -/
def dispatches (cabinet : Cabinet S T) : List (Operation S T) → List (World S T)
  | [] => []
  | operation :: rest =>
    cabinet.dispatchesAt operation ++
      match cabinet.apply operation with
      | .ok next => next.dispatches rest
      | .error _ => []

end Cabinet

/-! ### One frame -/

/-- The parts of a frame before contacts are looked for. -/
def Phase.moves : List Phase :=
  [.clock, .controls, .shots, .behaviors, .spawners, .timers, .movement]

namespace World

variable {world after : World S T} {others : List Handle} {session : Session}
  {keyboard : Option (List Key)} {delta : T}

/-- Parts of a frame that leave contacts alone make a course. -/
theorem course_runPhases (good : world.Sound others) {phases : List Phase}
    (plain : ∀ phase ∈ phases, phase ≠ .contacts ∧ phase ≠ .dispatch)
    (done : world.runPhases keyboard delta phases = .ok after) :
    Course Deed.OfFrame world after := by
  induction phases generalizing world with
  | nil =>
    cases done
    exact .refl _
  | cons phase rest ih =>
    obtain ⟨next, first, done⟩ := bind_eq_ok done
    obtain ⟨search, serve⟩ := plain phase List.mem_cons_self
    have course : Course Deed.OfFrame world next :=
      (course_runPhase_of_ne good search serve first).mono fun _ _ allowed => ⟨phase, allowed⟩
    have later : ∀ phase ∈ rest, phase ≠ .contacts ∧ phase ≠ .dispatch :=
      fun phase member => plain phase (List.mem_cons_of_mem _ member)
    exact course.trans (ih (course.sound good) later done)

/-- Nothing is dispatched before the parts that dispatch. -/
theorem dispatchesIn_append (world : World S T) (keyboard : Option (List Key)) (delta : T)
    {phases : List Phase} (plain : ∀ phase ∈ phases, phase ≠ .dispatch) (rest : List Phase) :
    world.dispatchesIn keyboard delta (phases ++ rest) =
      match world.runPhases keyboard delta phases with
      | .ok next => next.dispatchesIn keyboard delta rest
      | .error _ => [] := by
  induction phases generalizing world with
  | nil => rfl
  | cons phase more ih =>
    have other := plain phase List.mem_cons_self
    have later : ∀ phase ∈ more, phase ≠ .dispatch :=
      fun phase member => plain phase (List.mem_cons_of_mem _ member)
    rw [List.cons_append, dispatchesIn, if_neg other, List.nil_append, runPhases,
      List.foldlM_cons]
    cases world.runPhase keyboard delta phase with
    | ok next => exact ih next later
    | error crash => rfl

/-- Either a frame fails before anything is dispatched, or actors move, contacts are found, dispatched
at once, and what left the world is removed. -/
theorem frame_cases (good : world.Sound others) (playing : world.playing = some session)
    (keyboard : Option (List Key)) (delta : T) :
    (world.dispatches keyboard delta = [] ∧ ∃ crash, world.step keyboard delta = .error crash) ∨
      ∃ moved, Course Deed.OfFrame world moved ∧ world.dispatches keyboard delta = [moved.detect] ∧
        world.step keyboard delta = .ok moved.detect.dispatch.cleanUp := by
  have plain : ∀ phase ∈ Phase.moves, phase ≠ .contacts ∧ phase ≠ .dispatch := by decide
  have frames := world.dispatchesIn_append keyboard delta
    (fun phase member => (plain phase member).2) [.contacts, .dispatch, .cleanUp]
  have framed : world.runPhases keyboard delta Phase.order =
      (world.runPhases keyboard delta Phase.moves).bind fun moved =>
        .ok moved.detect.dispatch.cleanUp := by
    have split : (Phase.moves ++ [Phase.contacts, .dispatch, .cleanUp]).foldlM
        (runPhase keyboard delta) world = _ := List.foldlM_append
    exact split
  have served : world.dispatches keyboard delta =
      world.dispatchesIn keyboard delta (Phase.moves ++ [.contacts, .dispatch, .cleanUp]) := by
    rw [dispatches, playing]
    rfl
  have stepped : world.step keyboard delta = world.runPhases keyboard delta Phase.order := by
    rw [step, playing]
  rw [served, frames, stepped, framed]
  cases moves : world.runPhases keyboard delta Phase.moves with
  | error crash => exact .inl ⟨rfl, crash, rfl⟩
  | ok moved => exact .inr ⟨moved, course_runPhases good plain moves, rfl, rfl⟩

omit [Scalar T] [Circular S] [Sampling S] [Rounding T S] in
theorem safe_detect (others : List Handle) (world : World S T) :
    Safe others world world.detect :=
  (quiet_detect world).names.safe

/-- What is consumed in a frame stays spent to its end. -/
theorem stretch_step (good : world.Sound others)
    (done : world.step keyboard delta = .ok after) :
    Stretch others world ((world.dispatches keyboard delta).flatMap calls) others after := by
  cases playing : world.playing with
  | none =>
    rw [step, playing] at done
    cases done
    rw [dispatches, playing]
    exact .still fun _ gone => gone
  | some session =>
    rcases frame_cases good playing keyboard delta with
      ⟨-, crash, failed⟩ | ⟨moved, course, served, ended⟩
    · rw [failed] at done
      cases done
    · rw [ended] at done
      cases done
      obtain ⟨found, kept⟩ := safe_detect others moved (course.sound good)
      have ahead : Stretch others world [] others moved.detect :=
        .still fun handle gone => kept handle (course.spent gone)
      have left := (course_dispatch found).sound found
      have since : Stretch others moved.detect.dispatch [] others moved.detect.dispatch.cleanUp :=
        .still fun handle gone => (course_cleanUp left).spent gone
      have whole := (ahead.append (stretch_calls found)).append since
      rw [List.nil_append, List.append_nil] at whole
      rw [served, List.flatMap_singleton]
      exact whole

/-! ### Contacts between frames -/

/-- No contact waits while no frame is under way. -/
theorem rest_settled : Rest (Settled : World S T → Prop) where
  idle := by
    intro world idle
    have gone : world.contacts = none := by simpa [has] using idle.parts .contacts
    rw [Settled, gone, Option.getD_none]
  start := by
    intro others world spec scene seed lived
    have ready : (world.tearDown.setUp spec seed).Sound others :=
      (safe_tearDown world others lived.sound).1
    have built : ((world.tearDown.setUp spec seed).build scene).contacts = some [] :=
      (course_build ready scene).contacts
    have begun : (world.playScene spec scene seed).2.contacts = some [] :=
      (untouched_begin world spec scene seed).contacts.trans built
    rw [Settled, begun]
    rfl
  camera _ settled := settled
  step := by
    intro others world after session keyboard delta lived playing settled done
    rcases frame_cases lived.sound playing keyboard delta with
      ⟨-, crash, failed⟩ | ⟨moved, course, served, ended⟩
    · rw [failed] at done
      cases done
    · rw [ended] at done
      cases done
      have found := (safe_detect others moved (course.sound lived.sound)).1
      have left := (course_dispatch found).sound found
      rw [Settled, (course_cleanUp left).contacts, contacts_dispatch found]
      cases moved.detect.contacts <;> rfl
  draw := by
    intro others world after pictures lived settled drawn
    rw [Settled, (course_draw lived.sound drawn).contacts]
    exact settled

/-- Contacts that a frame finds are apart. -/
theorem apart_dispatches (lived : world.Lived others) (settled : world.Settled)
    (keyboard : Option (List Key)) (delta : T) :
    ∀ frame ∈ world.dispatches keyboard delta,
      (frame.contacts.getD []).Pairwise Contact.Apart := by
  intro frame member
  cases playing : world.playing with
  | none =>
    rw [dispatches, playing] at member
    cases member
  | some session =>
    rcases frame_cases lived.sound playing keyboard delta with
      ⟨nothing, -⟩ | ⟨moved, course, served, -⟩
    · rw [nothing] at member
      cases member
    · rw [served] at member
      rw [List.mem_singleton.mp member]
      obtain ⟨registry, found, named⟩ := lived.named playing
      obtain ⟨later, known, still⟩ := named.course lived.sound found course
      apply apart_detect
      · rw [Settled, course.contacts]
        exact settled
      · intro other same
        rw [known] at same
        cases same
        exact still.partitioned

end World

namespace Cabinet

variable {cabinet after : Cabinet S T} {operation : Operation S T}

/-! ### Runs -/

/-- What is consumed while one thing happens stays spent afterwards. When the game fails nothing was
dispatched. -/
theorem stretch_apply (good : cabinet.world.Sound cabinet.held)
    (done : cabinet.apply operation = .ok after) :
    Stretch cabinet.held cabinet.world ((cabinet.dispatchesAt operation).flatMap World.calls)
      after.held after.world := by
  have later := later_apply good done
  have still : Stretch cabinet.held cabinet.world [] after.held after.world :=
    .still fun _ gone => World.Later.spent later good gone
  cases operation with
  | step keyboard delta =>
    obtain ⟨world, stepped, done⟩ := bind_eq_ok done
    cases done
    exact World.stretch_step good stepped
  | _ => exact still

theorem dispatchesAt_of_error (good : cabinet.world.Sound cabinet.held) {crash : Crash}
    (failed : cabinet.apply operation = .error crash) : cabinet.dispatchesAt operation = [] := by
  cases operation with
  | step keyboard delta =>
    simp only [dispatchesAt]
    cases playing : cabinet.world.playing with
    | none => rw [World.dispatches, playing]
    | some session =>
      rcases World.frame_cases good playing keyboard delta with
        ⟨nothing, -⟩ | ⟨moved, -, -, ended⟩
      · exact nothing
      · rw [apply, ended] at failed
        cases failed
  | _ => rfl

theorem stretch_dispatches (good : cabinet.world.Sound cabinet.held)
    (operations : List (Operation S T)) :
    ∃ others world, Stretch cabinet.held cabinet.world
      ((cabinet.dispatches operations).flatMap World.calls) others world := by
  induction operations generalizing cabinet with
  | nil => exact ⟨cabinet.held, cabinet.world, .still fun _ gone => gone⟩
  | cons operation rest ih =>
    rw [dispatches]
    cases done : cabinet.apply operation with
    | error crash =>
      rw [dispatchesAt_of_error good done]
      exact ⟨cabinet.held, cabinet.world, .still fun _ gone => gone⟩
    | ok next =>
      have sound : next.world.Sound next.held := World.Later.sound (later_apply good done) good
      obtain ⟨others, world, stretch⟩ := ih sound
      rw [List.flatMap_append]
      exact ⟨others, world, (stretch_apply good done).append stretch⟩

theorem apart_dispatches (alive : cabinet.Alive) (settled : cabinet.world.Settled)
    (operations : List (Operation S T)) :
    ∀ frame ∈ cabinet.dispatches operations,
      (frame.contacts.getD []).Pairwise Contact.Apart := by
  induction operations generalizing cabinet with
  | nil =>
    intro frame member
    cases member
  | cons operation rest ih =>
    intro frame member
    rcases List.mem_append.mp member with here | there
    · cases operation with
      | step keyboard delta => exact World.apart_dispatches alive settled keyboard delta frame here
      | _ => cases here
    · cases done : cabinet.apply operation with
      | error crash =>
        rw [done] at there
        cases there
      | ok next =>
        rw [done] at there
        have lives := alive.later (later_apply alive.sound done)
        exact ih lives (rests_apply World.rest_settled alive settled done) frame there

end Cabinet

/-- How contacts are served in a run, given by the worlds whose contacts were dispatched. -/
structure Orderly (frames : List (World S T)) : Prop where
  /-- A dispatch is its callbacks one after the other, and drops the contacts. -/
  linked : ∀ frame ∈ frames, Call.Linked
    { frame with contacts := frame.contacts.map fun _ => [] } frame.calls frame.dispatch
  attended : ∀ frame ∈ frames, ∀ call ∈ frame.calls, call.Attended
  sorted : ∀ frame ∈ frames, frame.calls.Pairwise fun earlier later =>
    earlier.contact.binding ≤ later.contact.binding
  apart : ∀ frame ∈ frames, frame.calls.Pairwise fun earlier later =>
    earlier.contact.Apart later.contact
  /-- What is consumed takes no part in any later callback of the run. -/
  spared : (frames.flatMap World.calls).Pairwise fun earlier later =>
    earlier.consumes = true → later.Spares earlier.contact.second
  once : (((frames.flatMap World.calls).filter Call.consumes).map (·.contact.second)).Nodup

/-- Whatever is done to a cabinet, contacts are served in order, for actors that are there, and no
actor is consumed twice. -/
theorem Cabinet.serves_orderly (entropy : Entropy) (watch : Option Watch) (pictures : Option Bool)
    (operations : List (Operation S T)) :
    Orderly ((new entropy watch (pictures.map Screen.start) : Cabinet S T).dispatches operations) := by
  have alive : (new entropy watch (pictures.map Screen.start) : Cabinet S T).Alive :=
    alive_new entropy watch pictures
  obtain ⟨others, world, stretch⟩ := stretch_dispatches alive.sound operations
  constructor
  · exact fun frame _ => frame.linked_calls
  · exact fun frame _ => frame.attended_calls
  · intro frame _
    have sorted := (World.sorted_byBinding (frame.contacts.getD [])).sublist frame.contacts_calls
    rw [List.pairwise_map] at sorted
    exact sorted
  · intro frame member
    have apart := World.apart_byBinding (apart_dispatches alive rfl operations frame member)
    exact List.pairwise_map.mp (apart.sublist frame.contacts_calls)
  · exact stretch.orderly
  · exact stretch.once

/-- In the small game coins are collected one after the other, and later ones stand where earlier ones
stood. -/
example : (((Cabinet.new Sample.entropy none none : Cabinet Float32 Float).dispatches
    [.start Sample.spec .default, .step none 5, .step none 25, .step none 5, .step none 20]).flatMap
      World.calls).map (fun call => (call.contact.second.index, call.contact.second.generation)) =
    [(2, 0), (3, 0), (4, 0), (4, 1), (3, 1)] := by decide +kernel

end Arcade
