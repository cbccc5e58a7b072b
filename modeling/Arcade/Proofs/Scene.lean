import Arcade.Proofs.Acceptance
import Arcade.Proofs.Operation

/-! The parts of a scene come together and go together. Between two operations a game is played with
all its parts in place, and it is the one that its document describes; or none is played, no part is
left over, and there are no actors. -/

namespace Arcade.World

variable {S T : Type} {world after : World S T} {others : List Handle}

/-- A game is played: all its parts are there, and it is a scene of a valid document. -/
structure Playing (world : World S T) (session : Session) : Prop where
  active : world.playing = some session
  parts : ∀ part, world.has part = true
  spec : ∃ spec, world.spec = some spec ∧ spec.validate = .ok () ∧ spec.title = session.title ∧
    ∃ scene ∈ spec.scenes, scene.name = session.scene

/-- No game is played, and nothing is left of any. -/
structure Idle (world : World S T) : Prop where
  inactive : world.playing = none
  parts : ∀ part, world.has part = false
  actors : world.roster.actors = []

/-- Either a game is played or none is. -/
def Whole (world : World S T) : Prop := (∃ session, world.Playing session) ∨ world.Idle

theorem idle_empty (entropy : Entropy) : (World.empty entropy : World S T).Idle where
  inactive := rfl
  parts part := by cases part <;> rfl
  actors := rfl

theorem Playing.of_sameScene {session : Session} (playing : world.Playing session)
    (same : SameScene world after) : after.Playing session where
  active := same.playing.trans playing.active
  parts part := same.parts part (playing.parts part)
  spec := by
    rw [same.spec]
    exact playing.spec

theorem Idle.log (idle : world.Idle) (log : Log Signal) : World.Idle { world with log } where
  inactive := idle.inactive
  parts part := by
    have gone := idle.parts part
    cases part <;> exact gone
  actors := idle.actors

/-! ### The end of a scene -/

theorem course_destroy (good : world.Sound others) (handle : Handle) :
    Course Deed.OfRemoval world (world.destroy handle) := .destroy good trivial

theorem mem_handles_destroy (good : world.Sound others) (handle other : Handle) :
    other ∈ (world.destroy handle).roster.handles ↔
      other ≠ handle ∧ other ∈ world.roster.handles := by
  cases found : world.roster.find? handle with
  | none =>
    have absent := Roster.find?_eq_none_iff.mp found
    rw [destroy, found]
    constructor
    · intro member
      exact ⟨fun same => absent (same ▸ member), member⟩
    · exact And.right
  | some actor =>
    have held := (removed_destroy good found).held
    have distinct := held.nodup_iff.mp good.distinct
    rw [held.mem_iff, List.mem_cons]
    constructor
    · intro member
      exact ⟨fun same => (List.nodup_cons.mp distinct).1 (same ▸ member), .inr member⟩
    · rintro ⟨different, same | member⟩
      · exact absurd same different
      · exact member

/-- Nobody is left when all actors were removed. -/
theorem actors_foldl_destroy (good : world.Sound others) (handles : List Handle)
    (named : ∀ handle ∈ world.roster.handles, handle ∈ handles) :
    (handles.foldl destroy world).roster.actors = [] := by
  induction handles generalizing world with
  | nil =>
    have nobody : world.roster.handles = [] := by
      apply List.eq_nil_iff_forall_not_mem.mpr
      intro handle member
      exact absurd (named handle member) List.not_mem_nil
    exact List.map_eq_nil_iff.mp nobody
  | cons handle rest ih =>
    apply ih ((course_destroy good handle).sound good)
    intro other member
    obtain ⟨different, present⟩ := (mem_handles_destroy good handle other).mp member
    rcases List.mem_cons.mp (named other present) with same | inside
    · exact absurd same different
    · exact inside

/-- Actors that leave a world without names bring back none. -/
theorem registry_foldl_destroy (good : world.Sound others) (nameless : world.registry = none)
    (handles : List Handle) : (handles.foldl destroy world).registry = none := by
  induction handles generalizing world with
  | nil => exact nameless
  | cons handle rest ih =>
    apply ih ((course_destroy good handle).sound good)
    cases found : world.roster.find? handle with
    | none =>
      rw [destroy, found]
      exact nameless
    | some actor => rw [(removed_destroy good found).registry, nameless, Option.map_none]

theorem course_vacate (good : world.Sound others) :
    Course Deed.OfRemoval { world with playing := none, registry := none } world.vacate := by
  have nameless : World.Sound { world with playing := none, registry := none } others := good
  exact Course.foldl (fun _ handle sound => course_destroy sound handle) nameless _

theorem starts_tearDown (good : world.Sound others) : world.tearDown.starts = world.starts := by
  unfold tearDown
  split
  · rfl
  · have stripped : world.vacate.strip.starts = world.vacate.starts := rfl
    exact (untouched_emit _ _ _).scene.starts.trans
      (stripped.trans (course_vacate good).scene.starts)

theorem entropy_tearDown (good : world.Sound others) : world.tearDown.entropy = world.entropy := by
  unfold tearDown
  split
  · rfl
  · have stripped : world.vacate.strip.entropy = world.vacate.entropy := rfl
    exact (untouched_emit _ _ _).scene.entropy.trans
      (stripped.trans (course_vacate good).scene.entropy)

theorem starts_stop (good : world.Sound others) {session : Session} :
    (world.stop session).starts = world.starts := by
  unfold stop
  split
  · split
    · exact starts_tearDown good
    · rfl
  · rfl

/-- What is known of the handles of a world is not changed when its scene is stripped. -/
theorem names_tearDown {session : Session} (playing : world.playing = some session) :
    SameNames world.vacate world.tearDown := by
  rw [tearDown, playing]
  have stripped : SameNames world.vacate world.vacate.strip :=
    ⟨rfl, List.Perm.refl _, rfl, rfl, rfl⟩
  exact stripped.trans (untouched_emit _ _ _).names

theorem safe_tearDown (world : World S T) (others : List Handle) :
    Safe others world world.tearDown := by
  intro good
  cases playing : world.playing with
  | none =>
    rw [tearDown, playing]
    exact Safe.refl others world good
  | some session =>
    have left : Safe others { world with playing := none, registry := none } world.tearDown :=
      (course_vacate good).safe.trans (names_tearDown playing).safe
    exact left good

/-- Nothing is left of a scene that ended. -/
theorem idle_tearDown (good : world.Sound others) {session : Session}
    (playing : world.playing = some session) : world.tearDown.Idle := by
  have nameless : World.Sound { world with playing := none, registry := none } others := good
  have stripped : world.vacate.strip.Idle := by
    refine ⟨(course_vacate good).scene.playing, ?_, ?_⟩
    · intro part
      cases part with
      | registry =>
        have gone := registry_foldl_destroy nameless rfl (world.roster.actors.map (·.handle))
        exact congrArg Option.isSome gone
      | _ => rfl
    · exact actors_foldl_destroy nameless _ fun handle member => member
  rw [tearDown, playing]
  exact stripped.log _

/-- After the scene that was played, if any, ended, none is played. -/
theorem Whole.tearDown (whole : world.Whole) (good : world.Sound others) :
    world.tearDown.Idle := by
  rcases whole with ⟨session, playing⟩ | idle
  · exact idle_tearDown good playing.active
  · rw [World.tearDown, idle.inactive]
    exact idle

theorem Whole.stop (whole : world.Whole) (good : world.Sound others) (session : Session) :
    (world.stop session).Whole := by
  unfold World.stop
  split
  · split
    · exact .inr (whole.tearDown good)
    · exact whole
  · exact whole

theorem safe_stop (world : World S T) (others : List Handle) (session : Session) :
    Safe others world (world.stop session) := by
  unfold stop
  split
  · split
    · exact safe_tearDown world others
    · exact .refl others world
  · exact .refl others world

/-! ### The start of a scene -/

variable [Scalar S] [Scalar T]

omit [Scalar T] in
/-- Where nothing is there is nothing to show. -/
theorem Idle.draw (idle : world.Idle) {pictures : Bool}
    (done : world.draw pictures = .ok after) : after.Idle := by
  have nobody := idle.actors
  simp only [World.draw, attachDrawings, nobody, List.any_nil, List.filter_nil, List.map_nil,
    List.foldl_nil] at done
  cases done
  refine ⟨idle.inactive, ?_, ?_⟩
  · intro part
    have gone := idle.parts part
    cases part <;> exact gone
  · rw [Roster.actors_map, nobody, List.map_nil]

/-- A game that is built begins to be played, and nothing else changes. -/
theorem untouched_begin (world : World S T) (spec : Spec S) (scene : Spec.Scene S)
    (seed : Option Nat) :
    Untouched { (world.tearDown.setUp spec seed).build scene with
        playing := some (world.playScene spec scene seed).1 }
      (world.playScene spec scene seed).2 :=
  untouched_emit _ _ _

/-- The names of a game that begins are those with which its scene was built. -/
theorem names_playScene (world : World S T) (spec : Spec S) (scene : Spec.Scene S)
    (seed : Option Nat) :
    SameNames ((world.tearDown.setUp spec seed).build scene)
      (world.playScene spec scene seed).2 := by
  have played : SameNames ((world.tearDown.setUp spec seed).build scene)
      { (world.tearDown.setUp spec seed).build scene with
        playing := some (world.playScene spec scene seed).1 } :=
    ⟨rfl, List.Perm.refl _, rfl, rfl, rfl⟩
  exact played.trans (untouched_begin world spec scene seed).names

theorem scenery_playScene (world : World S T) (spec : Spec S) (scene : Spec.Scene S)
    (seed : Option Nat) :
    (world.playScene spec scene seed).2.scenery =
      ((world.tearDown.setUp spec seed).build scene).scenery :=
  (untouched_begin world spec scene seed).scenery

/-- A scene of a valid document, once it is started, is played with all its parts. -/
theorem playing_playScene (good : world.Sound others) {spec : Spec S} {scene : Spec.Scene S}
    (valid : spec.validate = .ok ()) (member : scene ∈ spec.scenes) (seed : Option Nat) :
    (world.playScene spec scene seed).2.Playing (world.playScene spec scene seed).1 := by
  have ready : (world.tearDown.setUp spec seed).Sound others := (safe_tearDown world others good).1
  have built := (course_build ready scene).scene
  have played : World.Playing
      { (world.tearDown.setUp spec seed).build scene with
        playing := some (world.playScene spec scene seed).1 }
      (world.playScene spec scene seed).1 := by
    refine ⟨rfl, ?_, spec, built.spec, valid, rfl, scene, member, rfl⟩
    intro part
    have there := built.parts part (by cases part <;> rfl)
    cases part <;> exact there
  exact played.of_sameScene (untouched_begin world spec scene seed).scene

theorem safe_playScene (world : World S T) (others : List Handle) (spec : Spec S)
    (scene : Spec.Scene S) (seed : Option Nat) :
    Safe others world (world.playScene spec scene seed).2 := by
  intro good
  have ended : Safe others world (world.tearDown.setUp spec seed) := safe_tearDown world others
  have built : Safe others (world.tearDown.setUp spec seed)
      { (world.tearDown.setUp spec seed).build scene with
        playing := some (world.playScene spec scene seed).1 } :=
    (course_build (ended good).1 scene).safe
  exact (ended.trans (built.trans (untouched_begin world spec scene seed).names.safe)) good

omit [Scalar S] [Scalar T] in
/-- The scene that is chosen is one of the document. -/
theorem mem_of_choose {spec : Spec S} {choice : Option String} {scene : Spec.Scene S}
    (chosen : spec.choose choice = .ok scene) : scene ∈ spec.scenes := by
  cases choice with
  | some name =>
    simp only [Spec.choose] at chosen
    split at chosen
    · rename_i found named
      cases chosen
      exact List.mem_of_find?_eq_some named
    · cases chosen
  | none =>
    simp only [Spec.choose] at chosen
    split at chosen
    · rename_i first rest listed
      cases chosen
      rw [listed]
      exact List.mem_cons_self
    · cases chosen

omit [Scalar S] [Scalar T] in
/-- A scene of a valid game is the one of its name. -/
theorem scene?_name {spec : Spec S} (valid : spec.validate = .ok ()) {scene : Spec.Scene S}
    (declared : scene ∈ spec.scenes) : spec.scene? scene.name = some scene :=
  (Spec.scene?_eq_some_iff (Spec.nodup_of_validate valid)).mpr ⟨declared, rfl⟩

/-- An attempt to start a game changes nothing, or a scene of a valid document is played. -/
theorem tryStart_cases (world : World S T) (spec : Spec S) (options : StartOptions) :
    (world.tryStart spec options).1 = world ∨
      ∃ scene, spec.validate = .ok () ∧ spec.choose options.scene = .ok scene ∧
        (world.tryStart spec options).1 = (world.playScene spec scene options.seed).2 := by
  unfold tryStart
  split
  · exact .inl rfl
  · rename_i valid
    split
    · exact .inl rfl
    · rename_i scene chosen
      exact .inr ⟨scene, valid, chosen, rfl⟩

theorem tryStart_of_choose {spec : Spec S} {options : StartOptions} {scene : Spec.Scene S}
    (valid : spec.validate = .ok ()) (chosen : spec.choose options.scene = .ok scene) :
    world.tryStart spec options =
      ((world.playScene spec scene options.seed).2,
        .ok (world.playScene spec scene options.seed).1) := by
  simp only [tryStart, valid, chosen]

/-- A start that succeeds plays the scene that was chosen. -/
theorem playScene_of_tryStart {spec : Spec S} {options : StartOptions} {scene : Spec.Scene S}
    {session : Session} (chosen : spec.choose options.scene = .ok scene)
    (start : world.tryStart spec options = (after, .ok session)) :
    world.playScene spec scene options.seed = (session, after) := by
  unfold tryStart at start
  split at start
  · cases start
  · rw [chosen] at start
    cases start
    rfl

/-- Whether it succeeds or fails, an attempt to start a game leaves a world that is whole. -/
theorem Whole.tryStart (whole : world.Whole) (good : world.Sound others) (spec : Spec S)
    (options : StartOptions) : (world.tryStart spec options).1.Whole := by
  rcases tryStart_cases world spec options with same | ⟨scene, valid, chosen, started⟩
  · rw [same]
    exact whole
  · rw [started]
    exact .inl ⟨_, playing_playScene good valid (mem_of_choose chosen) options.seed⟩

theorem safe_tryStart (world : World S T) (others : List Handle) (spec : Spec S)
    (options : StartOptions) : Safe others world (world.tryStart spec options).1 := by
  rcases tryStart_cases world spec options with same | ⟨scene, -, -, started⟩
  · rw [same]
    exact .refl others world
  · rw [started]
    exact safe_playScene world others _ _ _

/-- Games are counted as they start. -/
theorem starts_playScene (good : world.Sound others) (spec : Spec S) (scene : Spec.Scene S)
    (seed : Option Nat) : (world.playScene spec scene seed).2.starts = world.starts + 1 := by
  have ready : (world.tearDown.setUp spec seed).Sound others := (safe_tearDown world others good).1
  have built := (course_build ready scene).scene.starts
  have counted : (world.tearDown.setUp spec seed).starts = world.starts + 1 :=
    congrArg (· + 1) (starts_tearDown good)
  exact (untouched_begin world spec scene seed).scene.starts.trans (built.trans counted)

theorem entropy_playScene (good : world.Sound others) (spec : Spec S) (scene : Spec.Scene S)
    (seed : Option Nat) : (world.playScene spec scene seed).2.entropy = world.entropy := by
  have ready : (world.tearDown.setUp spec seed).Sound others := (safe_tearDown world others good).1
  have built := (course_build ready scene).scene.entropy
  have kept : (world.tearDown.setUp spec seed).entropy = world.entropy := entropy_tearDown good
  exact (untouched_begin world spec scene seed).scene.entropy.trans (built.trans kept)

/-- A game that starts has the number of starts for its own. -/
theorem session_playScene (good : world.Sound others) (spec : Spec S) (scene : Spec.Scene S)
    (seed : Option Nat) :
    (world.playScene spec scene seed).2.playing = some (world.playScene spec scene seed).1 ∧
      (world.playScene spec scene seed).1.generation =
        (world.playScene spec scene seed).2.starts := by
  refine ⟨rfl, ?_⟩
  rw [starts_playScene good]
  exact congrArg (· + 1) (starts_tearDown good)

end Arcade.World
