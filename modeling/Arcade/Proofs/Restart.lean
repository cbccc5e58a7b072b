import Arcade.Proofs.Likeness
import Arcade.Proofs.Rejection
import Arcade.Proofs.Stirring

/-! A game starts as if none had been played before. Two worlds in which the same scene is started come
out alike, whatever happened in them, but for the identities of their actors, the number of the game and
what was told before. The renaming is known before the scene is built: it takes the handles that the
one world gives out next to those of the other. -/

namespace Arcade

variable {S T : Type}

/-- Tell of things one after the other, none of which is about an actor. -/
def Log.tell (log : Log Signal) (signals : List Signal) : Log Signal :=
  signals.foldl (fun log signal => log.emit signal none) log

theorem Log.tell_concat (log : Log Signal) (signals : List Signal) (signal : Signal) :
    log.tell (signals ++ [signal]) = (log.tell signals).emit signal none := by
  rw [tell, List.foldl_append]
  rfl

namespace World

/-- Two worlds in which the same scene is built: they are alike so far, so many handles that come next
are paired, and the same was told in both since. -/
structure Twins (rename : Handle ≃ Handle) (room : Nat) (others held : List Handle)
    (base otherBase : Log Signal) (world other : World S T) : Prop where
  alike : Alike rename world other
  upcoming : ∀ number < room,
    rename (world.handles.upcoming number) = other.handles.upcoming number
  sound : world.Sound others
  otherSound : other.Sound held
  keys : world.keys.Faithful
  otherKeys : other.keys.Faithful
  told : ∃ signals, world.log = base.tell signals ∧ other.log = otherBase.tell signals

namespace Twins

variable {rename : Handle ≃ Handle} {room : Nat} {others held : List Handle}
  {base otherBase : Log Signal} {world other : World S T}

/-- Fewer handles are paired. -/
theorem less (twins : Twins rename (room + 1) others held base otherBase world other) :
    Twins rename room others held base otherBase world other :=
  { twins with upcoming := fun number below => twins.upcoming number (Nat.lt_succ_of_lt below) }

/-- The same is told in both. -/
theorem report (twins : Twins rename room others held base otherBase world other)
    (error : BuildError) :
    Twins rename room others held base otherBase (world.report error) (other.report error) := by
  obtain ⟨signals, told, otherTold⟩ := twins.told
  have next : world.log.emit (.diagnostic error.message) none =
      base.tell (signals ++ [.diagnostic error.message]) := by rw [told, Log.tell_concat]
  have otherNext : other.log.emit (.diagnostic error.message) none =
      otherBase.tell (signals ++ [.diagnostic error.message]) := by rw [otherTold, Log.tell_concat]
  have diagnostics := twins.alike.diagnostics
  simp only [World.report, emit, diagnostics]
  -- what stands in the logs is not looked at
  generalize world.log.emit (.diagnostic error.message) none = log at next ⊢
  generalize other.log.emit (.diagnostic error.message) none = otherLog at otherNext ⊢
  have alike := twins.alike
  exact {
    alike := { alike with diagnostics := rfl }
    upcoming := twins.upcoming
    sound := twins.sound
    otherSound := twins.otherSound
    keys := twins.keys
    otherKeys := twins.otherKeys
    told := ⟨_, next, otherNext⟩ }

/-- The same is noted of names in both. -/
theorem withRegistry (twins : Twins rename room others held base otherBase world other)
    {change : Registry S T → Registry S T}
    (commutes : ∀ registry, (change registry).renamed rename = change (registry.renamed rename)) :
    Twins rename room others held base otherBase (world.withRegistry change)
      (other.withRegistry change) := by
  have alike := twins.alike
  simp only [World.withRegistry, alike.names, ← commutes]
  exact {
    alike := { alike with registry := rfl }
    upcoming := twins.upcoming
    sound := twins.sound
    otherSound := twins.otherSound
    keys := twins.keys
    otherKeys := twins.otherKeys
    told := twins.told }

variable [Scalar S] {blueprint : Spec.Blueprint S} {id : String} {position : Vec S}
  {handle otherHandle : Handle} {after otherAfter : World S T}

/-- The same is told in both when a blueprint is made. -/
theorem told_create (twins : Twins rename (room + 1) others held base otherBase world other)
    (made : world.create blueprint id position = .ok (.actor handle, after))
    (otherMade : other.create blueprint id position = .ok (.actor otherHandle, otherAfter)) :
    otherAfter.diagnostics = after.diagnostics ∧
      ∃ signals, after.log = base.tell signals ∧ otherAfter.log = otherBase.tell signals := by
  have news := news_create twins.sound made
  have otherNews := news_create twins.otherSound otherMade
  rw [twins.alike.taken] at otherNews
  by_cases crowded : (world.handle? id).any world.alive = true
  · rw [if_pos crowded] at news otherNews
    have reported := twins.report (.duplicateObjectId id)
    obtain ⟨diagnostics, log⟩ := Prod.mk.injEq .. ▸ news
    obtain ⟨otherDiagnostics, otherLog⟩ := Prod.mk.injEq .. ▸ otherNews
    rw [diagnostics, log, otherDiagnostics, otherLog]
    exact ⟨reported.alike.diagnostics, reported.told⟩
  · rw [if_neg crowded] at news otherNews
    obtain ⟨diagnostics, log⟩ := Prod.mk.injEq .. ▸ news
    obtain ⟨otherDiagnostics, otherLog⟩ := Prod.mk.injEq .. ▸ otherNews
    rw [diagnostics, log, otherDiagnostics, otherLog]
    exact ⟨twins.alike.diagnostics, twins.told⟩

/-- A blueprint makes the same in both, under the handles that come next. -/
theorem alike_create (twins : Twins rename (room + 1) others held base otherBase world other)
    (made : world.create blueprint id position = .ok (.actor handle, after))
    (otherMade : other.create blueprint id position = .ok (.actor otherHandle, otherAfter)) :
    Alike rename after otherAfter := by
  have born := made_create twins.sound made
  have otherBorn := made_create twins.otherSound otherMade
  have paired : rename handle = otherHandle := by
    rw [born.taken, otherBorn.taken]
    exact twins.upcoming 0 (Nat.succ_pos room)
  obtain ⟨look, seen, welcomes⟩ := welcomes_create twins.sound made
  obtain ⟨otherLook, otherSeen, otherWelcomes⟩ := welcomes_create twins.otherSound otherMade
  have looks : otherLook = look := by
    rw [seen] at otherSeen
    cases otherSeen
    rfl
  have origins := origins_create made
  have otherOrigins := origins_create otherMade
  have alike := twins.alike
  obtain ⟨furniture, dealings⟩ := furniture_create made
  obtain ⟨otherFurniture, otherDealings⟩ := furniture_create otherMade
  simp only [World.origins, World.dealings, Prod.mk.injEq] at origins otherOrigins dealings otherDealings
  obtain ⟨bindings, shots, contacts⟩ := dealings
  obtain ⟨otherBindings, otherShots, otherContacts⟩ := otherDealings
  constructor
  case actors =>
    intro old
    rw [otherWelcomes, welcomes, looks, ← paired, alike.actors]
    by_cases hit : handle = old
    · rw [if_pos hit, if_pos (congrArg rename hit), Option.map_some,
        renamed_newcomer blueprint twins.keys twins.otherKeys]
    · rw [if_neg hit, if_neg fun same => hit (rename.injective same)]
  case births =>
    rw [otherOrigins.1, origins.1, alike.births, ← paired]
    rfl
  case cradles =>
    rw [otherOrigins.2, origins.2, alike.cradles, ← paired]
    rfl
  case registry =>
    rw [otherBorn.registry, born.registry, alike.names, Option.map_some,
      Registry.renamed_entered, paired]
  case bindings => rw [otherBindings, bindings, alike.bindings]
  case shots => rw [otherShots, shots, alike.shots]
  case contacts => rw [otherContacts, contacts, alike.contacts]
  case diagnostics => exact (twins.told_create made otherMade).1
  case furniture => rw [otherFurniture, furniture, alike.furniture]

theorem create (twins : Twins rename (room + 1) others held base otherBase world other)
    (made : world.create blueprint id position = .ok (.actor handle, after))
    (otherMade : other.create blueprint id position = .ok (.actor otherHandle, otherAfter)) :
    Twins rename room others held base otherBase after otherAfter where
  alike := twins.alike_create made otherMade
  upcoming number below := by
    rw [(made_create twins.sound made).handles, (made_create twins.otherSound otherMade).handles]
    exact twins.upcoming (number + 1) (Nat.succ_lt_succ below)
  sound := (made_create twins.sound made).sound twins.sound
  otherSound := (made_create twins.otherSound otherMade).sound twins.otherSound
  keys := faithful_create twins.keys made
  otherKeys := faithful_create twins.otherKeys otherMade
  told := (twins.told_create made otherMade).2

/-! ### Building a scene -/

theorem placeObject (twins : Twins rename (room + 1) others held base otherBase world other)
    (object : Spec.Blueprint S) :
    Twins rename room others held base otherBase (world.placeObject object)
      (other.placeObject object) := by
  have cases := world.create_cases object object.id ⟨object.x, object.y⟩
  have otherCases := other.create_cases object object.id ⟨object.x, object.y⟩
  unfold World.placeObject
  generalize object.appearance? = form at cases otherCases
  rcases form with error | _ | look
  · rw [cases, otherCases]
    exact (twins.report error).less
  · rw [cases, otherCases]
    exact (twins.withRegistry fun registry =>
      Registry.renamed_ensureGroup rename registry object.id).less
  · obtain ⟨handle, after, made⟩ := cases
    obtain ⟨otherHandle, otherAfter, otherMade⟩ := otherCases
    rw [made, otherMade]
    exact twins.create made otherMade

theorem placeObjects {objects : List (Spec.Blueprint S)}
    (twins : Twins rename (room + objects.length) others held base otherBase world other) :
    Twins rename room others held base otherBase (objects.foldl World.placeObject world)
      (objects.foldl World.placeObject other) := by
  induction objects generalizing world other with
  | nil => exact twins
  | cons object rest ih => exact ih (twins.placeObject object)

omit [Scalar S] in
theorem foldl {α : Type} {change : World S T → α → World S T}
    (twins : Twins rename room others held base otherBase world other)
    (each : ∀ {world other : World S T} (item : α),
      Twins rename room others held base otherBase world other →
      Twins rename room others held base otherBase (change world item) (change other item))
    (items : List α) :
    Twins rename room others held base otherBase (items.foldl change world)
      (items.foldl change other) := by
  induction items generalizing world other with
  | nil => exact twins
  | cons item rest ih => exact ih (each item twins)

omit [Scalar S] in
theorem placeInteraction (kind : Contact.Kind) (line : String)
    (twins : Twins rename room others held base otherBase world other) :
    Twins rename room others held base otherBase (world.placeInteraction kind line)
      (other.placeInteraction kind line) := by
  unfold World.placeInteraction
  rw [twins.alike.names, Registry.bind_renamed]
  cases (world.registry.getD .empty).bind kind line with
  | error error => exact twins.report error
  | ok binding =>
    have alike := twins.alike
    have bound : (other.bindings.map (· ++ [binding.renamed rename])) =
        (world.bindings.map (· ++ [binding])).map (·.map (·.renamed rename)) := by
      rw [alike.bindings]
      cases world.bindings with
      | none => rfl
      | some bindings => simp
    exact { twins with alike := { alike with bindings := bound } }

omit [Scalar S] in
/-- Timers, spawners and actions are changed in both in the same way. -/
theorem furnish (twins : Twins rename room others held base otherBase world other)
    (alarms : Option (List (Alarm T)) → Option (List (Alarm T)))
    (nests : Option (List (Nest S T)) → Option (List (Nest S T)))
    (library : Option (Index Spec.Effect) → Option (Index Spec.Effect)) :
    Twins rename room others held base otherBase
      { world with
        alarms := alarms world.alarms
        nests := nests world.nests
        library := library world.library }
      { other with
        alarms := alarms other.alarms
        nests := nests other.nests
        library := library other.library } := by
  have alike := twins.alike
  have same := alike.furniture
  simp only [furniture, Prod.mk.injEq] at same
  obtain ⟨clock, arena, board, manifest, sameAlarms, sameNests, random, spec, known⟩ := same
  exact { twins with
    alike := { alike with
      furniture := by
        simp only [furniture, clock, arena, board, manifest, sameAlarms, sameNests, random, spec,
          known] } }

variable [Scalar T]

omit [Scalar S] in
theorem placeSpawner (spawner : Spec.Spawner S)
    (twins : Twins rename room others held base otherBase world other) :
    Twins rename room others held base otherBase (world.placeSpawner spawner)
      (other.placeSpawner spawner) := by
  have grouped := twins.withRegistry fun registry =>
    Registry.renamed_ensureGroup rename registry spawner.template.id
  exact grouped.furnish id (Option.map (· ++ [.start spawner 0])) id

omit [Scalar S] in
theorem placeTimer (line : String)
    (twins : Twins rename room others held base otherBase world other) :
    Twins rename room others held base otherBase (world.placeTimer line)
      (other.placeTimer line) := by
  unfold World.placeTimer
  split
  · rename_i rule _
    exact twins.furnish (Option.map (· ++ [.start rule line 0])) id id
  · exact twins.report _

variable {scene : Spec.Scene S}

/-- A scene is built alike in both, with as many handles as it has objects. -/
theorem build (twins : Twins rename scene.objects.length others held base otherBase world other) :
    Twins rename 0 others held base otherBase (world.build scene) (other.build scene) := by
  let logic := scene.logic.getD .empty
  rw [← Nat.zero_add scene.objects.length] at twins
  have known := twins.furnish id id fun _ => some (libraryOf (logic.actions.getD []))
  have shots {world other : World S T}
      (twins : Twins rename 0 others held base otherBase world other) :
      Twins rename 0 others held base otherBase
        (if scene.objects.any shoots then
          world.withRegistry fun registry => registry.ensureGroup projectileGroup else world)
        (if scene.objects.any shoots then
          other.withRegistry fun registry => registry.ensureGroup projectileGroup else other) := by
    split
    · exact twins.withRegistry fun registry =>
        Registry.renamed_ensureGroup rename registry projectileGroup
    · exact twins
  have objects := known.placeObjects
  have spawners := objects.foldl placeSpawner (logic.spawners.getD [])
  have rules := (shots spawners).foldl (placeInteraction .collision) (logic.onCollision.getD [])
  have overlaps := rules.foldl (placeInteraction .overlap) (logic.onOverlap.getD [])
  exact overlaps.foldl placeTimer (logic.timers.getD [])

end Twins

/-! ### Other random numbers -/

section

variable (world : World S T) (entropy : Entropy) (random : Option Random)

variable [Scalar S]

variable [Scalar T]

end

/-! ### Two starts -/

variable {world other : World S T} {others held : List Handle} [Scalar S] [Scalar T]

omit [Scalar S] [Scalar T] in
/-- The end of a game leaves alone what the next one starts from. -/
theorem generator_tearDown (good : world.Sound others) (seed : Option Nat) :
    world.tearDown.generator seed = world.generator seed := by
  rw [generator, starts_tearDown good, entropy_tearDown good, generator]

/-- Nothing is there yet in two worlds that are made ready for the same scene, and for the same random
numbers. -/
theorem twins_setUp (idle : world.Idle) (otherIdle : other.Idle) (sound : world.Sound others)
    (otherSound : other.Sound held) (keys : world.keys.Faithful)
    (otherKeys : other.keys.Faithful) (room : Nat) (spec : Spec S) {seed : Option Nat}
    (drawn : world.generator seed = other.generator seed) :
    ∃ rename, Twins rename room others held world.log other.log (world.setUp spec seed)
      (other.setUp spec seed) := by
  obtain ⟨rename, upcoming⟩ := Handles.exists_rename sound otherSound room
  have unread (world : World S T) (idle : world.Idle) : world.library = none := by
    simpa [has] using idle.parts .library
  refine ⟨rename, ?_, upcoming, sound, otherSound, keys, otherKeys, [], rfl, rfl⟩
  constructor
  case actors =>
    intro handle
    have nobody (world : World S T) (idle : world.Idle) (spec : Spec S) (handle : Handle) :
        (world.setUp spec seed).roster.find? handle = none := by
      rw [setUp, Roster.find?, idle.actors, List.find?_nil]
    rw [nobody world idle, nobody other otherIdle, Option.map_none]
  case furniture =>
    simp only [furniture, setUp, unread world idle, unread other otherIdle, drawn]
  all_goals rfl

/-- A game has its number, and the names of its scene and its document. -/
theorem playScene_fst (good : world.Sound others) (spec : Spec S) (scene : Spec.Scene S)
    (seed : Option Nat) :
    (world.playScene spec scene seed).1 = ⟨world.starts + 1, scene.name, spec.title⟩ := by
  rw [← starts_tearDown good]
  rfl

omit [Scalar T] in
theorem keys_tearDown (known : world.keys.Faithful) : world.tearDown.keys.Faithful := by
  unfold tearDown
  split
  · exact known
  · have left : Stirs Actor.Gentle { world with playing := none, registry := none } world.vacate :=
      stirs_vacate world
    simp only [emit]
    exact left.faithful known

theorem keys_playScene (known : world.keys.Faithful) (spec : Spec S) (scene : Spec.Scene S)
    (seed : Option Nat) : (world.playScene spec scene seed).2.keys.Faithful := by
  have built : Stirs Actor.Gentle (world.tearDown.setUp spec seed)
      ((world.tearDown.setUp spec seed).build scene) := stirs_build _ scene
  simp only [playScene, emit]
  exact built.faithful (keys_tearDown known)

variable [Circular S] [Sampling S] [Rounding T S]

/-- What is remembered of keys is true at any time. -/
theorem Lived.keys (lived : world.Lived others) : world.keys.Faithful := by
  induction lived using Lived.induction with
  | empty entropy => exact KeyCache.faithful_empty
  | camera _ known => exact known
  | @start others world later spec options known =>
    rcases tryStart_cases world spec options with same | ⟨scene, -, -, started⟩
    · rwa [same]
    · rw [started]
      exact keys_playScene known spec scene options.seed
  | stop later session known =>
    unfold stop
    split
    · split
      · exact keys_tearDown known
      · exact known
    · exact known
  | phase later active done known => exact (lenient_any.stirs_runPhase done).faithful known
  | draw later done known => exact (stirs_draw done).faithful known

/-- When the same scene is played in two worlds with the same random numbers, they come out alike, and the
same is told of it. -/
theorem Lived.alike_playScene (lived : world.Lived others) (otherLived : other.Lived held)
    (spec : Spec S) (scene : Spec.Scene S) {seed : Option Nat}
    (drawn : world.generator seed = other.generator seed) :
    ∃ rename signals,
      Alike rename (world.playScene spec scene seed).2 (other.playScene spec scene seed).2 ∧
      (world.playScene spec scene seed).2.log = (world.tearDown.log.tell signals).emit
        (.gameStarted spec.title scene.name (world.starts + 1)) none ∧
      (other.playScene spec scene seed).2.log = (other.tearDown.log.tell signals).emit
        (.gameStarted spec.title scene.name (other.starts + 1)) none := by
  obtain ⟨rename, ready⟩ := twins_setUp (lived.whole.tearDown lived.sound)
    (otherLived.whole.tearDown otherLived.sound) (safe_tearDown world others lived.sound).1
    (safe_tearDown other held otherLived.sound).1 (keys_tearDown lived.keys)
    (keys_tearDown otherLived.keys) scene.objects.length spec
    (by rwa [generator_tearDown lived.sound, generator_tearDown otherLived.sound])
  have built := ready.build
  obtain ⟨signals, told, otherTold⟩ := built.told
  have begun (world : World S T) (others : List Handle) (good : world.Sound others) :
      (world.playScene spec scene seed).2.log =
        ((world.tearDown.setUp spec seed).build scene).log.emit
          (.gameStarted spec.title scene.name (world.starts + 1)) none := by
    rw [← starts_tearDown good]
    rfl
  refine ⟨rename, signals, ?_, ?_, ?_⟩
  · have alike := built.alike
    simp only [playScene, emit]
    generalize Log.emit ((world.tearDown.setUp spec seed).build scene).log = said
    generalize Log.emit ((other.tearDown.setUp spec seed).build scene).log = otherSaid
    exact { alike with }
  · rw [begun world others lived.sound, told]
  · rw [begun other held otherLived.sound, otherTold]

end World

end Arcade
