import Arcade.Proofs.Identity
import Arcade.Proofs.Roster
import Arcade.Screen
import Arcade.World.Frame

/-! What a change of a world may leave as it was: what the names mean, which game is played, how its
scene is laid out, which contacts wait. Most of what a frame does leaves all of these alone. -/

namespace Arcade

/-- Whether it is told that a copy came, that somebody left, or that a game started. -/
def Signal.ofTraffic : Signal → Bool
  | .objectSpawned .. | .objectDestroyed .. | .gameStarted .. => true
  | _ => false

/-- The parts of a scene that come when it starts and go when it ends. -/
inductive Part where
  | registry
  | diagnostics
  | clock
  | arena
  | board
  | manifest
  | shots
  | contacts
  | bindings
  | alarms
  | nests
  | random
  | library
  | spec
  deriving DecidableEq

namespace World

variable {S T : Type}

/-- Whether a part is there. -/
def has (world : World S T) : Part → Bool
  | .registry => world.registry.isSome
  | .diagnostics => world.diagnostics.isSome
  | .clock => world.clock.isSome
  | .arena => world.arena.isSome
  | .board => world.board.isSome
  | .manifest => world.manifest.isSome
  | .shots => world.shots.isSome
  | .contacts => world.contacts.isSome
  | .bindings => world.bindings.isSome
  | .alarms => world.alarms.isSome
  | .nests => world.nests.isSome
  | .random => world.random.isSome
  | .library => world.library.isSome
  | .spec => world.spec.isSome

/-- How a scene is laid out. -/
structure Scenery (S : Type) where
  extent : Option (Vec S)
  manifest : Option Manifest
  /-- The spawners at work. -/
  spawners : List (Spec.Spawner S)
  /-- The shots that were asked for. -/
  shots : List (Shot S)

def scenery (world : World S T) : Scenery S where
  extent := world.arena.map (·.extent)
  manifest := world.manifest
  spawners := (world.nests.getD []).map (·.spawner)
  shots := world.shots.getD []

/-- What was told of who came and left, and of games that started, latest first. -/
def traffic (world : World S T) : List Signal := world.log.history.filter Signal.ofTraffic

theorem traffic_emit (world : World S T) (signal : Signal) (source : Option Handle) :
    (world.emit signal source).traffic =
      if signal.ofTraffic then signal :: world.traffic else world.traffic := by
  simp only [traffic, emit, Log.emit, List.filter_cons]

/-- Names mean what they meant, and actors are known as they were. -/
structure SameNames (before after : World S T) : Prop where
  handles : after.handles = before.handles
  held : after.roster.handles.Perm before.roster.handles
  who : after.roster.who? = before.roster.who?
  births : after.births = before.births
  registry : after.registry = before.registry

/-- The same game is played, and none of its parts is gone. -/
structure SameScene (before after : World S T) : Prop where
  playing : after.playing = before.playing
  spec : after.spec = before.spec
  starts : after.starts = before.starts
  entropy : after.entropy = before.entropy
  parts : ∀ part, before.has part = true → after.has part = true

/-- Neither names nor the scene change, and no contact is found or dropped. -/
structure Untouched (before after : World S T) : Prop where
  names : SameNames before after
  scene : SameScene before after
  scenery : after.scenery = before.scenery
  contacts : after.contacts = before.contacts

/-- Nothing is touched, and nothing is told of anybody who comes or leaves. -/
structure Quiet (before after : World S T) : Prop extends Untouched before after where
  traffic : after.traffic = before.traffic

variable {before middle after world : World S T}

theorem SameNames.refl (world : World S T) : SameNames world world :=
  ⟨rfl, List.Perm.refl _, rfl, rfl, rfl⟩

theorem SameNames.trans (first : SameNames before middle) (second : SameNames middle after) :
    SameNames before after :=
  ⟨second.handles.trans first.handles, second.held.trans first.held, second.who.trans first.who,
    second.births.trans first.births, second.registry.trans first.registry⟩

theorem SameScene.refl (world : World S T) : SameScene world world :=
  ⟨rfl, rfl, rfl, rfl, fun _ there => there⟩

theorem SameScene.trans (first : SameScene before middle) (second : SameScene middle after) :
    SameScene before after :=
  ⟨second.playing.trans first.playing, second.spec.trans first.spec,
    second.starts.trans first.starts, second.entropy.trans first.entropy,
    fun part there => second.parts part (first.parts part there)⟩

theorem Quiet.refl (world : World S T) : Quiet world world :=
  ⟨⟨.refl world, .refl world, rfl, rfl⟩, rfl⟩

theorem Quiet.trans (first : Quiet before middle) (second : Quiet middle after) :
    Quiet before after :=
  ⟨⟨first.names.trans second.names, first.scene.trans second.scene,
    second.scenery.trans first.scenery, second.contacts.trans first.contacts⟩,
    second.traffic.trans first.traffic⟩

/-! ### What is held -/

/-- No two actors, and none of the other things that are held, share a place. -/
def Sound (world : World S T) (others : List Handle) : Prop :=
  world.handles.Sound (world.roster.handles ++ others)

/-- Nothing is, or will be, under a handle that was given back. -/
def Spent (world : World S T) (others : List Handle) (handle : Handle) : Prop :=
  world.handles.Spent (world.roster.handles ++ others) handle

variable {others : List Handle} {handle : Handle}

theorem Sound.distinct (sound : world.Sound others) : world.roster.handles.Nodup :=
  (List.nodup_append.mp sound.nodup).1

theorem Spent.find?_eq_none (gone : world.Spent others handle) :
    world.roster.find? handle = none := by
  rw [Roster.find?_eq_none_iff]
  intro member
  exact gone.not_mem (List.mem_append_left _ member)

theorem Spent.not_alive (gone : world.Spent others handle) : world.alive handle = false := by
  rw [alive, Roster.contains, gone.find?_eq_none]
  rfl

theorem Sound.of_sameNames (sound : before.Sound others) (same : SameNames before after) :
    after.Sound others := by
  rw [Sound, same.handles]
  exact Handles.Sound.perm sound (same.held.symm.append_right others)

theorem Spent.of_sameNames (gone : before.Spent others handle) (same : SameNames before after) :
    after.Spent others handle := by
  rw [Spent, same.handles]
  exact Handles.Spent.perm gone (same.held.symm.append_right others)

/-- A camera takes a place that is held beside the actors. -/
theorem Sound.camera (sound : world.Sound []) :
    World.Sound { world with handles := world.handles.take.2 } [world.handles.take.1] := by
  have taken := Handles.Sound.take sound
  rw [List.append_nil] at taken
  exact taken.perm (List.perm_append_singleton _ _).symm

theorem Spent.camera (gone : world.Spent [] handle) :
    World.Spent { world with handles := world.handles.take.2 } [world.handles.take.1] handle := by
  have taken := Handles.Spent.take gone
  rw [List.append_nil] at taken
  exact taken.perm (List.perm_append_singleton _ _).symm

/-- Soundness is kept, and what was given back stays given back. -/
def Safe (others : List Handle) (before after : World S T) : Prop :=
  before.Sound others →
    after.Sound others ∧ ∀ handle, before.Spent others handle → after.Spent others handle

theorem Safe.refl (others : List Handle) (world : World S T) : Safe others world world :=
  fun good => ⟨good, fun _ gone => gone⟩

theorem Safe.trans (first : Safe others before middle) (second : Safe others middle after) :
    Safe others before after := by
  intro good
  obtain ⟨sound, spent⟩ := first good
  obtain ⟨soundAfter, spentAfter⟩ := second sound
  exact ⟨soundAfter, fun handle gone => spentAfter handle (spent handle gone)⟩

/-- The same actors are there. -/
theorem SameNames.alive (same : SameNames before after) (handle : Handle) :
    after.alive handle = before.alive handle := by
  have known (world : World S T) :
      world.alive handle = (world.roster.who? handle).isSome := by
    rw [World.alive, Roster.contains, Roster.who?, Option.isSome_map]
  rw [known, known, same.who]

theorem SameNames.safe (same : SameNames before after) : Safe others before after :=
  fun good => ⟨good.of_sameNames same, fun _ gone => gone.of_sameNames same⟩

/-! ### Changes that leave everything alone -/

theorem quiet_update (sound : world.Sound others) {change : Actor S T → Actor S T}
    (keeps : Actor.Keeps change) (handle : Handle) :
    Quiet world { world with roster := world.roster.update handle change } where
  names := ⟨rfl, Roster.handles_update_perm sound.distinct (fun actor => (keeps actor).1) handle,
    Roster.who?_update sound.distinct keeps handle, rfl, rfl⟩
  scene := ⟨rfl, rfl, rfl, rfl, fun part there => by cases part <;> exact there⟩
  scenery := rfl
  contacts := rfl
  traffic := rfl

theorem quiet_roster {roster : Roster S T} (alike : Roster.Alike world.roster roster) :
    Quiet world { world with roster } where
  names := ⟨rfl, List.Perm.of_eq alike.handles, alike.who, rfl, rfl⟩
  scene := ⟨rfl, rfl, rfl, rfl, fun part there => by cases part <;> exact there⟩
  scenery := rfl
  contacts := rfl
  traffic := rfl

/-- What names, the scene, contacts and traffic rest on. -/
def backbone (world : World S T) :=
  (world.handles, world.roster, world.births, world.registry, world.playing, world.spec,
    world.starts, world.entropy, world.scenery, world.contacts, world.traffic)

theorem quiet_of_backbone (same : after.backbone = before.backbone)
    (parts : ∀ part, before.has part = true → after.has part = true) : Quiet before after := by
  simp only [backbone, Prod.mk.injEq] at same
  obtain ⟨handles, roster, births, registry, playing, spec, starts, entropy, scenery, contacts,
    traffic⟩ := same
  exact ⟨⟨⟨handles, List.Perm.of_eq (by rw [roster]), by rw [roster], births, registry⟩,
    ⟨playing, spec, starts, entropy, parts⟩, scenery, contacts⟩, traffic⟩

theorem untouched_log (world : World S T) (log : Log Signal) : Untouched world { world with log } where
  names := ⟨rfl, List.Perm.refl _, rfl, rfl, rfl⟩
  scene := ⟨rfl, rfl, rfl, rfl, fun part there => by cases part <;> exact there⟩
  scenery := rfl
  contacts := rfl

theorem untouched_emit (world : World S T) (signal : Signal) (source : Option Handle) :
    Untouched world (world.emit signal source) :=
  untouched_log world (world.log.emit signal source)

theorem quiet_emit (world : World S T) {signal : Signal} (source : Option Handle)
    (aside : signal.ofTraffic = false) : Quiet world (world.emit signal source) where
  toUntouched := untouched_emit world signal source
  traffic := by rw [traffic_emit, aside, if_neg Bool.false_ne_true]

theorem quiet_keys (world : World S T) (keys : KeyCache) : Quiet world { world with keys } :=
  quiet_of_backbone rfl fun part there => by cases part <;> exact there

theorem quiet_diagnostics (world : World S T) (messages : List String) :
    Quiet world { world with diagnostics := some messages } :=
  quiet_of_backbone rfl fun part there => by cases part <;> first | exact there | rfl

theorem quiet_report (world : World S T) (error : BuildError) :
    Quiet world (world.report error) :=
  (quiet_emit world none rfl).trans (quiet_diagnostics _ _)

theorem quiet_setText {id text : String} (changed : world.setText? id text = some after) :
    Quiet world after := by
  simp only [setText?, Option.bind_eq_bind, Option.bind_eq_some_iff] at changed
  obtain ⟨handle, -, actor, -, changed⟩ := changed
  split at changed
  · cases changed
    refine quiet_roster (Roster.alike_modify ?_ handle)
    exact fun _ => ⟨rfl, rfl⟩
  · cases changed

end World

end Arcade
