import Arcade.Proofs.Making

/-! What can happen to actors and names while a scene is built or played, said once: an actor is made,
alone or as a copy that joins a group; an actor is removed; the registry takes a note, or a behavior
something to remember; the scene is laid out anew; or all this stays as it is. Whatever a game does
is a course of such changes, so that a law of names need only be checked on each of them. A course
says what may be done on it, so that a law may also rest on what is never done. -/

namespace Arcade

/-- An elementary change of a world. -/
inductive Deed (S : Type) where
  /-- An actor is made under an id; it joins a group if there is one. -/
  | birth (blueprint : Spec.Blueprint S) (id : String) (group : Option String)
  | death (handle : Handle)
  | note
  /-- The behavior of an id remembers something. -/
  | record (id : String)
  | arrange (scenery : World.Scenery S)

namespace World

variable {S T : Type}

/-- The scene may be laid out anew, and nothing else changes. -/
structure Arranged (before after : World S T) : Prop where
  names : SameNames before after
  scene : SameScene before after
  contacts : after.contacts = before.contacts
  traffic : after.traffic = before.traffic

/-- A sequence of elementary changes, each of which may be done where it is done. -/
inductive Course (may : World S T → Deed S → Prop) : World S T → World S T → Prop where
  | quiet {before after : World S T} (quiet : Quiet before after) : Course may before after
  | birth {before after : World S T} {blueprint : Spec.Blueprint S} {id : String}
      {group : Option String} {handle : Handle}
      (allowed : may before (.birth blueprint id group))
      (made : Made before blueprint ⟨id, group, group.isSome, blueprint.weapon?⟩ handle
        (some ((before.registry.getD .empty).joined blueprint id group handle)) after) :
      Course may before after
  | death {before after : World S T} {handle : Handle} {identity : Identity S}
      (allowed : may before (.death handle)) (removed : Removed before handle identity after) :
      Course may before after
  | note {before : World S T} {registry : Registry S T} (allowed : may before .note)
      (noted : Registry.Noted (before.registry.getD .empty) registry) :
      Course may before { before with registry := some registry }
  | record {before : World S T} {id : String} (allowed : may before (.record id))
      (behaves : (before.registry.getD .empty).behaviors.contains id = true)
      (memory : Memory S T) :
      Course may before (before.withRegistry fun registry => registry.remember id memory)
  | arrange {before after : World S T} (allowed : may before (.arrange after.scenery))
      (arranged : Arranged before after) : Course may before after
  | trans {before middle after : World S T} (first : Course may before middle)
      (second : Course may middle after) : Course may before after

namespace Course

variable {may permits : World S T → Deed S → Prop} {before middle after world : World S T}
  {others : List Handle}

theorem refl (world : World S T) : Course may world world := .quiet (.refl world)

/-- What may be done on a course may be done on one that permits more. -/
theorem mono (course : Course may before after)
    (more : ∀ world deed, may world deed → permits world deed) : Course permits before after := by
  induction course with
  | quiet quiet => exact .quiet quiet
  | birth allowed made => exact .birth (more _ _ allowed) made
  | death allowed removed => exact .death (more _ _ allowed) removed
  | note allowed noted => exact .note (more _ _ allowed) noted
  | record allowed behaves memory => exact .record (more _ _ allowed) behaves memory
  | arrange allowed arranged => exact .arrange (more _ _ allowed) arranged
  | trans first second firstMore secondMore => exact .trans firstMore secondMore

theorem sound (course : Course may before after) (good : before.Sound others) :
    after.Sound others := by
  induction course with
  | quiet quiet => exact good.of_sameNames quiet.names
  | birth _ made => exact made.sound good
  | death _ removed => exact removed.sound good
  | note _ noted => exact good
  | record _ behaves memory => exact good
  | arrange _ arranged => exact good.of_sameNames arranged.names
  | trans first second firstKeeps secondKeeps => exact secondKeeps (firstKeeps good)

/-- What was given back stays given back. -/
theorem spent (course : Course may before after) {handle : Handle}
    (gone : before.Spent others handle) : after.Spent others handle := by
  induction course with
  | quiet quiet => exact gone.of_sameNames quiet.names
  | birth _ made => exact made.spent gone
  | death _ removed => exact removed.spent gone
  | note _ noted => exact gone
  | record _ behaves memory => exact gone
  | arrange _ arranged => exact gone.of_sameNames arranged.names
  | trans first second firstKeeps secondKeeps => exact secondKeeps (firstKeeps gone)

theorem safe (course : Course may before after) : Safe others before after :=
  fun good => ⟨course.sound good, fun _ gone => course.spent gone⟩

/-- The same game is played to the end of a course. -/
theorem scene (course : Course may before after) : SameScene before after := by
  induction course with
  | quiet quiet => exact quiet.scene
  | birth _ made => exact made.scene
  | death _ removed => exact removed.scene
  | note _ noted =>
    exact ⟨rfl, rfl, rfl, rfl, fun part there => by cases part <;> first | exact there | rfl⟩
  | record _ behaves memory =>
    exact ⟨rfl, rfl, rfl, rfl, fun part there => by cases part <;> first | exact there | rfl⟩
  | arrange _ arranged => exact arranged.scene
  | trans first second firstSame secondSame => exact firstSame.trans secondSame

/-- No contact is found or dropped on the way. -/
theorem contacts (course : Course may before after) : after.contacts = before.contacts := by
  induction course with
  | quiet quiet => exact quiet.contacts
  | birth _ made => exact made.contacts
  | death _ removed => exact removed.contacts
  | note _ noted => rfl
  | record _ behaves memory => rfl
  | arrange _ arranged => exact arranged.contacts
  | trans first second firstSame secondSame => exact secondSame.trans firstSame

/-- What every new layout keeps holds to the end of a course. -/
theorem laid (course : Course may before after) (holds : Scenery S → Prop)
    (kept : ∀ (world : World S T) (scenery : Scenery S), may world (.arrange scenery) →
      holds world.scenery → holds scenery) (start : holds before.scenery) :
    holds after.scenery := by
  induction course with
  | quiet quiet => exact quiet.scenery ▸ start
  | birth _ made => exact made.scenery ▸ start
  | death _ removed => exact removed.scenery ▸ start
  | note _ noted => exact start
  | record _ behaves memory => exact start
  | arrange allowed arranged => exact kept _ _ allowed start
  | trans first second firstKeeps secondKeeps => exact secondKeeps (firstKeeps start)

/-- What may not be laid out anew stays as it is laid out. -/
theorem scenery {α : Type} (course : Course may before after) (view : Scenery S → α)
    (fixed : ∀ (world : World S T) (scenery : Scenery S), may world (.arrange scenery) →
      view scenery = view world.scenery) : view after.scenery = view before.scenery := by
  refine course.laid (fun scenery => view scenery = view before.scenery) ?_ rfl
  intro world scenery allowed same
  exact (fixed world scenery allowed).trans same

/-- Whoever is there stays there where nobody may be removed. -/
theorem who_of_before (course : Course may before after) (good : before.Sound others)
    (spared : ∀ (world : World S T) (handle : Handle), ¬ may world (.death handle))
    {handle : Handle} {who : Identity S} (known : before.roster.who? handle = some who) :
    after.roster.who? handle = some who := by
  induction course with
  | quiet quiet => rwa [quiet.names.who]
  | birth _ made =>
    exact made.who_of_before (Roster.who?_eq_none_iff.mpr (made.fresh good)) known
  | death allowed removed => exact absurd allowed (spared _ _)
  | note _ noted => exact known
  | record _ behaves memory => exact known
  | arrange _ arranged => rwa [arranged.names.who]
  | trans first second firstKeeps secondKeeps =>
    exact secondKeeps (first.sound good) (firstKeeps good known)

/-- Changes one after the other, each of which is a course as long as something holds that it keeps,
make a course. -/
theorem foldl_keeping {α : Type} {change : World S T → α → World S T} {items : List α}
    (holds : World S T → Prop)
    (each : ∀ world : World S T, world.Sound others → holds world → ∀ item ∈ items,
      Course may world (change world item) ∧ holds (change world item))
    (good : world.Sound others) (start : holds world) :
    Course may world (items.foldl change world) := by
  induction items generalizing world with
  | nil => exact .refl world
  | cons item rest ih =>
    obtain ⟨first, kept⟩ := each world good start item List.mem_cons_self
    refine first.trans (ih ?_ (first.sound good) kept)
    intro later sound still other member
    exact each later sound still other (List.mem_cons_of_mem _ member)

/-- Courses one after the other make a course. -/
theorem foldl_mem {α : Type} {change : World S T → α → World S T} {items : List α}
    (each : ∀ (world : World S T), ∀ item ∈ items, world.Sound others →
      Course may world (change world item))
    (good : world.Sound others) : Course may world (items.foldl change world) := by
  refine foldl_keeping (fun _ => True) ?_ good trivial
  intro later sound _ item member
  exact ⟨each later item member sound, trivial⟩

theorem foldl {α : Type} {change : World S T → α → World S T}
    (each : ∀ (world : World S T) (item : α), world.Sound others →
      Course may world (change world item))
    (good : world.Sound others) (items : List α) : Course may world (items.foldl change world) :=
  foldl_mem (fun world item _ sound => each world item sound) good

/-- A note in the registry, which comes into being when it is needed. -/
theorem withRegistry {change : Registry S T → Registry S T} (allowed : may world .note)
    (noted : Registry.Noted (world.registry.getD .empty)
      (change (world.registry.getD .empty))) : Course may world (world.withRegistry change) :=
  .note allowed noted

theorem destroy (good : world.Sound others) {handle : Handle} (allowed : may world (.death handle)) :
    Course may world (world.destroy handle) := by
  cases found : world.roster.find? handle with
  | none =>
    rw [World.destroy, found]
    exact .refl world
  | some actor => exact .death allowed (removed_destroy good found)

variable [Scalar S] {blueprint : Spec.Blueprint S} {id : String} {position : Vec S}
  {handle : Handle}

/-- A blueprint of a group makes the group, and nothing else. -/
theorem createGroup {name : String} (allowed : may before .note)
    (made : before.create blueprint id position = .ok (.group name, after)) :
    Course may before after := by
  rw [create_group made]
  exact withRegistry allowed (Registry.noted_ensureGroup _ _)

/-- Making what a blueprint asks for. -/
theorem create {created : Created} (good : before.Sound others)
    (born : may before (.birth blueprint id none)) (noted : may before .note)
    (made : before.create blueprint id position = .ok (created, after)) :
    Course may before after := by
  cases created with
  | actor handle => exact .birth born (made_create good made)
  | group name => exact createGroup noted made

/-- Making a copy that joins a group. -/
theorem copy (good : before.Sound others) {group : String}
    (allowed : may before (.birth blueprint id (some group)))
    (made : before.create blueprint id position = .ok (.actor handle, middle)) :
    Course may before (middle.adopt handle group) := by
  have born := made_create good made
  exact .birth allowed (made_adopt born (born.sound good) group)

end Course

end World

end Arcade
