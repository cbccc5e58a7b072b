import Arcade.Proofs.Anchorage
import Arcade.Proofs.Aspect
import Arcade.Proofs.Bookkeeping
import Arcade.Proofs.Census
import Arcade.Proofs.Chronicle
import Arcade.Proofs.Elapsed
import Arcade.Proofs.Grouping

/-! Shooting. When actors are driven some of them ask for a shot, which is noted; and all that was noted
is made right away, before anything else happens in the frame. An actor that asked remembers when it
did, so that its shots keep their distance; and the shots of an owner's name are numbered as they are
made, whoever of that name asks for them. -/

namespace Arcade

variable {S T : Type}

/-! ### Shots from their asking to their making -/

/-- A shot that is asked for under the held keys, with the world in which it is asked for and the world
that its making finds. -/
structure Discharge (S T : Type) where
  keyboard : Option (List Key)
  aimed : World S T
  shot : Shot S
  found : World S T

namespace Discharge

/-- When the shot was asked for. -/
def time? (discharge : Discharge S T) : Option T := discharge.aimed.clock.map (·.now)

/-- The number of the shot under the name of its owner. -/
def number (discharge : Discharge S T) : Nat :=
  discharge.found.books.shotCount discharge.shot.ownerId

/-- Two shots are apart by the time that has to be between them. -/
def Apart [Scalar T] (earlier later : Discharge S T) : Prop :=
  ∃ first second, earlier.time? = some first ∧ later.time? = some second ∧
    Controls.cooldown ≤ second - first

/-- Whoever asks can be moved, and holds a key that stands for shooting; and it has something to
shoot. The shot starts where it is. -/
structure Asked (discharge : Discharge S T) (shooter : Actor S T) (template : Spec.Blueprint S) :
    Prop where
  there : discharge.aimed.roster.find? discharge.shot.owner = some shooter
  movable : shooter.movable = true
  holds : ∃ pressed controls key, discharge.keyboard = some pressed ∧
    shooter.controls = some controls ∧ controls.shoot = some key ∧ key ∈ pressed ∧
    controls.projectile = some template
  own : discharge.shot.ownerId = shooter.id
  origin : discharge.shot.origin = shooter.position

/-- The shots under the name of an owner. -/
def under (owner : String) (discharges : List (Discharge S T)) : List (Discharge S T) :=
  discharges.filter fun discharge => discharge.shot.ownerId = owner

variable [Scalar S]

/-- What the making leaves behind. -/
def after (discharge : Discharge S T) : World S T := discharge.found.shootOne discharge.shot

/-- The shooter is still there when the shot is made, where it was; and if its template makes an actor,
a new one is there at that place, with the name of the owner and the number, in the group of shots. -/
structure Lands (discharge : Discharge S T) (template : Spec.Blueprint S) : Prop where
  stays : ∃ shooter, discharge.found.roster.find? discharge.shot.owner = some shooter ∧
    shooter.position = discharge.shot.origin
  comes : ∀ look, template.appearance? = .ok (some look) → ∃ handle copy,
    discharge.found.Copied (World.shotId discharge.shot.ownerId discharge.number)
      World.projectileGroup handle discharge.after ∧
    discharge.after.roster.find? handle = some copy ∧ copy.position = discharge.shot.origin

/-- Each shot is made in the world that the one before it left behind. -/
def Linked : World S T → List (Discharge S T) → World S T → Prop
  | before, [], after => after = before
  | before, discharge :: rest, after =>
    discharge.found = before ∧ Linked discharge.after rest after

end Discharge

/-- Shots as they should be. -/
structure Salvo [Scalar S] [Scalar T] (discharges : List (Discharge S T)) : Prop where
  fair : ∀ discharge ∈ discharges, ∃ shooter template,
    discharge.Asked shooter template ∧ discharge.Lands template
  apart : discharges.Pairwise fun earlier later =>
    earlier.shot.owner = later.shot.owner → earlier.Apart later
  /-- The shots under a name are numbered from zero, in their order and without gaps. -/
  numbered : ∀ owner, (Discharge.under owner discharges).map Discharge.number =
    List.range (Discharge.under owner discharges).length

namespace World

variable [Scalar S]

/-- Shots that are made one after the other. -/
def volley (keyboard : Option (List Key)) (aimed : World S T) :
    List (Shot S) → World S T → List (Discharge S T)
  | [], _ => []
  | shot :: rest, found => ⟨keyboard, aimed, shot, found⟩ :: volley keyboard aimed rest (found.shootOne shot)

variable [Scalar T]

/-- The shots that are noted when actors are driven and then made. -/
def salvo (aimed : World S T) (keyboard : Option (List Key)) : List (Discharge S T) :=
  let armed := aimed.driveControls keyboard
  volley keyboard aimed (armed.shots.getD []) (armed.poised .shots)

/-- The shots of a frame. -/
def discharges [Circular S] [Sampling S] [Rounding T S] (world : World S T)
    (keyboard : Option (List Key)) (delta : T) : List (Discharge S T) :=
  match world.runPhases keyboard delta Phase.controls.earlier with
  | .ok aimed => aimed.salvo keyboard
  | .error _ => []

end World

/-! ### Making one shot -/

namespace World

variable [Scalar S] {world after : World S T} {others : List Handle} {shot : Shot S}
  {template : Spec.Blueprint S}

/-- The owner of a shot is there, where the shot starts, and has something to shoot. -/
def Ready (world : World S T) (shot : Shot S) (template : Spec.Blueprint S) : Prop :=
  ∃ shooter, world.roster.find? shot.owner = some shooter ∧ shooter.weapon? = some template ∧
    shooter.position = shot.origin

omit [Scalar S] in
theorem Ready.armed (ready : world.Ready shot template) : world.Armed shot := by
  obtain ⟨shooter, found, weapon, -⟩ := ready
  refine ⟨shooter.identity, ?_, ?_⟩
  · rw [Roster.who?, found]
    rfl
  · rw [Actor.identity, weapon]
    rfl

/-- Whoever is ready for a shot is so while others are made. -/
theorem Ready.shootOne (ready : world.Ready shot template) (good : world.Sound others)
    (other : Shot S) : (world.shootOne other).Ready shot template := by
  obtain ⟨who, known, -⟩ := ready.armed.course good (course_shootOne good other)
  obtain ⟨shooter, found, weapon, place⟩ := ready
  obtain ⟨later, there, -⟩ := Option.map_eq_some_iff.mp known
  have issued : world.Issued others shot.owner := issued_of_found found
  let view (actor : Actor S T) := (actor.weapon?, actor.position)
  have seen {before after : Actor S T} (calm : Actor.Calm before after) : view after = view before := by
    simp only [view, Actor.weapon?, calm.controls, calm.position]
  rcases (stirs_shootOne world other).aspect? (fun _ _ => seen) good issued with gone | same
  · rw [there] at gone
    cases gone
  · rw [aspect?, aspect?, there, found] at same
    obtain ⟨sameWeapon, samePlace⟩ := Prod.mk.inj (Option.some.inj same)
    exact ⟨later, there, sameWeapon.trans weapon, samePlace.trans place⟩

/-- A shot whose owner is ready takes a number under its name. -/
theorem shotCount_shootOne (ready : world.Ready shot template) (owner : String) :
    (world.shootOne shot).books.shotCount owner =
      world.books.shotCount owner + if shot.ownerId = owner then 1 else 0 := by
  obtain ⟨shooter, found, weapon, -⟩ := ready
  let counted := world.withRegistry fun registry => registry.countShot shot.ownerId
  have numbered : counted.books.shotCount owner =
      world.books.shotCount owner + if shot.ownerId = owner then 1 else 0 :=
    Registry.shotCount_countShot _ _ _
  have kept {before after : World S T} (told : Books.Runs Entry.OfNews before.books after.books) :
      after.books.shotCount owner = before.books.shotCount owner := by
    rw [told.told]
    rfl
  have shoots : ((world.roster.find? shot.owner).bind fun actor =>
      actor.controls.bind (·.projectile)) = some template := by
    rw [found]
    exact weapon
  rw [← numbered]
  simp only [World.shootOne, shoots]
  split
  · rename_i handle made created
    have told := (runs_create created).trans (runs_adopt made handle projectileGroup)
    rw [told.told]
    rfl
  · rename_i made created
    rw [books_createGroup created]
  · exact kept (runs_report _ _)

/-- A shot whose template makes an actor makes it where the shot starts. -/
theorem lands_shootOne (good : world.Sound others) (ready : world.Ready shot template)
    {look : Appearance S} (appears : template.appearance? = .ok (some look)) :
    ∃ handle copy,
      world.Copied (shotId shot.ownerId (world.books.shotCount shot.ownerId)) projectileGroup handle
        (world.shootOne shot) ∧
      (world.shootOne shot).roster.find? handle = some copy ∧ copy.position = shot.origin := by
  obtain ⟨shooter, found, weapon, -⟩ := ready
  let number := world.books.shotCount shot.ownerId
  let counted := world.withRegistry fun registry => registry.countShot shot.ownerId
  have sound : counted.Sound others := good
  have cases := counted.create_cases template (shotId shot.ownerId number) shot.origin
  rw [appears] at cases
  obtain ⟨handle, made, created⟩ := cases
  have shoots : ((world.roster.find? shot.owner).bind fun actor =>
      actor.controls.bind (·.projectile)) = some template := by
    rw [found]
    exact weapon
  have result : world.shootOne shot = made.adopt handle projectileGroup := by
    have named : (world.registry.getD .empty).shotCount shot.ownerId = number := rfl
    simp only [World.shootOne, shoots, named]
    rw [created]
  rw [result]
  obtain ⟨look, -, welcomes⟩ := welcomes_create sound created
  let copy : Actor S T := template.newcomer counted.keys look handle (shotId shot.ownerId number) shot.origin
  have arrived : made.roster.find? handle = some copy := by
    rw [welcomes handle, if_pos rfl]
  have adopted : (made.adopt handle projectileGroup).roster.find? handle =
      some { copy with group := some projectileGroup, transient := true } := by
    have madeSound := (made_create sound created).sound sound
    simp only [adopt, arrived, emit, withRegistry]
    rw [Roster.find?_update madeSound.distinct, if_pos rfl, arrived, Option.map_some]
    exact fun _ => rfl
  exact ⟨handle, _, (copied_adopt sound created projectileGroup).of_roster rfl, adopted, rfl⟩

end World

/-! ### Making all shots -/

namespace World

variable [Scalar S] {aimed found world after : World S T} {others : List Handle}
  {keyboard : Option (List Key)} {shots : List (Shot S)}

theorem map_shot_volley (keyboard : Option (List Key)) (aimed : World S T) (shots : List (Shot S))
    (found : World S T) : (volley keyboard aimed shots found).map (·.shot) = shots := by
  induction shots generalizing found with
  | nil => rfl
  | cons shot rest ih => rw [volley, List.map_cons, ih]

theorem linked_volley (keyboard : Option (List Key)) (aimed : World S T) (shots : List (Shot S))
    (found : World S T) :
    Discharge.Linked found (volley keyboard aimed shots found) (shots.foldl shootOne found) := by
  induction shots generalizing found with
  | nil => rfl
  | cons shot rest ih => exact ⟨rfl, ih _⟩

/-- All shots land whose owners are ready. -/
theorem fair_volley (good : found.Sound others)
    (ready : ∀ shot ∈ shots, ∃ shooter template, found.Ready shot template ∧
      ∀ later, Discharge.Asked ⟨keyboard, aimed, shot, later⟩ shooter template) :
    ∀ discharge ∈ volley keyboard aimed shots found, ∃ shooter template,
      discharge.Asked shooter template ∧ discharge.Lands template := by
  induction shots generalizing found with
  | nil =>
    intro discharge never
    cases never
  | cons shot rest ih =>
    rw [volley, List.forall_mem_cons]
    rw [List.forall_mem_cons] at ready
    obtain ⟨⟨shooter, template, armed, asked⟩, ready⟩ := ready
    have lands : Discharge.Lands ⟨keyboard, aimed, shot, found⟩ template := by
      constructor
      · obtain ⟨there, known, -, place⟩ := armed
        exact ⟨there, known, place⟩
      · exact fun look appears => lands_shootOne good armed appears
    constructor
    · exact ⟨shooter, template, asked found, lands⟩
    · refine ih ((course_shootOne good shot).sound good) fun other member => ?_
      obtain ⟨shooter, template, armed, asked⟩ := ready other member
      exact ⟨shooter, template, armed.shootOne good shot, asked⟩

/-- The shots under a name take the next numbers. -/
theorem numbered_volley (keyboard : Option (List Key)) (aimed : World S T) (good : found.Sound others)
    (ready : ∀ shot ∈ shots, ∃ template, found.Ready shot template) (owner : String) :
    let shot := Discharge.under owner (volley keyboard aimed shots found)
    shot.map Discharge.number = List.range' (found.books.shotCount owner) shot.length ∧
      (shots.foldl shootOne found).books.shotCount owner =
        found.books.shotCount owner + shot.length := by
  induction shots generalizing found with
  | nil => exact ⟨rfl, rfl⟩
  | cons shot rest ih =>
    rw [List.forall_mem_cons] at ready
    obtain ⟨⟨template, armed⟩, ready⟩ := ready
    have counted := shotCount_shootOne armed owner
    have later : ∀ other ∈ rest, ∃ template, (found.shootOne shot).Ready other template := by
      intro other member
      obtain ⟨template, armed⟩ := ready other member
      exact ⟨template, armed.shootOne good shot⟩
    obtain ⟨numbers, total⟩ := ih ((course_shootOne good shot).sound good) later
    rw [counted] at numbers total
    simp only [volley, Discharge.under, List.filter_cons, List.foldl_cons] at numbers total ⊢
    by_cases own : shot.ownerId = owner
    · rw [if_pos own] at numbers total
      rw [if_pos (decide_eq_true own)]
      constructor
      · rw [List.map_cons, List.length_cons, List.range'_succ, numbers]
        exact congrArg (· :: _) (congrArg found.books.shotCount own)
      · rw [total, List.length_cons]
        omega
    · rw [if_neg own] at numbers total
      rw [if_neg (by simpa using own)]
      exact ⟨numbers, total⟩

end World

/-! ### Asking for shots -/

/-- Under the controls an actor remembers a shot, and this one is it or was long enough before it. -/
def Discharge.Remembered [Scalar T] (discharge : Discharge S T) (controls : Option (Controls S T)) :
    Prop :=
  ∃ bound last time, controls = some bound ∧ bound.lastShot = some last ∧
    discharge.time? = some time ∧ (last = time ∨ Controls.cooldown ≤ last - time)

section

variable [Scalar S] [Scalar T] {aimed world after : World S T} {others : List Handle}
  {keyboard : Option (List Key)} {pressed : List Key} {now : T} {actor : Actor S T} {shot : Shot S}
  {discharge : Discharge S T} {past : List (Discharge S T)}

/-- Who asks for a shot remembers it; the others remember what they did. -/
theorem World.controls_driven (pressed : List Key) (now : T) (actor : Actor S T) :
    (driven pressed now actor).controls =
      if triggers pressed now actor then
        actor.controls.map fun controls => { controls with lastShot := some now }
      else actor.controls := by
  unfold driven
  split
  · rename_i body controls has bound
    split
    · rw [bound]
      split <;> rfl
    · rename_i fixed
      have idle : triggers pressed now actor = false := by
        rw [triggers, Actor.movable_eq has, Bool.eq_false_iff.mpr fixed, Bool.false_and]
      rw [idle, if_neg Bool.false_ne_true]
  · rename_i nothing
    have idle : triggers pressed now actor = false := by
      cases has : actor.body with
      | none => rw [triggers, Actor.movable, has, Option.any_none, Bool.false_and]
      | some body =>
        cases bound : actor.controls with
        | none => rw [triggers, bound, Option.any_none, Bool.and_false]
        | some controls => exact (nothing body controls has bound).elim
    rw [idle, if_neg Bool.false_ne_true]

omit [Scalar S] in
/-- Who asks for a shot waited long enough since each shot that it made. -/
theorem Discharge.Remembered.waited (patient : Patient (Controls.cooldown : T))
    (remembered : discharge.Remembered actor.controls)
    (asks : World.triggers pressed now actor = true) :
    ∃ time, discharge.time? = some time ∧ Controls.cooldown ≤ now - time := by
  obtain ⟨bound, last, time, known, shot, made, since⟩ := remembered
  simp only [World.triggers, known, Option.any_some, Bool.and_eq_true] at asks
  have waited := asks.2.2
  simp only [Controls.canShoot, shot, decide_eq_true_eq] at waited
  refine ⟨time, made, ?_⟩
  rcases since with rfl | before
  · exact waited
  · exact patient time last now before waited

theorem Discharge.Remembered.driven (patient : Patient (Controls.cooldown : T))
    (remembered : discharge.Remembered actor.controls) :
    discharge.Remembered (World.driven pressed now actor).controls := by
  rw [World.controls_driven]
  split
  · rename_i asks
    obtain ⟨time, made, waited⟩ := remembered.waited patient asks
    obtain ⟨bound, last, -, known, -⟩ := remembered
    rw [known]
    exact ⟨_, now, time, rfl, rfl, made, .inr waited⟩
  · exact remembered

namespace World

/-- Whoever asks for a shot asks under the held keys, and says who it is and where. -/
theorem exists_of_asked (good : aimed.Sound others) (unasked : aimed.Unasked)
    (asked : shot ∈ (aimed.driveControls keyboard).shots.getD []) :
    ∃ pressed clock shooter, keyboard = some pressed ∧ aimed.clock = some clock ∧
      aimed.roster.find? shot.owner = some shooter ∧
      triggers pressed clock.now shooter = true ∧
      shot = ⟨shooter.handle, shooter.id, shooter.position⟩ ∧
      (aimed.driveControls keyboard).roster = aimed.roster.map (driven pressed clock.now) := by
  unfold driveControls at asked ⊢
  split at asked
  · rename_i pressed clock shots running queued
    have empty : shots = [] := by simpa [Unasked, scenery, queued] using unasked
    subst empty
    obtain ⟨shooter, present, asks⟩ := List.mem_filterMap.mp asked
    unfold shot? at asks
    split at asks
    · rename_i triggers
      cases asks
      have found := (Roster.find?_eq_some_iff good.distinct).mpr ⟨present, rfl⟩
      exact ⟨pressed, clock, shooter, rfl, running, found, triggers, rfl, rfl⟩
    · cases asks
  · have empty : aimed.shots.getD [] = [] := unasked
    rw [empty] at asked
    cases asked

/-- In one frame nobody asks twice. -/
theorem nodup_asked (good : aimed.Sound others) (unasked : aimed.Unasked)
    (keyboard : Option (List Key)) :
    (((aimed.driveControls keyboard).shots.getD []).map (·.owner)).Nodup := by
  unfold driveControls
  split
  · rename_i pressed clock shots _ queued
    have empty : shots = [] := by simpa [Unasked, scenery, queued] using unasked
    subst empty
    have own (actors : List (Actor S T)) :
        ((actors.filterMap (shot? pressed clock.now)).map (·.owner)).Sublist
          (actors.map (·.handle)) := by
      induction actors with
      | nil => exact .slnil
      | cons actor rest ih =>
        rw [List.filterMap_cons]
        unfold shot?
        split
        · exact ih.cons _
        · rename_i shot asks
          split at asks
          · cases asks
            exact ih.cons_cons _
          · cases asks
    exact good.distinct.sublist (own aimed.roster.actors)
  · have empty : aimed.shots.getD [] = [] := unasked
    rw [empty]
    exact List.nodup_nil

/-- Whoever asked is ready when its shot is made. -/
theorem ready_of_asked (good : aimed.Sound others) (unasked : aimed.Unasked)
    (asked : shot ∈ (aimed.driveControls keyboard).shots.getD []) :
    ∃ shooter template, ((aimed.driveControls keyboard).poised .shots).Ready shot template ∧
      ∀ found, Discharge.Asked ⟨keyboard, aimed, shot, found⟩ shooter template := by
  obtain ⟨pressed, clock, shooter, held, -, there, asks, rfl, roster⟩ :=
    exists_of_asked good unasked asked
  have gentle := Actor.gentle_driven pressed clock.now shooter
  have keeps := (keeps_driven pressed clock.now shooter).2
  simp only [triggers, Bool.and_eq_true, Option.any_eq_true] at asks
  obtain ⟨movable, controls, bound, ⟨pulls, loaded⟩, -⟩ := asks
  obtain ⟨template, loaded⟩ := Option.isSome_iff_exists.mp loaded
  obtain ⟨key, means, within⟩ := (Option.any_eq_true _ _).mp pulls
  refine ⟨shooter, template, ⟨driven pressed clock.now shooter, ?_, ?_, gentle.position⟩, ?_⟩
  · change (aimed.driveControls keyboard).roster.find? shooter.handle = _
    rw [roster, Roster.find?_map fun actor => (keeps_driven pressed clock.now actor).1, there]
    rfl
  · have weapon := congrArg Identity.weapon keeps
    refine weapon.trans ?_
    rw [Actor.identity, Actor.weapon?, bound]
    exact loaded
  · exact fun found => ⟨there, movable, ⟨pressed, controls, key, held, bound, means,
      by simpa using within, loaded⟩, rfl, rfl⟩

end World

end

/-! ### A game -/

/-- What is known of shots as long as a game is played. -/
structure Loaded [Scalar S] [Scalar T] (past : List (Discharge S T)) (world : World S T) : Prop where
  salvo : Salvo past
  queue : world.Unasked
  counts : ∀ owner, (Discharge.under owner past).length = world.books.shotCount owner
  owners : ∀ discharge ∈ past, discharge.shot.owner ∈ world.births.map (·.handle)
  /-- Whoever made a shot and is still there remembers one at least as late. -/
  memory : ∀ discharge ∈ past, ∀ actor, world.roster.find? discharge.shot.owner = some actor →
    discharge.Remembered actor.controls

variable [Scalar S] [Scalar T] {world after aimed : World S T} {others : List Handle}
  {session : Session} {keyboard : Option (List Key)} {delta : T} {past : List (Discharge S T)}

namespace World

omit [Scalar T] in
theorem mem_volley {discharge : Discharge S T} {shots : List (Shot S)} {found : World S T}
    (member : discharge ∈ volley keyboard aimed shots found) :
    (discharge.keyboard = keyboard ∧ discharge.aimed = aimed) ∧ discharge.shot ∈ shots := by
  induction shots generalizing found with
  | nil => cases member
  | cons shot rest ih =>
    rcases List.mem_cons.mp member with rfl | later
    · exact ⟨⟨rfl, rfl⟩, List.mem_cons_self⟩
    · exact (ih later).imp_right (List.mem_cons_of_mem _)

/-- The shots of a frame, and those before them, are as they should be. -/
theorem salvo_append (patient : Patient (Controls.cooldown : T)) (loaded : Loaded past aimed)
    (good : aimed.Sound others) (keyboard : Option (List Key)) :
    Salvo (past ++ aimed.salvo keyboard) := by
  let armed := aimed.driveControls keyboard
  have sound : (armed.poised .shots).Sound others := (course_driveControls aimed keyboard).sound good
  have ready : ∀ shot ∈ armed.shots.getD [], _ :=
    fun shot asked => ready_of_asked good loaded.queue asked
  constructor
  · intro discharge member
    rcases List.mem_append.mp member with old | new
    · exact loaded.salvo.fair discharge old
    · exact fair_volley sound ready discharge new
  · refine List.pairwise_append.mpr ⟨loaded.salvo.apart, ?_, ?_⟩
    · -- in one frame no actor shoots twice
      have owners := nodup_asked good loaded.queue keyboard
      rw [← map_shot_volley keyboard aimed (armed.shots.getD []) (armed.poised .shots),
        List.map_map] at owners
      exact (List.pairwise_map.mp owners).imp fun different same => absurd same different
    · intro earlier old later new same
      obtain ⟨⟨-, when_⟩, asked⟩ := mem_volley new
      obtain ⟨pressed, clock, shooter, -, running, there, asks, -⟩ :=
        exists_of_asked good loaded.queue asked
      rw [← same] at there
      obtain ⟨time, made, waited⟩ := (loaded.memory earlier old shooter there).waited patient asks
      refine ⟨time, clock.now, made, ?_, waited⟩
      rw [Discharge.time?, when_, running]
      rfl
  · intro owner
    have numbers := (numbered_volley keyboard aimed sound (fun shot asked => by
      obtain ⟨-, template, armed, -⟩ := ready shot asked
      exact ⟨template, armed⟩) owner).1
    have before : (armed.poised .shots).books.shotCount owner =
        (Discharge.under owner past).length := by
      rw [loaded.counts owner]
      exact congrArg (Books.shotCount · owner) (books_driveControls aimed keyboard)
    have split : Discharge.under owner (past ++ aimed.salvo keyboard) =
        Discharge.under owner past ++ Discharge.under owner (aimed.salvo keyboard) :=
      List.filter_append ..
    rw [split, List.map_append, List.length_append, List.range_add, loaded.salvo.numbered owner,
      ← List.range'_eq_map_range, ← before]
    exact congrArg _ numbers

end World

/-- But for driving nothing changes the controls of an actor. -/
theorem Phase.spares_controls {phase : Phase} (other : phase ≠ .controls) :
    phase.Spares fun actor : Actor S T => actor.controls := by
  cases phase with
  | controls => exact absurd rfl other
  | behaviors =>
    intro actor velocity
    unfold Actor.withVelocity
    split <;> rfl
  | movement =>
    intro arena seconds actor
    unfold Actor.integrated
    split
    · rfl
    · split <;> rfl
  | contacts =>
    intro actor push
    unfold Actor.pushed
    split <;> rfl
  | _ => exact fun _ _ calm => calm.controls

variable [Circular S] [Sampling S] [Rounding T S]

namespace Loaded

/-- The other parts of a frame have nothing to do with shots. -/
theorem runPhase (loaded : Loaded past world) (lived : world.Lived others)
    (playing : world.playing = some session) {phase : Phase} (driving : phase ≠ .controls)
    (shooting : phase ≠ .shots) (done : world.runPhase keyboard delta phase = .ok after) :
    Loaded past after where
  salvo := loaded.salvo
  queue := loaded.queue.runPhase lived.sound driving done
  counts owner := by
    have same : after.books.shots = world.books.shots := by
      refine (World.runs_runPhase done).same Books.shots fun books entry allowed => ?_
      cases phase with
      | shots => exact absurd rfl shooting
      | clock =>
        cases allowed
        rfl
      | spawners =>
        rcases allowed with allowed | ⟨nests, rfl⟩
        · cases entry <;> first | exact allowed.elim | simp only [Books.enter]
        · rfl
      | _ => cases entry <;> first | exact allowed.elim | simp only [Books.enter]
    rw [Books.shotCount, same]
    exact loaded.counts owner
  owners discharge member := (World.runs_runPhase done).mem_births (loaded.owners discharge member)
  memory discharge member :=
    World.known_of_aspect? (World.aspect?_runPhase (Phase.spares_controls driving) done lived.sound
      (World.Lived.issued_of_born lived playing (loaded.owners discharge member)))
      (loaded.memory discharge member)

theorem runPhases (loaded : Loaded past world) (lived : world.Lived others)
    (playing : world.playing = some session) {phases : List Phase}
    (apart : .controls ∉ phases ∧ .shots ∉ phases)
    (done : world.runPhases keyboard delta phases = .ok after) : Loaded past after := by
  refine World.Lived.keeps_runPhases (fun member lived playing loaded done => ?_) lived playing loaded
    done
  exact loaded.runPhase lived playing (ne_of_mem_of_not_mem member apart.1)
    (ne_of_mem_of_not_mem member apart.2) done

end Loaded

namespace Loaded

omit [Circular S] [Sampling S] [Rounding T S]

/-- Whoever is driven remembers its shots. -/
theorem driven (patient : Patient (Controls.cooldown : T)) (loaded : Loaded past aimed)
    (keyboard : Option (List Key)) {discharge : Discharge S T} (member : discharge ∈ past)
    {actor : Actor S T}
    (found : (aimed.driveControls keyboard).roster.find? discharge.shot.owner = some actor) :
    discharge.Remembered actor.controls := by
  unfold World.driveControls at found
  split at found
  · rename_i pressed clock shots _ _
    rw [Roster.find?_map fun actor => (World.keeps_driven pressed clock.now actor).1] at found
    obtain ⟨earlier, there, rfl⟩ := Option.map_eq_some_iff.mp found
    exact (loaded.memory discharge member earlier there).driven patient
  · exact loaded.memory discharge member actor found

/-- Whoever asks for a shot remembers it from then on. -/
theorem asked (loaded : Loaded past aimed) (good : aimed.Sound others) {discharge : Discharge S T}
    (member : discharge ∈ aimed.salvo keyboard) :
    ∃ shooter actor, aimed.roster.find? discharge.shot.owner = some shooter ∧
      (aimed.driveControls keyboard).roster.find? discharge.shot.owner = some actor ∧
      discharge.Remembered actor.controls := by
  obtain ⟨⟨-, before⟩, noted⟩ := World.mem_volley member
  obtain ⟨pressed, clock, shooter, -, running, there, asks, -, roster⟩ :=
    World.exists_of_asked good loaded.queue noted
  refine ⟨shooter, World.driven pressed clock.now shooter, there, ?_, ?_⟩
  · rw [roster, Roster.find?_map fun actor => (World.keeps_driven pressed clock.now actor).1, there]
    rfl
  · rw [World.controls_driven, if_pos asks]
    simp only [World.triggers, Bool.and_eq_true, Option.any_eq_true] at asks
    obtain ⟨-, controls, bound, -⟩ := asks
    refine ⟨{ controls with lastShot := some clock.now }, clock.now, clock.now, ?_, rfl, ?_, .inl rfl⟩
    · rw [bound]
      rfl
    · rw [Discharge.time?, before, running]
      rfl

end Loaded

/-- All shots that are asked for in a frame are made in it. -/
theorem Loaded.fired (patient : Patient (Controls.cooldown : T)) (loaded : Loaded past aimed)
    (lived : aimed.Lived others) (playing : aimed.playing = some session)
    (keyboard : Option (List Key)) :
    Loaded (past ++ aimed.salvo keyboard) (aimed.driveControls keyboard).fireShots := by
  have good : aimed.Sound others := lived.sound
  have books := World.books_driveControls aimed keyboard
  have course := World.course_driveControls aimed keyboard
  have sound : (aimed.driveControls keyboard).Sound others := course.sound good
  have owners : ∀ discharge ∈ past ++ aimed.salvo keyboard,
      discharge.shot.owner ∈ (aimed.driveControls keyboard).births.map (·.handle) := by
    have births : (aimed.driveControls keyboard).births = aimed.births :=
      congrArg Books.births books
    rw [births]
    intro discharge member
    rcases List.mem_append.mp member with old | new
    · exact loaded.owners discharge old
    · obtain ⟨shooter, -, there, -⟩ := loaded.asked good new
      refine World.Lived.born_of_alive lived playing ?_
      rw [World.alive, Roster.contains, there]
      rfl
  constructor
  · exact World.salvo_append patient loaded good keyboard
  · exact World.unasked_fireShots sound
  · intro owner
    have ready : ∀ shot ∈ (aimed.driveControls keyboard).shots.getD [], ∃ template,
        ((aimed.driveControls keyboard).poised .shots).Ready shot template := by
      intro shot asked
      obtain ⟨-, template, armed, -⟩ := World.ready_of_asked good loaded.queue asked
      exact ⟨template, armed⟩
    have poised : ((aimed.driveControls keyboard).poised .shots).Sound others := sound
    have total := (World.numbered_volley keyboard aimed poised ready owner).2
    rw [World.fireShots_eq_foldl, total, Discharge.under, List.filter_append, List.length_append]
    exact congrArg (· + _) ((loaded.counts owner).trans (congrArg (Books.shotCount · owner) books).symm)
  · intro discharge member
    exact (World.runs_fireShots _).mem_births (owners discharge member)
  · intro discharge member
    have driving : aimed.runPhase keyboard 0 .controls = .ok (aimed.driveControls keyboard) := rfl
    have lives : (aimed.driveControls keyboard).Lived others := World.Lived.phase lived playing driving
    have still : (aimed.driveControls keyboard).playing = some session :=
      course.scene.playing.trans playing
    -- making shots leaves alone what others remember
    refine World.known_of_aspect? ((World.stirs_fireShots _).aspect? (fun _ _ calm => calm.controls)
      sound (World.Lived.issued_of_born lives still (owners discharge member))) fun actor found => ?_
    rcases List.mem_append.mp member with old | new
    · exact loaded.driven patient keyboard old found
    · obtain ⟨-, there, -, known, remembered⟩ := loaded.asked good new
      rw [known] at found
      cases found
      exact remembered

namespace World

/-- When a game starts nobody has made a shot. -/
theorem loaded_playScene (lived : world.Lived others) (spec : Spec S) (scene : Spec.Scene S)
    (seed : Option Nat) : Loaded [] (world.playScene spec scene seed).2 where
  salvo := ⟨by simp, .nil, fun _ => rfl⟩
  queue := rest_unasked.start spec scene seed lived
  counts owner := by
    rw [Books.shotCount, (opened_playScene world spec scene seed).shots]
    rfl
  owners := by simp
  memory := by simp

end World

/-- Before actors are driven a frame only lets time pass. -/
theorem Loaded.advanced (loaded : Loaded past world) (lived : world.Lived others)
    (playing : world.playing = some session) (keyboard : Option (List Key)) (delta : T) :
    ∃ aimed, world.runPhases keyboard delta Phase.controls.earlier = .ok aimed ∧
      Loaded past aimed ∧ aimed.Lived others ∧ aimed.playing = some session := by
  have ticking : world.runPhases keyboard delta Phase.controls.earlier =
      .ok (world.advanceClock delta) := rfl
  obtain ⟨lives, still⟩ := World.Lived.phases lived playing ticking
  exact ⟨_, ticking, loaded.runPhases lived playing (by decide) ticking, lives, still⟩

/-- After the shots of a frame were made no other is asked for in it. -/
theorem Loaded.step (patient : Patient (Controls.cooldown : T)) (loaded : Loaded past world)
    (lived : world.Lived others) (playing : world.playing = some session)
    (done : world.step keyboard delta = .ok after) :
    Loaded (past ++ world.discharges keyboard delta) after := by
  obtain ⟨aimed, ticking, loaded, lives, still⟩ := loaded.advanced lived playing keyboard delta
  rw [World.step, playing] at done
  obtain ⟨clocked, first, done⟩ := bind_eq_ok done
  obtain ⟨driven, second, done⟩ := bind_eq_ok done
  obtain ⟨shot, third, done⟩ := bind_eq_ok done
  have same : clocked = aimed := Except.ok.inj (first.symm.trans ticking)
  subst same
  cases second
  cases third
  have shooting : clocked.runPhases keyboard delta [.controls, .shots] =
      .ok (clocked.driveControls keyboard).fireShots := rfl
  obtain ⟨lives', still'⟩ := World.Lived.phases lives still shooting
  rw [World.discharges, ticking]
  exact (loaded.fired patient lives still keyboard).runPhases lives' still' (by decide) done

/-- The shots of a game are as they should be as long as it is played. -/
theorem World.saga_discharges (patient : Patient (Controls.cooldown : T)) (session : Session) :
    Saga World.discharges session (Loaded (S := S) (T := T)) Salvo where
  blank := ⟨by simp, .nil, fun _ => rfl⟩
  start lived _ _ _ := World.loaded_playScene lived _ _ _
  camera _ loaded := ⟨loaded.salvo, loaded.queue, loaded.counts, loaded.owners, loaded.memory⟩
  draw {past others world after pictures} lived loaded done := by
    have books := World.books_draw done
    have births : after.births = world.births := congrArg Books.births books
    refine ⟨loaded.salvo, World.rest_unasked.draw lived loaded.queue done, ?_, ?_, ?_⟩
    · rw [books]
      exact loaded.counts
    · rw [births]
      exact loaded.owners
    · intro discharge member
      let view (actor : Actor S T) := actor.controls
      have bare (actor : Actor S T) : view actor.undrawn = view actor := rfl
      have seen := congrFun (World.sameAspect_draw bare lived.sound done) discharge.shot.owner
      exact World.known_of_aspect? (.inr seen) (loaded.memory discharge member)
  frame {past others world} keyboard delta lived playing loaded := by
    obtain ⟨aimed, ticking, loaded, lives, -⟩ := loaded.advanced lived playing keyboard delta
    rw [World.discharges, ticking]
    exact World.salvo_append patient loaded lives.sound keyboard
  step lived playing loaded done := loaded.step patient lived playing done

/-! ### One frame -/

/-- The shots that are asked for when actors are driven are made at once, one after the other from the
world in which they have left their queue, and what the last one leaves behind is what there is
afterwards. No other is asked for until the frame ends. -/
structure World.ShootsAtOnce (world : World S T) (keyboard : Option (List Key)) (delta : T) : Prop where
  rests : world.shots = some []
  shoots : ∃ aimed, world.runPhases keyboard delta Phase.controls.earlier = .ok aimed ∧
    ∃ driven fired, aimed.runPhase keyboard delta .controls = .ok driven ∧
      driven.runPhase keyboard delta .shots = .ok fired ∧
      driven.shots = some ((world.discharges keyboard delta).map (·.shot)) ∧
      (∀ discharge ∈ world.discharges keyboard delta,
        discharge.keyboard = keyboard ∧ discharge.aimed = aimed) ∧
      Discharge.Linked { driven with shots := some [] } (world.discharges keyboard delta) fired ∧
      fired.shots = some [] ∧
      ∀ phases later, .controls ∉ phases → fired.runPhases keyboard delta phases = .ok later →
        later.shots = some []

/-- As long as a game is played there is a queue for shots. -/
theorem World.shots_of_playing (lived : world.Lived others) (playing : world.playing = some session) :
    world.shots = some (world.shots.getD []) := by
  have working : world.shots.isSome = true := World.Lived.hasPart lived playing .shots
  obtain ⟨shots, queued⟩ := Option.isSome_iff_exists.mp working
  rw [queued, Option.getD_some]

theorem World.shots_of_unasked (lived : world.Lived others) (playing : world.playing = some session)
    (unasked : world.Unasked) : world.shots = some [] :=
  (World.shots_of_playing lived playing).trans (congrArg some unasked)

theorem Loaded.shootsAtOnce (loaded : Loaded past world) (lived : world.Lived others)
    (playing : world.playing = some session) (keyboard : Option (List Key)) (delta : T) :
    world.ShootsAtOnce keyboard delta := by
  refine ⟨World.shots_of_unasked lived playing loaded.queue, ?_⟩
  obtain ⟨aimed, ticking, loaded, lives, still⟩ := loaded.advanced lived playing keyboard delta
  have driving : aimed.runPhases keyboard delta [.controls] = .ok (aimed.driveControls keyboard) := rfl
  obtain ⟨drivenLives, drivenStill⟩ := World.Lived.phases lives still driving
  have shooting : (aimed.driveControls keyboard).runPhases keyboard delta [.shots] =
      .ok (aimed.driveControls keyboard).fireShots := rfl
  obtain ⟨firedLives, firedStill⟩ :=
    World.Lived.phases drivenLives drivenStill shooting
  have empty : (aimed.driveControls keyboard).fireShots.Unasked :=
    World.unasked_fireShots (World.Lived.sound drivenLives)
  have working := World.shots_of_playing drivenLives drivenStill
  refine ⟨aimed, ticking, _, _, rfl, rfl, ?_, ?_, ?_,
    World.shots_of_unasked firedLives firedStill empty, ?_⟩
  · rw [World.discharges, ticking]
    have queued := World.map_shot_volley keyboard aimed
      ((aimed.driveControls keyboard).shots.getD []) ((aimed.driveControls keyboard).poised .shots)
    exact working.trans (congrArg some queued.symm)
  · rw [World.discharges, ticking]
    exact fun discharge member => (World.mem_volley member).1
  · have poised : (aimed.driveControls keyboard).poised .shots =
        { aimed.driveControls keyboard with shots := some [] } := by
      rw [World.poised, working, Option.map_some]
    rw [World.discharges, ticking, World.fireShots_eq_foldl, ← poised]
    exact World.linked_volley keyboard aimed _ _
  · intro phases later apart done
    obtain ⟨laterLives, laterStill⟩ := World.Lived.phases firedLives firedStill done
    exact World.shots_of_unasked laterLives laterStill
      (empty.runPhases (World.Lived.sound firedLives) apart done)

/-- Whatever was done to a cabinet, in each frame of a game, and in the next one whatever keys are held in
it: no shot waits while no frame is under way, and those that are asked for in the frame are made in it,
one after the other. All shots of the game so far were asked for by actors that can be moved, with a key
for it that was held and with something to shoot; two of the same actor have the time between them that is
needed; under each name they are numbered from zero without gaps; and whatever can be made of them came to
be under the name and the number, where the actor was. -/
theorem Cabinet.shoots_in_turn [Rounding Float S] {entropy : Entropy} {watch : Option Watch}
    {pictures : Option Bool} {operations : List (Operation S Float)} {cabinet : Cabinet S Float}
    {session : Session}
    (ran : (new entropy watch (pictures.map Screen.start)).run operations = .ok cabinet)
    (playing : cabinet.world.playing = some session) (keyboard : Option (List Key)) (delta : Float) :
    let frames := (new entropy watch (pictures.map Screen.start)).frames session operations ++
      [⟨cabinet.world, keyboard, delta⟩]
    (∀ frame ∈ frames, frame.world.ShootsAtOnce frame.keyboard frame.delta) ∧
      Salvo (frames.flatMap fun frame => frame.world.discharges frame.keyboard frame.delta) := by
  have patient : Patient (Controls.cooldown : Float) := patient_double (by decide)
  have saga : Saga World.discharges session (Loaded (S := S) (T := Float)) Salvo :=
    World.saga_discharges patient session
  have loaded := saga.held_new ran playing
  have lived : cabinet.world.Lived cabinet.held := alive_of_run ran
  constructor
  · intro frame member
    rcases List.mem_append.mp member with past | next
    · obtain ⟨past, others, lives, still, ready⟩ := saga.holds_of_frame_new past
      exact ready.shootsAtOnce lives still frame.keyboard frame.delta
    · rw [List.mem_singleton.mp next]
      exact loaded.shootsAtOnce lived playing keyboard delta
  · rw [List.flatMap_append, ← chronicle_eq_flatMap, List.flatMap_singleton]
    exact saga.frame keyboard delta lived playing loaded

namespace Sample

/-- Two gunners of one name. -/
def duel : Spec Float32 :=
  { spec with scenes := [⟨"main", [gunner "hero", { gunner "hero" with x := 300 }], none⟩] }

/-- Space is held for three frames. -/
def firing : List (Operation Float32 Float) :=
  [.start duel .default, .step (some [.space]) 25, .step (some [.space]) 100,
    .step (some [.space]) 100]

end Sample

/-- Both shoot in the first frame, and again in the third; between these frames they wait. -/
theorem Cabinet.shoots_in_turn_duel :
    ∃ (cabinet : Cabinet Float32 Float) (session : Session),
      (new Sample.entropy none (Option.map Screen.start none)).run Sample.firing = .ok cabinet ∧
        cabinet.world.playing = some session ∧
        let frames := (new Sample.entropy none (Option.map Screen.start none)).frames session
          Sample.firing ++ [⟨cabinet.world, some [.space], 25⟩]
        let discharges := frames.flatMap fun frame =>
          frame.world.discharges frame.keyboard frame.delta
        discharges.map (fun discharge => (discharge.shot.ownerId, discharge.number)) =
            [("hero", 0), ("hero", 1), ("hero", 2), ("hero", 3)] ∧
          (∀ frame ∈ frames, frame.world.ShootsAtOnce frame.keyboard frame.delta) ∧
          Salvo discharges := by
  have fine : ((new Sample.entropy none (Option.map Screen.start none) : Cabinet Float32 Float).run
      Sample.firing).toOption.any (fun cabinet =>
        cabinet.world.playing.any fun session =>
          let frames := (new Sample.entropy none (Option.map Screen.start none)).frames session
            Sample.firing ++ [⟨cabinet.world, some [.space], 25⟩]
          decide ((frames.flatMap fun frame =>
            frame.world.discharges frame.keyboard frame.delta).map
              (fun discharge => (discharge.shot.ownerId, discharge.number)) =
                [("hero", 0), ("hero", 1), ("hero", 2), ("hero", 3)])) = true := by decide +kernel
  obtain ⟨cabinet, ran, fine⟩ := exists_ok_of_any fine
  obtain ⟨session, playing, told⟩ := (Option.any_eq_true _ _).mp fine
  exact ⟨cabinet, session, ran, playing, of_decide_eq_true told,
    shoots_in_turn ran playing (some [.space]) 25⟩

end Arcade
