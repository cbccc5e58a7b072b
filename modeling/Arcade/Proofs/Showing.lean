import Arcade.Proofs.Anchorage
import Arcade.Proofs.Mirroring

/-! What is shown is what there is. A drawing is made once, when an actor is first shown; from then on
it follows only what was marked as written since. Whatever is written leaves its mark, so that every
time the world is shown each drawing is what it would be if it were made anew. -/

namespace Arcade

variable {S T : Type}

/-! ### Looks -/

/-- Whether a look shows the text of its actor. -/
def Visual.lettered : Visual S → Bool
  | .text _ _ => true
  | _ => false

variable [Scalar S]

/-- A picture of a look, with its layer, where the text is known and the addresses of sprites are. -/
inductive Visual.Depicted (address? : String → Option String) (text : Option String) :
    Visual S → Picture S → S → Prop
  | rectangle (width height : S) (color : Color) :
      Depicted address? text (.rectangle width height color)
        (.sprite (some color) ⟨width, height⟩ none) 0
  | circle (radius : S) (color : Color) :
      Depicted address? text (.circle radius color) (.mesh radius color) 0
  | text {words : String} (own : text = some words) (size : S) (color : Color) :
      Depicted address? text (.text size color) (.label words size (some color)) 10
  | emoji (symbol : String) (size : S) :
      Depicted address? text (.emoji symbol size) (.label symbol size none) 5
  | sprite {key address : String} (known : address? key = some address) :
      Depicted address? text (.sprite key)
        (.sprite none ⟨Visual.spriteSide, Visual.spriteSide⟩ (some address)) 1
  | placeholder {key : String} (unknown : address? key = none) :
      Depicted address? text (.sprite key)
        (.sprite (some Color.magenta) ⟨Visual.spriteSide, Visual.spriteSide⟩ none) 1

/-- A look is made with a text if it shows one. -/
theorem lettered_of_appearance? {blueprint : Spec.Blueprint S} {look : Appearance S}
    (seen : blueprint.appearance? = .ok (some look)) :
    look.text.isSome = look.visual.lettered := by
  rw [Spec.Blueprint.appearance?] at seen
  cases read : blueprint.payload with
  | error error =>
    rw [read] at seen
    cases seen
  | ok payload =>
    rw [read] at seen
    have looks : payload.appearance? = some look := Except.ok.inj seen
    cases payload <;> cases looks <;> rfl

/-! ### Drawings that follow -/

namespace Actor

variable {draws : Actor S T → Drawing S} {before after actor past : Actor S T}

/-- An actor was not drawn yet, or has the drawing of what it was when it was last drawn and bears the
marks of what was written since. -/
structure Presentable (draws : Actor S T → Drawing S) (actor : Actor S T) : Prop where
  lettered : actor.text.isSome = actor.visual.lettered
  drawn : actor.drawing = none ∨ ∃ past, Marked past actor ∧ actor.drawing = some (draws past)

omit [Scalar S] in
theorem Presentable.marked (presentable : before.Presentable draws) (marked : Marked before after) :
    after.Presentable draws where
  lettered := by rw [marked.lettered, marked.visual, presentable.lettered]
  drawn := by
    rw [marked.drawing]
    rcases presentable.drawn with bare | ⟨past, earlier, same⟩
    · exact .inl bare
    · exact .inr ⟨past, earlier.trans marked, same⟩

omit [Scalar S] in
theorem presentable_of_drawn (lettered : actor.text.isSome = actor.visual.lettered)
    (drawn : actor.drawing = some (draws actor)) : actor.Presentable draws :=
  ⟨lettered, .inr ⟨actor, marked_of_sight rfl, drawn⟩⟩

theorem lenient_marked : World.Lenient (Marked (S := S) (T := T)) where
  gentle gentle := gentle.toMarked
  moves arena seconds actor := by
    unfold integrated
    split
    · exact marked_of_sight rfl
    · split
      · exact ⟨rfl, rfl, rfl, nofun, fun still => ⟨still, rfl⟩⟩
      · exact marked_of_sight rfl
  pushes {actor push} _ := by
    unfold pushed
    split
    · exact ⟨rfl, rfl, rfl, nofun, fun still => ⟨still, rfl⟩⟩
    · exact ⟨rfl, rfl, rfl, nofun, fun still => ⟨still, rfl⟩⟩

end Actor

namespace World

variable {world before after : World S T} {others : List Handle} {pictures : Bool}
  {draws : Actor S T → Drawing S}

/-- The drawing of an actor, made anew. -/
def portrait (world : World S T) (pictures : Bool) (actor : Actor S T) : Drawing S where
  picture := (world.pictured pictures actor).1
  place := Drawing.toWindow actor.position world.extent
  layer := (world.pictured pictures actor).2

theorem portrait_congr (extent : after.extent = before.extent)
    (manifest : after.manifest = before.manifest) (pictures : Bool) :
    after.portrait pictures = before.portrait pictures := by
  funext actor
  have same : after.pictured pictures actor = before.pictured pictures actor := by
    simp only [pictured, picture?, manifest]
  simp only [portrait, same, extent]

/-- Everybody can be shown. -/
def Presentable (draws : Actor S T → Drawing S) (world : World S T) : Prop :=
  ∀ handle actor, world.roster.find? handle = some actor → actor.Presentable draws

omit [Scalar S] in
theorem presentable_of_nobody (nobody : world.roster.actors = []) : world.Presentable draws := by
  intro handle actor found
  rw [Roster.find?, nobody, List.find?_nil] at found
  cases found

/-- Whatever happens to actors who bear marks, they can be shown. -/
theorem Stirs.presentable (stirs : Stirs Actor.Marked before after) (good : before.Sound others)
    (presentable : before.Presentable draws) : after.Presentable draws := by
  induction stirs with
  | beside same =>
    simp only [footing, Prod.mk.injEq] at same
    rw [Presentable, same.2.1]
    exact presentable
  | told source midway =>
    simp only [Presentable, emit]
    exact presentable
  | made made =>
    obtain ⟨look, seen, welcomes⟩ := welcomes_create good made
    intro handle actor found
    rw [welcomes] at found
    split at found
    · cases found
      exact ⟨lettered_of_appearance? seen, .inl rfl⟩
    · exact presentable handle actor found
  | gone world handle =>
    intro other actor found
    rw [find?_destroy good] at found
    split at found
    · cases found
    · exact presentable other actor found
  | changed keeps follows =>
    intro handle later found
    rw [Roster.find?_map keeps] at found
    obtain ⟨actor, known, rfl⟩ := Option.map_eq_some_iff.mp found
    exact (presentable handle actor known).marked (follows handle actor known)
  | updated handle keeps follows =>
    intro other later found
    rw [Roster.find?_update good.distinct keeps] at found
    split at found
    · obtain ⟨actor, known, rfl⟩ := Option.map_eq_some_iff.mp found
      exact (presentable other actor known).marked (follows actor)
    · exact presentable other later found
  | trans first second firstKeeps secondKeeps =>
    exact secondKeeps (first.safe good).1 (firstKeeps good presentable)

/-! ### Drawing -/

/-- Drawings are made one after the other, and each is a portrait. -/
theorem find?_foldl_attachDrawing (good : world.Sound others) (pictures : Bool)
    (handles : List Handle) (sought : Handle) :
    (handles.foldl (attachDrawing pictures) world).roster.find? sought =
      (world.roster.find? sought).map fun actor =>
        if sought ∈ handles then { actor with drawing := some (world.portrait pictures actor) }
        else actor := by
  induction handles generalizing world with
  | nil => simp
  | cons handle rest ih =>
    have next := (safe_attachDrawing world pictures handle good).1
    have first : (world.attachDrawing pictures handle).roster.find? sought =
        if handle = sought then
          (world.roster.find? sought).map fun actor =>
            { actor with drawing := some (world.portrait pictures actor) }
        else world.roster.find? sought := by
      rw [attachDrawing, Roster.find?_update good.distinct]
      · rfl
      · exact fun _ => rfl
    have same : (world.attachDrawing pictures handle).portrait pictures =
        world.portrait pictures := rfl
    rw [List.foldl_cons, ih next, first, same]
    by_cases hit : handle = sought
    · subst hit
      rw [if_pos rfl, Option.map_map]
      refine congrArg (Option.map · _) (funext fun actor => ?_)
      rw [if_pos List.mem_cons_self, Function.comp_apply]
      split
      · rfl
      · rfl
    · have apart : sought ∈ handle :: rest ↔ sought ∈ rest := by
        rw [List.mem_cons, or_iff_right (Ne.symm hit)]
      rw [if_neg hit]
      simp only [apart]

/-- Whoever could be shown has a drawing after those that were missing were made. -/
theorem drawn_attachDrawings (good : world.Sound others)
    (presentable : world.Presentable (world.portrait pictures)) {handle : Handle}
    {actor : Actor S T}
    (found : (world.attachDrawings pictures).roster.find? handle = some actor) :
    actor.text.isSome = actor.visual.lettered ∧
      ∃ past, Actor.Marked past actor ∧ actor.drawing = some (world.portrait pictures past) := by
  rw [attachDrawings, find?_foldl_attachDrawing good] at found
  obtain ⟨before, known, made⟩ := Option.map_eq_some_iff.mp found
  obtain ⟨lettered, drawn⟩ := presentable handle before known
  split at made
  · subst made
    exact ⟨lettered, _, Actor.marked_of_sight rfl, rfl⟩
  · rename_i old
    subst made
    refine ⟨lettered, drawn.resolve_left fun bare => old ?_⟩
    obtain ⟨member, own⟩ := (Roster.find?_eq_some_iff good.distinct).mp known
    refine List.mem_map.mpr ⟨before, List.mem_filter.mpr ⟨member, ?_⟩, own⟩
    rw [bare]
    rfl

omit [Scalar S] in
/-- Whoever has a text has the look of one. -/
theorem visual_of_text {actor : Actor S T} {words : String}
    (lettered : actor.text.isSome = actor.visual.lettered) (own : actor.text = some words) :
    ∃ size color, actor.visual = .text size color := by
  rw [own] at lettered
  cases look : actor.visual with
  | text size color => exact ⟨size, color, rfl⟩
  | _ =>
    rw [look] at lettered
    cases lettered

theorem pictured_of_text {actor : Actor S T} {size : S} {color : Color}
    (look : actor.visual = .text size color) :
    world.pictured pictures actor = (.label (actor.text.getD "") size (some color), 10) := by
  rw [pictured, look]

/-- Without a text the look alone is pictured. -/
theorem pictured_of_textless {past actor : Actor S T} (same : actor.visual = past.visual)
    (lettered : actor.text.isSome = actor.visual.lettered) (silent : actor.text = none) :
    world.pictured pictures past = world.pictured pictures actor := by
  rw [silent] at lettered
  rw [pictured, pictured, ← same]
  cases look : actor.visual with
  | text size color =>
    rw [look] at lettered
    cases lettered
  | _ => rfl

/-- A drawing that followed its actor is the portrait of the actor. -/
theorem drawing_synced {past actor : Actor S T} (lettered : actor.text.isSome = actor.visual.lettered)
    (marked : Actor.Marked past actor) (drawn : actor.drawing = some (world.portrait pictures past)) :
    (synced world.extent actor).drawing = some (world.portrait pictures actor) := by
  have placed : (if actor.moved = true then
        ⟨(world.portrait pictures past).picture, Drawing.toWindow actor.position world.extent,
          (world.portrait pictures past).layer⟩
      else world.portrait pictures past) =
        (⟨(world.pictured pictures past).1, Drawing.toWindow actor.position world.extent,
          (world.pictured pictures past).2⟩ : Drawing S) := by
    split
    · rfl
    · rename_i still
      rw [(marked.moved (Bool.not_eq_true _ ▸ still)).2]
      rfl
  cases text : actor.text with
  | none =>
    simp only [synced, drawn, text, Option.map_some]
    rw [placed, pictured_of_textless marked.visual lettered text]
    rfl
  | some words =>
    obtain ⟨size, color, look⟩ := visual_of_text lettered text
    simp only [synced, drawn, text, Option.map_some]
    rw [placed, portrait, pictured_of_text look, pictured_of_text (marked.visual ▸ look), text]
    split
    · rfl
    · rename_i still
      rw [← (marked.rewritten (Bool.not_eq_true _ ▸ still)).2, text]

/-- An actor has the drawing that would be made of it now. -/
structure Portrayed (world : World S T) (pictures : Bool) (actor : Actor S T) : Prop where
  lettered : actor.text.isSome = actor.visual.lettered
  drawn : actor.drawing = some (world.portrait pictures actor)

/-- How actors are portrayed stays the same when the world is shown. -/
theorem portrait_draw (good : world.Sound others) (done : world.draw pictures = .ok after) :
    after.portrait pictures = world.portrait pictures := by
  obtain ⟨roster, same, -⟩ := drawn_draw good done
  rw [same]
  rfl

theorem extent_attachDrawings (good : world.Sound others) (pictures : Bool) :
    (world.attachDrawings pictures).extent = world.extent := by
  obtain ⟨roster, same, -⟩ := drawn_foldl good pictures
    ((world.roster.actors.filter fun actor => actor.drawing.isNone).map (·.handle))
  rw [attachDrawings, same]
  rfl

/-- A drawing that shows an actor where and as it is. -/
structure Shows (world : World S T) (pictures : Bool) (actor : Actor S T) (drawing : Drawing S) :
    Prop where
  look : actor.visual.Depicted (world.picture? pictures) actor.text drawing.picture drawing.layer
  place : drawing.place =
    ⟨actor.position.x - world.extent.x / 2, world.extent.y / 2 - actor.position.y⟩
  /-- Whoever has a text shows it. -/
  text : ∀ words, actor.text = some words →
    ∃ size color, drawing.picture = .label words size color

theorem Portrayed.shows {actor : Actor S T} (portrayed : world.Portrayed pictures actor) :
    ∃ drawing, actor.drawing = some drawing ∧ world.Shows pictures actor drawing := by
  have lettered := portrayed.lettered
  refine ⟨_, portrayed.drawn, ?_, rfl, fun words own => ?_⟩
  · rw [portrait, pictured]
    cases look : actor.visual with
    | rectangle width height color => exact .rectangle width height color
    | circle radius color => exact .circle radius color
    | text size color =>
      rw [look] at lettered
      obtain ⟨words, own⟩ := Option.isSome_iff_exists.mp lettered
      rw [own]
      exact .text rfl size color
    | emoji symbol size => exact .emoji symbol size
    | sprite key =>
      dsimp only
      split
      · rename_i address known
        exact .sprite known
      · rename_i unknown
        exact .placeholder unknown
  · obtain ⟨size, color, look⟩ := visual_of_text lettered own
    refine ⟨size, some color, ?_⟩
    rw [portrait, pictured_of_text look, own]
    rfl

/-- Each time a world is shown, everybody is portrayed as it is. -/
theorem portrayed_draw (good : world.Sound others)
    (presentable : world.Presentable (world.portrait pictures))
    (done : world.draw pictures = .ok after) {handle : Handle} {actor : Actor S T}
    (found : after.roster.find? handle = some actor) : after.Portrayed pictures actor := by
  have same := portrait_draw good done
  have extent := extent_attachDrawings good pictures
  have keeps (actor : Actor S T) : (synced world.extent actor).handle = actor.handle := rfl
  unfold draw at done
  split at done
  · cases done
  · cases done
    rw [extent, Roster.find?_map keeps] at found
    obtain ⟨before, known, rfl⟩ := Option.map_eq_some_iff.mp found
    obtain ⟨lettered, past, marked, drawn⟩ := drawn_attachDrawings good presentable known
    refine ⟨lettered, ?_⟩
    rw [same, drawing_synced lettered marked drawn]
    rfl

/-! ### Frames -/

/-- How actors are portrayed stays the same in a frame. -/
theorem portrait_of_scenery (same : after.scenery.extent = before.scenery.extent ∧
      after.scenery.manifest = before.scenery.manifest) (pictures : Bool) :
    after.portrait pictures = before.portrait pictures := by
  refine portrait_congr ?_ same.2 pictures
  exact congrArg (Option.getD · .zero) same.1

variable [Scalar T] [Circular S] [Sampling S] [Rounding T S] {keyboard : Option (List Key)}
  {delta : T}

theorem portrait_runPhase (good : world.Sound others) {phase : Phase}
    (done : world.runPhase keyboard delta phase = .ok after) (pictures : Bool) :
    after.portrait pictures = world.portrait pictures := by
  have laid := (course_runPhase good done).1.scenery
    (fun scenery => (scenery.extent, scenery.manifest)) fun world scenery allowed => by
      cases phase with
      | controls => rw [allowed]
      | shots => rw [allowed]
      | _ => exact allowed.elim
  simp only [Prod.mk.injEq] at laid
  exact portrait_of_scenery laid pictures

/-- Everybody can be shown as the world is now. -/
def Showable (pictures : Bool) (world : World S T) : Prop :=
  world.Presentable (world.portrait pictures)

theorem Showable.runPhases (showable : world.Showable pictures) (good : world.Sound others)
    {phases : List Phase} (done : world.runPhases keyboard delta phases = .ok after) :
    after.Showable pictures := by
  induction phases generalizing world with
  | nil =>
    cases done
    exact showable
  | cons phase rest ih =>
    obtain ⟨next, first, done⟩ := bind_eq_ok done
    have sound : next.Sound others := (course_runPhase good first).1.sound good
    have shown : next.Showable pictures := by
      rw [Showable, portrait_runPhase good first]
      exact (Actor.lenient_marked.stirs_runPhase first).presentable good showable
    exact ih shown sound done

theorem Showable.step (showable : world.Showable pictures) (good : world.Sound others)
    (done : world.step keyboard delta = .ok after) : after.Showable pictures := by
  unfold World.step at done
  split at done
  · cases done
    exact showable
  · exact showable.runPhases good done

/-! ### Games -/

omit [Circular S] [Sampling S] [Rounding T S] in
/-- Nobody of a game that begins was drawn yet. -/
theorem showable_playScene (whole : world.Whole) (good : world.Sound others) (spec : Spec S)
    (scene : Spec.Scene S) (seed : Option Nat) :
    (world.playScene spec scene seed).2.Showable pictures := by
  have ready : (world.tearDown.setUp spec seed).Sound others := (safe_tearDown world others good).1
  have nobody : (world.tearDown.setUp spec seed).roster.actors = [] := (whole.tearDown good).actors
  have built (draws : Actor S T → Drawing S) :
      ((world.tearDown.setUp spec seed).build scene).Presentable draws :=
    (stirs_build _ scene).presentable ready (presentable_of_nobody nobody)
  simp only [Showable, Presentable, playScene, emit]
  exact built _

theorem handover_showable : Handover (Showable pictures : World S T → Prop) where
  start lived _ _ _ := showable_playScene lived.whole lived.sound _ _ _
  stop _ _ _ idle := presentable_of_nobody idle.actors

end World

/-! ### Cabinets -/

namespace Cabinet

variable {cabinet after : Cabinet S T} {operation : Operation S T}
  {operations : List (Operation S T)} {pictures : Bool}

/-- There is a screen that can load pictures or not, and everybody can be shown so. -/
structure Ready (cabinet : Cabinet S T) (pictures : Bool) : Prop where
  loads : cabinet.screen.map (·.pictures) = some pictures
  showable : cabinet.world.Showable pictures

/-- The world is shown on the screen, whose window may change. -/
theorem Ready.display [Scalar T] (ready : cabinet.Ready pictures)
    (done : cabinet.display = .ok after) :
    ∃ screen world, screen.pictures = pictures ∧ cabinet.world.draw pictures = .ok world ∧
      after = { cabinet with world, screen := some screen } := by
  have loads := ready.loads
  unfold Cabinet.display at done
  split at done
  · rename_i dark
    rw [dark] at loads
    cases loads
  · rename_i screen lit
    rw [lit] at loads
    have loads : screen.pictures = pictures := Option.some.inj loads
    split at done
    · rename_i spec _
      obtain ⟨world, drawn, done⟩ := bind_eq_ok done
      cases done
      refine ⟨screen.showing spec, world, loads, ?_, rfl⟩
      rw [← loads]
      exact drawn
    · obtain ⟨world, drawn, done⟩ := bind_eq_ok done
      cases done
      exact ⟨screen, world, loads, loads ▸ drawn, rfl⟩

variable [Scalar T] [Circular S] [Sampling S] [Rounding T S]

theorem ready_attend (ready : cabinet.Ready pictures) (alive : cabinet.Alive) {service : Service}
    (done : cabinet.attend service = .ok after) : after.Ready pictures := by
  cases service with
  | screen =>
    cases done
    unfold switchOn
    split
    · exact ready
    · rename_i screen lit
      split
      · exact ready
      · have loads := ready.loads
        rw [lit] at loads
        exact ⟨loads, ready.showable⟩
  | display =>
    obtain ⟨window, world, loads, drawn, rfl⟩ := ready.display done
    refine ⟨congrArg some loads, fun handle actor found => ?_⟩
    obtain ⟨lettered, shown⟩ := World.portrayed_draw alive.sound ready.showable drawn found
    exact Actor.presentable_of_drawn lettered shown
  | commands =>
    cases done
    exact ⟨ready.loads, World.handover_showable.serveAll alive ready.showable _⟩
  | pending =>
    cases done
    unfold startPending
    split
    · exact ready
    · exact ⟨ready.loads, World.handover_showable.tryStart alive ready.showable _ _⟩
  | changes =>
    cases done
    unfold lookForChanges
    split
    · exact ready
    · exact ⟨ready.loads, ready.showable⟩

theorem ready_apply (ready : cabinet.Ready pictures) (alive : cabinet.Alive)
    (done : cabinet.apply operation = .ok after) : after.Ready pictures := by
  cases operation with
  | start spec options =>
    cases done
    exact ⟨ready.loads, World.handover_showable.tryStart alive ready.showable spec options⟩
  | stop session =>
    cases done
    exact ⟨ready.loads, World.handover_showable.leave alive ready.showable session⟩
  | stopCurrent =>
    cases done
    exact ⟨ready.loads, World.handover_showable.serve alive ready.showable .stop⟩
  | step keyboard delta =>
    obtain ⟨world, stepped, done⟩ := bind_eq_ok done
    cases done
    exact ⟨ready.loads, ready.showable.step alive.sound stepped⟩
  | insert spec options =>
    cases done
    exact ⟨ready.loads, ready.showable⟩
  | change contents =>
    cases done
    exact ⟨ready.loads, ready.showable⟩
  | send command =>
    cases done
    exact ⟨ready.loads, ready.showable⟩
  | service service => exact ready_attend ready alive done

theorem ready_run (ready : cabinet.Ready pictures) (alive : cabinet.Alive)
    (ran : cabinet.run operations = .ok after) : after.Ready pictures := by
  induction operations generalizing cabinet with
  | nil =>
    cases ran
    exact ready
  | cons operation rest ih =>
    obtain ⟨next, first, ran⟩ := bind_eq_ok ran
    exact ih (ready_apply ready alive first) (alive.later (later_apply alive.sound first)) ran

/-- Whatever was done to a cabinet with a screen, and however many games came and went: each time the
world is shown, everybody who is there has a drawing, in its place on the screen, of the look and the
text that it has now, and nothing else changed. -/
theorem shows_everybody {entropy : Entropy} {watch : Option Watch}
    (ran : (new entropy watch (some (Screen.start pictures))).run operations = .ok cabinet)
    (done : cabinet.display = .ok after) :
    (∀ handle, (after.world.roster.find? handle).map Actor.undrawn =
        (cabinet.world.roster.find? handle).map Actor.undrawn) ∧
      (∃ roster, after.world = { cabinet.world with roster }) ∧
      ∀ handle actor, after.world.roster.find? handle = some actor →
        ∃ drawing, actor.drawing = some drawing ∧ after.world.Shows pictures actor drawing := by
  have ran : (new entropy watch ((some pictures).map Screen.start)).run operations = .ok cabinet := ran
  have alive := alive_of_run ran
  have start : (new entropy watch ((some pictures).map Screen.start) : Cabinet S T).Ready pictures :=
    ⟨rfl, World.presentable_of_nobody rfl⟩
  have ready := ready_run start (alive_new entropy watch (some pictures)) ran
  obtain ⟨window, world, -, drawn, rfl⟩ := ready.display done
  obtain ⟨roster, rest, kept⟩ := World.drawn_draw alive.sound drawn
  refine ⟨fun handle => ?_, ⟨roster, rest⟩, fun handle actor found => ?_⟩
  · rw [rest]
    exact kept handle
  · exact (World.portrayed_draw alive.sound ready.showable drawn found).shows

end Cabinet

namespace Sample

/-- A falling ball, and points that are counted. -/
def tally : Spec Rat :=
  { fall with
    title := "Tally"
    scenes := [{
      name := "main"
      objects := [
        block "ball" 50 42 ⟨.dynamic, some 1, none, some ⟨0, 40⟩⟩,
        { Spec.Blueprint.plain "scoreText" .text 100 20 with label := some ⟨"Score", none, none⟩ }]
      logic := some {
        onCollision := none
        onOverlap := none
        timers := some ["every 50 ms -> point"]
        spawners := none
        actions := some [⟨"point", .updateScore 5⟩] } }] }

/-- The game is shown, and goes on. -/
def counting : List (Operation Rat Rat) :=
  [.start tally .default, .service .screen, .service .display, .step (some []) 50, .step (some []) 50]

end Sample

/-- The ball is shown where it fell to, and the score as it was counted. -/
theorem Cabinet.shows_everybody_tally :
    ∃ (_ : Circular Rat) (cabinet after : Cabinet Rat Rat) (first second : Handle)
      (ball score : Actor Rat Rat) (picture label : Drawing Rat),
      (new Sample.entropy none (some (Screen.start true))).run Sample.counting = .ok cabinet ∧
        cabinet.display = .ok after ∧ after.world.roster.find? first = some ball ∧
        after.world.roster.find? second = some score ∧ ball.position.y = 187 / 4 ∧
        ball.drawing = some picture ∧ picture.place.y = 1013 / 4 ∧
        after.world.Shows true ball picture ∧ score.drawing = some label ∧
        (∃ size color, label.picture = .label "Score: 10" size color) ∧
        after.world.Shows true score label := by
  let _ : Circular Rat := Sample.compass
  refine ⟨Sample.compass, ?_⟩
  have fine : ((new Sample.entropy none (some (Screen.start true)) : Cabinet Rat Rat).run
      Sample.counting).toOption.any (fun cabinet =>
        cabinet.display.toOption.any fun after =>
          decide (after.world.extent.y = 600) &&
            (((after.world.handle? "ball").any fun handle =>
              (after.world.roster.find? handle).any fun actor => actor.position.y = 187 / 4) &&
            (after.world.handle? "scoreText").any fun handle =>
              (after.world.roster.find? handle).any fun actor =>
                actor.text = some "Score: 10")) = true := by
    decide +kernel
  obtain ⟨cabinet, ran, fine⟩ := exists_ok_of_any fine
  obtain ⟨after, done, fine⟩ := exists_ok_of_any fine
  obtain ⟨extent, fine⟩ := (Bool.and_eq_true _ _).mp fine
  obtain ⟨falls, counts⟩ := (Bool.and_eq_true _ _).mp fine
  obtain ⟨first, -, falls⟩ := (Option.any_eq_true _ _).mp falls
  obtain ⟨ball, found, fell⟩ := (Option.any_eq_true _ _).mp falls
  obtain ⟨second, -, counts⟩ := (Option.any_eq_true _ _).mp counts
  obtain ⟨score, known, counted⟩ := (Option.any_eq_true _ _).mp counts
  have extent : after.world.extent.y = 600 := of_decide_eq_true extent
  have fell : ball.position.y = 187 / 4 := of_decide_eq_true fell
  obtain ⟨-, -, everybody⟩ := shows_everybody ran done
  obtain ⟨picture, drawn, shows⟩ := everybody first ball found
  obtain ⟨label, lettered, tells⟩ := everybody second score known
  have place : picture.place.y = 1013 / 4 := by
    rw [shows.place, extent, fell]
    exact (by decide +kernel : (600 / 2 - 187 / 4 : Rat) = 1013 / 4)
  exact ⟨cabinet, after, first, second, ball, score, picture, label, ran, done, found, known, fell,
    drawn, place, shows, lettered, tells.text _ (of_decide_eq_true counted), tells⟩

end Arcade
