import Arcade.Proofs.Chronicle
import Arcade.Proofs.Stirring
import Arcade.Proofs.Telling
import Arcade.Proofs.Turnover
import Mathlib.Algebra.Ring.Int.Defs

/-! The score of a game. Rules fire for contacts and for timers, sometimes a few times in one frame, and
whatever they are called some of them count points. Nothing else touches the score: at any moment it
is the sum of the points counted since the game was started, each change was told with its own points,
and the label of the score shows it right after each change. -/

namespace Arcade

variable {S T : Type}

/-! ### Rules that fire -/

/-- A rule that fires on a target, with the world that it finds. -/
structure Ruling (S T : Type) where
  world : World S T
  site : RuleSite
  target : Option Handle

/-- The rule that fires for a contact. -/
def Call.ruling (call : Call S T) : Ruling S T := ⟨call.world, call.site, some call.contact.second⟩

namespace Ruling

/-- The points that the rule counts, if that is its effect. -/
def points? (ruling : Ruling S T) : Option Int :=
  match ruling.world.effectAt? ruling.site with
  | some (.updateScore points) => some points
  | _ => none

/-- The points that rules count, in their order. -/
def points (rulings : List (Ruling S T)) : List Int := rulings.filterMap points?

variable [Scalar S]

/-- What the rule leaves behind. -/
def after (ruling : Ruling S T) : World S T := ruling.world.fire ruling.site ruling.target

/-- Each rule starts from what the one before it left behind. -/
def Linked (before : World S T) : List (Ruling S T) → World S T → Prop
  | [], after => after = before
  | ruling :: rest, after => ruling.world = before ∧ Linked ruling.after rest after

end Ruling

/-- The rules of timers that fire, a rule as often as its timer does. -/
def World.dueAlarms (polled : List (Alarm T × Nat)) : List Nat :=
  polled.zipIdx.flatMap fun entry => List.replicate entry.1.2 entry.2

namespace World

variable [Scalar S]

/-- Rules of timers that fire one after the other. -/
def alarmRulingsFor (world : World S T) : List Nat → List (Ruling S T)
  | [] => []
  | index :: rest =>
    let ruling : Ruling S T := ⟨world, .timer index, none⟩
    ruling :: ruling.after.alarmRulingsFor rest

variable [Scalar T]

/-- The rules that fire when the timers of a world are looked at. -/
def alarmRulings (world : World S T) : List (Ruling S T) :=
  match world.clock, world.alarms with
  | some clock, some alarms =>
    let polled := pollAlarms clock.now alarms
    alarmRulingsFor { world with alarms := some (polled.map (·.1)) } (dueAlarms polled)
  | _, _ => []

/-- The rules that fire in a part of a frame. -/
def rulingsAt (world : World S T) : Phase → List (Ruling S T)
  | .timers => world.alarmRulings
  | .dispatch => world.calls.map Call.ruling
  | _ => []

variable [Circular S] [Sampling S] [Rounding T S]

/-- The rules that fire in parts of a frame, one after the other. -/
def rulingsIn (keyboard : Option (List Key)) (delta : T) (world : World S T) :
    List Phase → List (Ruling S T)
  | [] => []
  | phase :: rest =>
    world.rulingsAt phase ++
      match world.runPhase keyboard delta phase with
      | .ok next => next.rulingsIn keyboard delta rest
      | .error _ => []

/-- The rules that fire in a frame. -/
def rulings (world : World S T) (keyboard : Option (List Key)) (delta : T) : List (Ruling S T) :=
  world.rulingsIn keyboard delta Phase.order

end World

theorem Call.Linked.rulings [Scalar S] {before after : World S T} {calls : List (Call S T)}
    (linked : Call.Linked before calls after) : Ruling.Linked before (calls.map Call.ruling) after := by
  induction calls generalizing before with
  | nil => exact linked
  | cons call rest ih => exact ⟨linked.1, ih linked.2⟩

namespace World

variable [Scalar S]

theorem linked_alarmRulingsFor (world : World S T) (due : List Nat) :
    Ruling.Linked world (world.alarmRulingsFor due)
      (due.foldl (fun world index => world.fire (.timer index) none) world) := by
  induction due generalizing world with
  | nil => rfl
  | cons index rest ih => exact ⟨rfl, ih _⟩

end World

/-- Once the timers are looked at, the rules that are due fire one after the other. -/
theorem World.linked_alarmRulings [Scalar S] [Scalar T] (world : World S T) :
    ∃ alarms, Ruling.Linked { world with alarms } world.alarmRulings world.tickTimers := by
  rcases Option.eq_none_or_eq_some world.clock with clocked | ⟨clock, clocked⟩
  · have nothing : world.alarmRulings = [] := by simp only [alarmRulings, clocked]
    have same : world.tickTimers = world := by simp only [tickTimers, clocked]
    rw [nothing, same]
    exact ⟨world.alarms, rfl⟩
  · rcases Option.eq_none_or_eq_some world.alarms with timed | ⟨alarms, timed⟩
    · have nothing : world.alarmRulings = [] := by simp only [alarmRulings, clocked, timed]
      have same : world.tickTimers = world := by simp only [tickTimers, clocked, timed]
      rw [nothing, same]
      exact ⟨world.alarms, rfl⟩
    · refine ⟨some ((pollAlarms clock.now alarms).map (·.1)), ?_⟩
      have fired := linked_alarmRulingsFor
        { world with alarms := some ((pollAlarms clock.now alarms).map (·.1)) }
        (dueAlarms (pollAlarms clock.now alarms))
      simp only [alarmRulings, tickTimers, clocked, timed]
      rw [← clocked]
      exact fired

/-! ### What is told of the score -/

namespace Signal

/-- The new score and the points that led to it. -/
def scored? : Signal → Option (Int × Int)
  | .scoreChanged score points => some (score, points)
  | _ => none

/-- It is told of neither. -/
def Aside (signal : Signal) : Prop := signal.scored? = none ∧ signal.opens = false

theorem OfMaking.aside {signal : Signal} (told : signal.OfMaking) : signal.Aside := by
  cases signal <;> first | exact ⟨rfl, rfl⟩ | exact told.elim

theorem OfRemoval.aside {signal : Signal} (told : signal.OfRemoval) : signal.Aside := by
  cases signal <;> first | exact ⟨rfl, rfl⟩ | exact told.elim

/-- The score is told of when points are counted, and only then. -/
theorem OfEffect.aside {signal : Signal} {effect : Spec.Effect}
    (other : ∀ points, effect ≠ .updateScore points) (told : signal.OfEffect effect) :
    signal.Aside := by
  cases effect with
  | updateScore points => exact absurd rfl (other points)
  | gameOver =>
    rcases told with ⟨score, rfl⟩ | told
    · exact ⟨rfl, rfl⟩
    · exact OfMaking.aside told
  | destroy => exact OfRemoval.aside told
  | updateText id text =>
    cases told
    exact ⟨rfl, rfl⟩

end Signal

namespace World

def score (world : World S T) : Int := (world.board.getD .start).score

/-- The changes of the score that were told of since the game was started, in their order. -/
def scoresTold (world : World S T) : List (Int × Int) :=
  (world.log.history.takeWhile fun signal => !signal.opens).reverse.filterMap Signal.scored?

/-- Neither the score nor what was told of it changes. -/
def SameScore (before after : World S T) : Prop :=
  after.score = before.score ∧ after.scoresTold = before.scoresTold

variable {before after world : World S T} {may : Signal → Prop}

/-- What is told of other things leaves alone what was told of the score. -/
theorem Tells.scoresTold (tells : Tells may before after)
    (aside : ∀ signal, may signal → signal.Aside) : after.scoresTold = before.scoresTold := by
  obtain ⟨news, history, allowed⟩ := tells
  have midway : ∀ signal ∈ news, (!signal.opens) = true := fun signal member => by
    rw [(aside signal (allowed signal member)).2]
    rfl
  have nothing : news.reverse.filterMap Signal.scored? = [] := by
    rw [List.filterMap_eq_nil_iff]
    exact fun signal member => (aside signal (allowed signal (List.mem_reverse.mp member))).1
  rw [World.scoresTold, history, List.takeWhile_append_of_pos midway, List.reverse_append,
    List.filterMap_append, nothing, List.append_nil]
  rfl

theorem score_of_board (same : after.board = before.board) : after.score = before.score := by
  rw [score, same, score]

theorem sameScore_of_books (same : after.books = before.books) : SameScore before after := by
  refine ⟨score_of_board (congrArg Books.board same), ?_⟩
  have log : after.log = before.log := congrArg Books.log same
  rw [scoresTold, log, scoresTold]

theorem sameScore_destroyTarget (world : World S T) (target : Option Handle) :
    SameScore world (world.destroyTarget target) :=
  ⟨score_of_board (congrArg Books.board (runs_destroyTarget world target).told),
    (tells_destroyTarget world target).scoresTold fun _ => Signal.OfRemoval.aside⟩

/-! ### One rule -/

/-- Counting points tells the new score and them. -/
theorem told_addPoints (world : World S T) (points : Int) :
    (world.addPoints points).score = world.score + points ∧
      (world.addPoints points).scoresTold =
        world.scoresTold ++ [(world.score + points, points)] := by
  let counted : World S T :=
    { world with board := some ⟨world.score + points, (world.board.getD .start).ended⟩ }
  let shown := (counted.setText? scoreTextId ("Score: " ++ toString (world.score + points))).getD counted
  have same : shown.books = counted.books := by
    cases changed : counted.setText? scoreTextId ("Score: " ++ toString (world.score + points)) with
    | none => simp only [shown, changed, Option.getD_none]
    | some after =>
      simp only [shown, changed, Option.getD_some]
      exact books_setText changed
  have board : shown.board = counted.board := congrArg Books.board same
  have log : shown.log = world.log := congrArg Books.log same
  have added : world.addPoints points =
      shown.emit (.scoreChanged (world.score + points) points) none := rfl
  rw [added]
  constructor
  · have kept : (shown.emit (.scoreChanged (world.score + points) points) none).board =
        counted.board := by simp only [emit, board]
    rw [score, kept, Option.getD_some]
  · have history : (shown.emit (.scoreChanged (world.score + points) points) none).log.history =
        .scoreChanged (world.score + points) points :: world.log.history := by
      simp only [emit, Log.emit, log]
    rw [scoresTold, history, List.takeWhile_cons_of_pos (by rfl), List.reverse_cons,
      List.filterMap_append]
    rfl

variable [Scalar S]

/-- The end of a game leaves its score. -/
theorem score_endGame (world : World S T) : world.endGame.score = world.score := by
  simp only [endGame]
  split
  · rfl
  · let closed : World S T :=
      { world with board := some { world.board.getD .start with ended := true } }
    obtain ⟨handle, shown, made⟩ := closed.exists_banner closed.center
    have board : shown.board = closed.board := congrArg Books.board (runs_create made).told
    simp only [closed] at made
    rw [made]
    have kept (signal : Signal) : (World.emit { shown with arena := shown.arena.map Arena.pause }
        signal none).board = shown.board := by simp only [emit]
    rw [score, kept, board]
    rfl

/-- Other effects leave the score alone. -/
theorem sameScore_execute (world : World S T) {effect : Spec.Effect}
    (other : ∀ points, effect ≠ .updateScore points) (target : Option Handle) :
    SameScore world (world.execute effect target) := by
  refine ⟨?_, (tells_execute world effect target).scoresTold fun _ told => told.aside other⟩
  cases effect with
  | updateScore points => exact absurd rfl (other points)
  | gameOver => exact score_endGame world
  | destroy => exact (sameScore_destroyTarget world target).1
  | updateText id text =>
    simp only [execute]
    split
    · rename_i shown changed
      have board : (shown.emit (.textUpdated id text) none).board = shown.board := by
        simp only [emit]
      exact score_of_board (board.trans (congrArg Books.board (books_setText changed)))
    · rfl

/-- A rule without an effect leaves the score alone. -/
theorem books_fire_of_idle {site : RuleSite} (idle : world.effectAt? site = none)
    (target : Option Handle) : (world.fire site target).books = world.books := by
  unfold fire
  split
  · rfl
  · rename_i name named
    split
    · exact books_warn world site
    · split
      · rename_i effect means
        rw [effectAt?, named, Option.bind_some, means] at idle
        cases idle
      · rfl

end World

namespace Ruling

variable [Scalar S] {ruling : Ruling S T} {others : List Handle}

/-- A rule that counts points counts them and removes its target. -/
theorem after_of_points {own : Int} (counts : ruling.points? = some own) :
    ruling.after = (ruling.world.addPoints own).destroyTarget ruling.target := by
  unfold points? at counts
  split at counts
  · rename_i points effect
    cases counts
    exact World.fire_of_effect effect _
  · cases counts

theorem sameScore_of_none (silent : ruling.points? = none) :
    World.SameScore ruling.world ruling.after := by
  rw [after]
  cases known : ruling.world.effectAt? ruling.site with
  | none => exact World.sameScore_of_books (World.books_fire_of_idle known _)
  | some effect =>
    rw [World.fire_of_effect known]
    refine World.sameScore_execute _ (fun points same => ?_) _
    rw [points?, known, same] at silent
    cases silent

/-- The label of the score is the text object that is registered under its name. Once points are
counted it shows the score, unless it was the target and is gone. -/
def Labels (ruling : Ruling S T) : Prop :=
  ∀ handle label, ruling.points?.isSome = true →
    ruling.world.handle? World.scoreTextId = some handle →
    ruling.world.roster.find? handle = some label → label.text.isSome = true →
    ruling.target ≠ some handle →
    ruling.after.handle? World.scoreTextId = some handle ∧
      ruling.after.roster.find? handle =
        some { label with
          text := some ("Score: " ++ toString ruling.after.score), rewritten := true }

end Ruling

namespace World

variable {world : World S T} {others : List Handle} {handle : Handle}

/-- Points that are counted are shown on the label. -/
theorem label_addPoints {label : Actor S T} (points : Int)
    (meant : world.handle? scoreTextId = some handle)
    (found : world.roster.find? handle = some label) (lettered : label.text.isSome = true) :
    (world.addPoints points).registry = world.registry ∧
      (world.addPoints points).roster = world.roster.modify handle fun actor =>
        { actor with
          text := some ("Score: " ++ toString (world.score + points)), rewritten := true } := by
  let counted : World S T :=
    { world with board := some ⟨world.score + points, (world.board.getD .start).ended⟩ }
  let text := "Score: " ++ toString (world.score + points)
  have shown : counted.setText? scoreTextId text = some { counted with
      roster := world.roster.modify handle fun actor =>
        { actor with text := some text, rewritten := true } } := by
    have here : counted.handle? scoreTextId = some handle := meant
    have there : counted.roster.find? handle = some label := found
    simp only [setText?, here, there, Option.bind_eq_bind, Option.bind_some, if_pos lettered]
    rfl
  have added : world.addPoints points =
      ((counted.setText? scoreTextId text).getD counted).emit
        (.scoreChanged (world.score + points) points) none := rfl
  rw [added, shown, Option.getD_some]
  exact ⟨by simp only [emit, counted], by simp only [emit, text]⟩

/-- A name is kept when somebody else is removed. -/
theorem handle?_destroyTarget {target : Option Handle} {id : String}
    (meant : world.handle? id = some handle) (other : target ≠ some handle) :
    (world.destroyTarget target).handle? id = some handle := by
  cases target with
  | none => exact meant
  | some gone =>
    have different : gone ≠ handle := fun same => other (congrArg some same)
    rw [destroyTarget, destroy]
    split
    · exact meant
    · rename_i actor _
      split
      · rename_i nameless
        rw [handle?, nameless] at meant
        cases meant
      · rename_i registry known
        rw [handle?, known, Option.bind_some] at meant
        have left : (registry.forget actor.id gone actor.group).handle? id = some handle := by
          rw [Registry.handle?_forget, if_neg]
          · exact meant
          · rintro ⟨rfl, own⟩
            rw [meant] at own
            exact different (Option.some.inj own).symm
        simpa only [handle?, emit, Option.bind_some] using left

theorem find?_destroyTarget (good : world.Sound others) {target : Option Handle}
    (other : target ≠ some handle) :
    (world.destroyTarget target).roster.find? handle = world.roster.find? handle := by
  cases target with
  | none => rfl
  | some gone =>
    rw [destroyTarget, find?_destroy good, if_neg]
    exact fun same => other (congrArg some same)

end World

theorem Ruling.labels [Scalar S] {ruling : Ruling S T} {others : List Handle}
    (good : ruling.world.Sound others) : ruling.Labels := by
  intro handle label counts meant found lettered other
  obtain ⟨own, counts⟩ := Option.isSome_iff_exists.mp counts
  obtain ⟨registry, roster⟩ := World.label_addPoints own meant found lettered
  have meant : (ruling.world.addPoints own).handle? World.scoreTextId = some handle := by
    rw [World.handle?, registry]
    exact meant
  have sound := good.of_sameNames (World.quiet_addPoints ruling.world own).names
  have total : ruling.after.score = ruling.world.score + own := by
    rw [after_of_points counts, (World.sameScore_destroyTarget _ _).1, (World.told_addPoints _ _).1]
  rw [total, after_of_points counts]
  refine ⟨World.handle?_destroyTarget meant other, ?_⟩
  rw [World.find?_destroyTarget sound other, roster, Roster.find?_modify, if_pos rfl, found,
    Option.map_some]
  exact fun _ => rfl

/-! ### What was counted so far -/

/-- Points one after the other, each with the sum of all up to it. -/
def runningSums (points : List Int) : List (Int × Int) :=
  points.mapIdx fun place own => ((points.take (place + 1)).sum, own)

theorem runningSums_concat (points : List Int) (last : Int) :
    runningSums (points ++ [last]) = runningSums points ++ [(points.sum + last, last)] := by
  have early : points.mapIdx (fun place own => (((points ++ [last]).take (place + 1)).sum, own)) =
      runningSums points := by
    refine List.ext_getElem (by simp [runningSums]) fun place inside _ => ?_
    rw [List.length_mapIdx] at inside
    simp only [runningSums, List.getElem_mapIdx]
    rw [List.take_append_of_le_length (Nat.succ_le_of_lt inside)]
  have whole : (points ++ [last]).take (points.length + 1) = points ++ [last] :=
    List.take_of_length_le (by simp)
  rw [runningSums, List.mapIdx_concat, early, whole, List.sum_append, List.sum_singleton]

/-- The score of a world, and what was told of it, are those of the points that rules counted. -/
structure Reckoned (rulings : List (Ruling S T)) (world : World S T) : Prop where
  score : world.score = (Ruling.points rulings).sum
  told : world.scoresTold = runningSums (Ruling.points rulings)

/-- The score is right at the end, and right before and after each rule that fired. -/
structure Scored [Scalar S] (rulings : List (Ruling S T)) (world : World S T) : Prop
    extends Reckoned rulings world where
  each : ∀ earlier ruling later, rulings = earlier ++ ruling :: later →
    Reckoned earlier ruling.world ∧ Reckoned (earlier ++ [ruling]) ruling.after ∧ ruling.Labels

namespace Reckoned

variable {rulings : List (Ruling S T)} {before after : World S T}

theorem of_sameScore (reckoned : Reckoned rulings before) (same : World.SameScore before after) :
    Reckoned rulings after :=
  ⟨same.1.trans reckoned.score, same.2.trans reckoned.told⟩

/-- One more rule counts its points, if it counts any. -/
theorem ruling [Scalar S] {ruling : Ruling S T} (reckoned : Reckoned rulings ruling.world) :
    Reckoned (rulings ++ [ruling]) ruling.after := by
  have all : Ruling.points (rulings ++ [ruling]) =
      Ruling.points rulings ++ ruling.points?.toList := by
    rw [Ruling.points, List.filterMap_append]
    cases counts : ruling.points? <;> simp [Ruling.points, counts]
  cases counts : ruling.points? with
  | none =>
    rw [counts, Option.toList_none, List.append_nil] at all
    have kept := reckoned.of_sameScore (Ruling.sameScore_of_none counts)
    exact ⟨all ▸ kept.score, all ▸ kept.told⟩
  | some own =>
    rw [counts, Option.toList_some] at all
    obtain ⟨score, told⟩ := World.told_addPoints ruling.world own
    have removed := World.sameScore_destroyTarget (ruling.world.addPoints own) ruling.target
    rw [← Ruling.after_of_points counts] at removed
    constructor
    · rw [removed.1, score, reckoned.score, all, List.sum_append, List.sum_singleton]
    · rw [removed.2, told, reckoned.told, reckoned.score, all, runningSums_concat]

end Reckoned

namespace Scored

variable [Scalar S] {rulings past : List (Ruling S T)} {before after world : World S T}
  {others : List Handle}

theorem of_sameScore (scored : Scored rulings before) (same : World.SameScore before after) :
    Scored rulings after :=
  ⟨scored.toReckoned.of_sameScore same, scored.each⟩

theorem ruling {ruling : Ruling S T} (good : ruling.world.Sound others)
    (scored : Scored past ruling.world) : Scored (past ++ [ruling]) ruling.after where
  toReckoned := scored.toReckoned.ruling
  each earlier other later split := by
    rcases List.eq_nil_or_concat later with rfl | ⟨between, last, rfl⟩
    · obtain ⟨rfl, same⟩ := List.append_inj' split rfl
      cases same
      exact ⟨scored.toReckoned, scored.toReckoned.ruling, Ruling.labels good⟩
    · rw [List.concat_eq_append, ← List.cons_append, ← List.append_assoc] at split
      exact scored.each earlier other between (List.append_inj' split rfl).1

/-- What is right before some rules fire is right after them. -/
theorem linked (scored : Scored past before) (good : before.Sound others)
    (linked : Ruling.Linked before rulings after) : Scored (past ++ rulings) after := by
  induction rulings generalizing past before with
  | nil =>
    cases linked
    rwa [List.append_nil]
  | cons ruling rest ih =>
    obtain ⟨rfl, linked⟩ := linked
    rw [List.append_cons]
    exact ih (scored.ruling good) ((World.course_fire good _ _).sound good) linked

end Scored

/-! ### A game -/

namespace World

variable [Scalar S] [Scalar T] [Circular S] [Sampling S] [Rounding T S]
  {world after : World S T} {others : List Handle} {session : Session}
  {keyboard : Option (List Key)} {delta : T} {past : List (Ruling S T)}

/-- In the other parts of a frame no rule fires, and nothing becomes of the score. -/
theorem sameScore_runPhase {phase : Phase} (timers : phase ≠ .timers) (dispatch : phase ≠ .dispatch)
    (done : world.runPhase keyboard delta phase = .ok after) : SameScore world after := by
  have runs := runs_runPhase done
  have tells := tells_runPhase done
  refine ⟨score_of_board (runs.same Books.board fun books entry allowed => ?_),
    tells.scoresTold fun signal told => ?_⟩
  · cases phase with
    | timers => exact absurd rfl timers
    | dispatch => exact absurd rfl dispatch
    | clock =>
      cases allowed
      rfl
    | spawners =>
      rcases allowed with allowed | ⟨nests, rfl⟩
      · cases entry <;> first | exact allowed.elim | simp only [Books.enter]
      · rfl
    | _ => cases entry <;> first | exact allowed.elim | simp only [Books.enter]
  · cases phase with
    | timers => exact absurd rfl timers
    | dispatch => exact absurd rfl dispatch
    | shots => exact Signal.OfMaking.aside told
    | spawners => exact Signal.OfMaking.aside told
    | cleanUp => exact Signal.OfRemoval.aside told
    | _ => exact told.elim

/-- The rules that fire in a part of a frame fire one after the other, and what the last one leaves behind
is what there is afterwards. The first one finds the timers set anew, or the contacts gone. In the other
parts no rule fires, and nothing becomes of the score. -/
def Rules (found : World S T) (phase : Phase) (next : World S T) : Prop :=
  match phase with
  | .timers => ∃ alarms, Ruling.Linked { found with alarms } (found.rulingsAt .timers) next
  | .dispatch => Ruling.Linked { found with contacts := found.contacts.map fun _ => [] }
      (found.rulingsAt .dispatch) next
  | phase => found.rulingsAt phase = [] ∧ SameScore found next

theorem rules_runPhase {phase : Phase} (done : world.runPhase keyboard delta phase = .ok after) :
    world.Rules phase after := by
  cases phase with
  | timers =>
    cases done
    exact world.linked_alarmRulings
  | dispatch =>
    cases done
    exact world.linked_calls.rulings
  | _ => exact ⟨rfl, sameScore_runPhase (by decide) (by decide) done⟩

theorem scored_runPhase {phase : Phase} (good : world.Sound others) (scored : Scored past world)
    (done : world.runPhase keyboard delta phase = .ok after) :
    Scored (past ++ world.rulingsAt phase) after := by
  have rules := rules_runPhase done
  cases phase with
  | timers =>
    obtain ⟨alarms, linked⟩ := rules
    have same : SameScore world { world with alarms } := sameScore_of_books rfl
    have sound : World.Sound { world with alarms } others := good
    exact (scored.of_sameScore same).linked sound linked
  | dispatch =>
    let emptied : World S T := { world with contacts := world.contacts.map fun _ => [] }
    have same : SameScore world emptied := sameScore_of_books rfl
    have sound : emptied.Sound others := good
    exact (scored.of_sameScore same).linked sound rules
  | _ =>
    obtain ⟨nothing, same⟩ := rules
    rw [nothing, List.append_nil]
    exact scored.of_sameScore same

/-- What is right before some parts of a frame is right after them. -/
theorem scored_runPhases (good : world.Sound others) (scored : Scored past world)
    {phases : List Phase} (done : world.runPhases keyboard delta phases = .ok after) :
    Scored (past ++ world.rulingsIn keyboard delta phases) after := by
  induction phases generalizing world past with
  | nil =>
    cases done
    rwa [rulingsIn, List.append_nil]
  | cons phase rest ih =>
    obtain ⟨next, first, done⟩ := bind_eq_ok done
    rw [rulingsIn, first, ← List.append_assoc]
    exact ih ((course_runPhase good first).1.sound good) (scored_runPhase good scored first) done

omit [Circular S] [Sampling S] [Rounding T S] in
/-- When a game starts nothing was counted in it yet. -/
theorem scored_playScene (world : World S T) (spec : Spec S) (scene : Spec.Scene S)
    (seed : Option Nat) : Scored [] (world.playScene spec scene seed).2 where
  score := by
    have start : (world.playScene spec scene seed).2.board = some .start :=
      (opened_playScene world spec scene seed).board
    rw [score, start]
    rfl
  told := by
    simp only [scoresTold, playScene, emit, Log.emit]
    rw [List.takeWhile_cons_of_neg (by simp [Signal.opens])]
    rfl
  each _ _ _ never := absurd never (by simp)

/-- The score of a game is right as long as it is played. -/
theorem saga_rulings (session : Session) :
    Saga rulings session (fun past (world : World S T) => Scored past world) fun _ => True where
  blank := trivial
  start _ _ _ _ := scored_playScene _ _ _ _
  camera _ scored := scored.of_sameScore (sameScore_of_books rfl)
  draw _ scored done := scored.of_sameScore (sameScore_of_books (books_draw done))
  frame _ _ _ _ _ := trivial
  step lived playing scored done := by
    rw [step, playing] at done
    exact scored_runPhases lived.sound scored done

end World

variable [Scalar S] [Scalar T] [Circular S] [Sampling S] [Rounding T S]

/-- Whatever was done to a cabinet, and whatever parts of a frame run next: the score of the game is the
sum of all points that rules counted since it was started, for contacts and for timers. Each change was
told, in its turn, with the sum up to it and with its own points. All this is so right before and right
after each rule that fires; and right after points are counted, the text object that is registered under
the name of the score shows it, unless it was the target. And in any part of any frame the rules that fire
start from what the one before left, and the last one leaves what there is afterwards. -/
theorem Cabinet.keeps_score {entropy : Entropy} {watch : Option Watch} {pictures : Option Bool}
    {operations : List (Operation S T)} {cabinet : Cabinet S T} {session : Session}
    {keyboard : Option (List Key)} {delta : T} {phases : List Phase} {world : World S T}
    (ran : (new entropy watch (pictures.map Screen.start)).run operations = .ok cabinet)
    (playing : cabinet.world.playing = some session)
    (framed : cabinet.world.runPhases keyboard delta phases = .ok world) :
    Scored
      ((new entropy watch (pictures.map Screen.start)).chronicle World.rulings session operations ++
        cabinet.world.rulingsIn keyboard delta phases) world ∧
    ∀ (held : Option (List Key)) (span : T) (phase : Phase) (found next : World S T),
      found.runPhase held span phase = .ok next → found.Rules phase next := by
  have scored := (World.saga_rulings session).held_new ran playing
  exact ⟨World.scored_runPhases (alive_of_run ran).sound scored framed,
    fun _ _ _ _ _ done => World.rules_runPhase done⟩

namespace Sample

/-- Coins and time are both worth something, and the score is shown. -/
def harvest : Spec Float32 :=
  { spec with
    scenes := [{ scene with
      objects := [walker "crate",
        { Spec.Blueprint.plain "scoreText" .text 100 20 with label := some ⟨"Score", none, none⟩ }]
      logic := some {
        onCollision := none
        onOverlap := some ["crate, coin -> collect"]
        timers := some ["every 20 ms -> bonus"]
        spawners := some [⟨"mint", walker "coin", 10, none, "corner", none⟩]
        actions := some [⟨"collect", .updateScore 5⟩, ⟨"bonus", .updateScore 2⟩] } }] }

/-- The game is played for two frames. -/
def reaping : List (Operation Float32 Float) := [.start harvest .default, .step none 25, .step none 20]

end Sample

/-- In the third frame time counts once and coins count three times. -/
theorem Cabinet.keeps_score_harvest :
    ∃ (cabinet : Cabinet Float32 Float) (session : Session) (world : World Float32 Float),
      (new Sample.entropy none (Option.map Screen.start none)).run Sample.reaping = .ok cabinet ∧
        cabinet.world.playing = some session ∧
        cabinet.world.runPhases none 25 Phase.order = .ok world ∧
        world.scoresTold = [(2, 2), (7, 5), (12, 5), (14, 2), (19, 5), (24, 5), (26, 2), (31, 5),
          (36, 5), (41, 5)] ∧
        Scored ((new Sample.entropy none (Option.map Screen.start none)).chronicle World.rulings session
          Sample.reaping ++ cabinet.world.rulingsIn none 25 Phase.order) world := by
  have fine : ((new Sample.entropy none (Option.map Screen.start none) : Cabinet Float32 Float).run
      Sample.reaping).toOption.any (fun cabinet =>
        cabinet.world.playing.isSome &&
          (cabinet.world.runPhases none 25 Phase.order).toOption.any fun world =>
            decide (world.scoresTold = [(2, 2), (7, 5), (12, 5), (14, 2), (19, 5), (24, 5), (26, 2),
              (31, 5), (36, 5), (41, 5)])) = true := by decide +kernel
  obtain ⟨cabinet, ran, fine⟩ := exists_ok_of_any fine
  obtain ⟨active, fine⟩ := (Bool.and_eq_true _ _).mp fine
  obtain ⟨session, playing⟩ := Option.isSome_iff_exists.mp active
  obtain ⟨world, framed, told⟩ := exists_ok_of_any fine
  exact ⟨cabinet, session, world, ran, playing, framed, of_decide_eq_true told,
    (keeps_score ran playing framed).1⟩

end Arcade
