import Arcade.Proofs.Grouping
import Arcade.Proofs.Restart

/-! Nothing of a scene is lost when it is built, and its order is kept. Every object becomes one actor
or a group, or it is told what it misses; every rule is bound to what its sides mean once all objects
and groups are there, or it is told what is wrong with it first; timers and spawners are set to work as
they are listed. What could not be built is told in the order in which it is come upon. -/

namespace Arcade

variable {S T : Type}

/-- What an attempt failed with. -/
def failure? {ε α : Type} : Except ε α → Option ε
  | .ok _ => none
  | .error error => some error

/-! ### What a scene says -/

namespace Spec.Blueprint

variable [Scalar S]

/-- An actor comes of the blueprint. -/
def embodied (blueprint : Blueprint S) : Bool :=
  match blueprint.appearance? with
  | .ok (some _) => true
  | _ => false

/-- What is told of an object that is built after some others: what it misses, or that its id is taken
by one of them. -/
def problems (earlier : List (Blueprint S)) (object : Blueprint S) : List BuildError :=
  match object.appearance? with
  | .error error => [error]
  | .ok none => []
  | .ok (some _) =>
    if earlier.any fun other => other.embodied && other.id = object.id then
      [.duplicateObjectId object.id]
    else []

/-- What is told of objects that are built one after the other, after some others. -/
def problemsAfter : (earlier objects : List (Blueprint S)) → List BuildError
  | _, [] => []
  | earlier, object :: rest => object.problems earlier ++ problemsAfter (earlier ++ [object]) rest

/-- An actor comes of a blueprint, or it is one of a group, or it misses a part. -/
theorem appearance?_cases (blueprint : Blueprint S) :
    (blueprint.kind ≠ .group ∧ ∃ look, blueprint.appearance? = .ok (some look)) ∨
      (blueprint.kind = .group ∧ blueprint.appearance? = .ok none) ∨
      blueprint.kind ≠ .group ∧ ∃ field, blueprint.appearance? =
        .error (.missingPayload blueprint.id blueprint.kind field) := by
  unfold appearance? payload
  cases kind : blueprint.kind with
  | group => exact .inr (.inl ⟨rfl, rfl⟩)
  | sprite =>
    cases blueprint.texture with
    | none => exact .inr (.inr ⟨nofun, _, rfl⟩)
    | some _ => exact .inl ⟨nofun, _, rfl⟩
  | rectangle | circle =>
    cases blueprint.shape with
    | none => exact .inr (.inr ⟨nofun, _, rfl⟩)
    | some _ => exact .inl ⟨nofun, _, rfl⟩
  | text =>
    cases blueprint.label with
    | none => exact .inr (.inr ⟨nofun, _, rfl⟩)
    | some _ => exact .inl ⟨nofun, _, rfl⟩
  | emoji =>
    cases blueprint.emoji with
    | none => exact .inr (.inr ⟨nofun, _, rfl⟩)
    | some _ => exact .inl ⟨nofun, _, rfl⟩

end Spec.Blueprint

namespace Spec.Scene

/-- The timers, in the order in which they are set to work. -/
def timers (scene : Spec.Scene S) : List String := (scene.logic.getD .empty).timers.getD []

/-- What is told of a scene when its rules are bound to what some names mean. -/
def problems [Scalar S] (scene : Spec.Scene S) (names : Registry S T) : List BuildError :=
  Blueprint.problemsAfter [] scene.objects ++
    scene.interactions.filterMap (fun rule => failure? (names.bind rule.1 rule.2)) ++
    scene.timers.filterMap fun line => failure? (Rule.Schedule.parse line)

end Spec.Scene

/-! ### What is made of a rule -/

namespace Registry

/-- A rule is bound to what its two sides mean, or it is told what is wrong with it first. -/
inductive Verdict (registry : Registry S T) (kind : Contact.Kind) (line : String) :
    Except BuildError Binding → Prop where
  | malformed (illegible : Rule.interaction? line.toList = none) :
      Verdict registry kind line (.error (.malformedRule line))
  | first {rule : Rule.Interaction} (read : Rule.interaction? line.toList = some rule)
      (unknown : registry.target? rule.first = none) :
      Verdict registry kind line (.error (.unresolvedTarget line rule.first))
  | second {rule : Rule.Interaction} {first : Target}
      (read : Rule.interaction? line.toList = some rule)
      (known : registry.target? rule.first = some first)
      (unknown : registry.target? rule.second = none) :
      Verdict registry kind line (.error (.unresolvedTarget line rule.second))
  | bound {rule : Rule.Interaction} {first second : Target}
      (read : Rule.interaction? line.toList = some rule)
      (left : registry.target? rule.first = some first)
      (right : registry.target? rule.second = some second) :
      Verdict registry kind line (.ok ⟨kind, first, second, rule.callback, line, false⟩)

theorem verdict_bind (registry : Registry S T) (kind : Contact.Kind) (line : String) :
    registry.Verdict kind line (registry.bind kind line) := by
  unfold Registry.bind Rule.Interaction.parse
  cases read : Rule.interaction? line.toList with
  | none => exact .malformed read
  | some rule =>
    simp only [Bind.bind, Except.bind]
    cases known : registry.target? rule.first with
    | none => exact .first read known
    | some first =>
      cases other : registry.target? rule.second with
      | none => exact .second read known other
      | some second => exact .bound read known other

theorem hasGroup_entered (registry : Registry S T) (blueprint : Spec.Blueprint S) (id : String)
    (handle : Handle) (name : String) :
    (registry.entered blueprint id handle).hasGroup name = registry.hasGroup name := by
  unfold entered
  split <;> rfl

end Registry

namespace World

variable {before middle after world : World S T} {others : List Handle}
  {names : Registry S T}

/-! ### What is told -/

/-- Tell of problems one after the other. -/
def reports (world : World S T) (errors : List BuildError) : World S T := errors.foldl report world

@[simp] theorem reports_nil (world : World S T) : world.reports [] = world := rfl

theorem reports_cons (world : World S T) (error : BuildError) (rest : List BuildError) :
    world.reports (error :: rest) = (world.report error).reports rest := by
  simp only [reports, List.foldl_cons]

theorem reports_append (world : World S T) (errors later : List BuildError) :
    world.reports (errors ++ later) = (world.reports errors).reports later :=
  List.foldl_append

theorem news_reports (same : after.news = before.news) (errors : List BuildError) :
    (after.reports errors).news = (before.reports errors).news := by
  induction errors generalizing before after with
  | nil =>
    rw [reports_nil, reports_nil]
    exact same
  | cons error rest ih =>
    rw [reports_cons, reports_cons]
    exact ih (news_report same error)

/-- Each problem is told of once. -/
theorem log_reports (world : World S T) (errors : List BuildError) :
    (world.reports errors).log =
      world.log.tell (errors.map fun error => .diagnostic error.message) := by
  induction errors generalizing world with
  | nil => rfl
  | cons error rest ih =>
    have told : (world.report error).log = world.log.emit (.diagnostic error.message) none := by
      simp only [report, emit]
    rw [reports_cons, ih, told, Log.tell, Log.tell, List.map_cons, List.foldl_cons]

/-- To keep the latest of what was kept and something new is to keep the latest of all. -/
theorem latest_concat {α : Type} (all : List α) (item : α) {room : Nat} (positive : 0 < room) :
    let kept := all.drop (all.length - room)
    kept.drop (kept.length + 1 - room) ++ [item] =
      (all ++ [item]).drop ((all ++ [item]).length - room) := by
  have start : all.length - room + (all.length - (all.length - room) + 1 - room) =
      all.length + 1 - room := by omega
  simp only [List.drop_drop, List.length_drop, List.length_append, List.length_singleton, start]
  rw [List.drop_append_of_le_length (by omega)]

/-- The latest of all messages are kept. -/
theorem diagnostics_reports (world : World S T) (all : List String)
    (kept : world.diagnostics = some (all.drop (all.length - maxDiagnostics)))
    (errors : List BuildError) :
    let messages := all ++ errors.map BuildError.message
    (world.reports errors).diagnostics =
      some (messages.drop (messages.length - maxDiagnostics)) := by
  induction errors generalizing world all with
  | nil => simpa using kept
  | cons error rest ih =>
    have next : (world.report error).diagnostics = some ((all ++ [error.message]).drop
        ((all ++ [error.message]).length - maxDiagnostics)) := by
      simp only [report, kept, Option.getD_some]
      rw [latest_concat all error.message (by decide)]
    have told := ih (world.report error) _ next
    rw [reports_cons]
    simpa only [List.append_assoc, List.singleton_append, List.map_cons] using told

theorem handle?_ensureGroup (world : World S T) (name : String) :
    (world.withRegistry fun registry => registry.ensureGroup name).handle? = world.handle? := by
  funext id
  rw [handle?, handle?, withRegistry]
  cases world.registry <;> rfl

/-! ### Objects -/

section Objects

variable [Scalar S] {objects : List (Spec.Blueprint S)} {object : Spec.Blueprint S}

/-- For each object of which an actor comes there is one, and nobody else is there. -/
structure Staffed (objects : List (Spec.Blueprint S)) (world : World S T) : Prop where
  /-- So many actors were made, for these objects and under their ids, in this order. -/
  made : world.births.reverse.map (fun birth => (birth.id, birth.blueprint)) =
    (objects.filter (·.embodied)).map fun object => (object.id, object)
  /-- They are there, and nobody else. -/
  only : world.roster.handles.Perm (world.births.map (·.handle))
  /-- Each of them is as its object says, and where it says. -/
  present : ∀ birth ∈ world.births, ∃ look, birth.blueprint.appearance? = .ok (some look) ∧
    world.roster.find? birth.handle = some (birth.blueprint.newcomer .empty look birth.handle
      birth.id ⟨birth.blueprint.x, birth.blueprint.y⟩)
  /-- An id means the latest that was made for it. -/
  meant : ∀ id, world.handle? id = (world.births.find? (·.id = id)).map (·.handle)

/-- Objects were built, and the groups that there are are theirs. -/
structure Peopled (objects : List (Spec.Blueprint S)) (others : List Handle) (world : World S T) :
    Prop extends Staffed objects world where
  sound : world.Sound others
  keys : world.keys.Faithful
  groups : ∀ name, (world.registry.getD .empty).hasGroup name = true ↔
    ∃ object ∈ objects, object.kind = .group ∧ object.id = name

/-- Actors were made for the objects of which actors come, and for no others. -/
theorem Staffed.exists_birth_iff (staffed : Staffed objects world) (id : String)
    (object : Spec.Blueprint S) :
    (∃ birth ∈ world.births, birth.id = id ∧ birth.blueprint = object) ↔
      object ∈ objects ∧ object.embodied = true ∧ object.id = id := by
  have listed : (id, object) ∈ world.births.reverse.map (fun birth => (birth.id, birth.blueprint)) ↔
      (id, object) ∈ (objects.filter (·.embodied)).map fun object => (object.id, object) := by
    rw [staffed.made]
  simpa [and_assoc, and_comm, and_left_comm] using listed

/-- Somebody who is there goes by an id if an earlier object has it of which an actor came. -/
theorem Staffed.taken (staffed : Staffed objects world) (id : String) :
    (world.handle? id).any world.alive =
      objects.any fun other => other.embodied && other.id = id := by
  rw [Bool.eq_iff_iff, staffed.meant, Option.any_map, Option.any_eq_true, List.any_eq_true]
  constructor
  · rintro ⟨birth, found, -⟩
    have own : birth.id = id := by simpa using List.find?_some found
    obtain ⟨declared, embodied, same⟩ := (staffed.exists_birth_iff id birth.blueprint).mp
      ⟨birth, List.mem_of_find?_eq_some found, own, rfl⟩
    exact ⟨birth.blueprint, declared, by simp [embodied, same]⟩
  · rintro ⟨object, declared, taken⟩
    obtain ⟨embodied, own⟩ := (Bool.and_eq_true _ _).mp taken
    obtain ⟨birth, born, named, -⟩ := (staffed.exists_birth_iff id object).mpr
      ⟨declared, embodied, of_decide_eq_true own⟩
    have some : (world.births.find? (·.id = id)).isSome = true :=
      List.find?_isSome.mpr ⟨birth, born, decide_eq_true named⟩
    obtain ⟨latest, found⟩ := Option.isSome_iff_exists.mp some
    obtain ⟨look, -, there⟩ := staffed.present latest (List.mem_of_find?_eq_some found)
    exact ⟨latest, found, congrArg Option.isSome there⟩

/-- Where the same actors are under the same ids, the same objects have theirs. -/
theorem Staffed.transfer (staffed : Staffed objects before) {listed : List (Spec.Blueprint S)}
    (same : listed.filter (·.embodied) = objects.filter (·.embodied))
    (births : after.births = before.births) (roster : after.roster = before.roster)
    (meant : after.handle? = before.handle?) : Staffed listed after where
  made := by
    rw [births, same]
    exact staffed.made
  only := by
    rw [roster, births]
    exact staffed.only
  present := by
    rw [roster, births]
    exact staffed.present
  meant := by
    rw [meant, births]
    exact staffed.meant

/-- An object of which no actor comes leaves everybody as they are. -/
theorem Peopled.bodiless (peopled : Peopled objects others before)
    (bodiless : object.embodied = false) (people : after.origins = before.origins)
    (handles : after.handles = before.handles) (roster : after.roster = before.roster)
    (keys : after.keys = before.keys) (meant : after.handle? = before.handle?)
    (groups : ∀ name, (after.registry.getD .empty).hasGroup name = true ↔
      (before.registry.getD .empty).hasGroup name = true ∨ object.kind = .group ∧ object.id = name) :
    Peopled (objects ++ [object]) others after := by
  have births : after.births = before.births := (Prod.mk.inj people).1
  have same : (objects ++ [object]).filter (·.embodied) = objects.filter (·.embodied) := by
    simp [bodiless]
  constructor
  case toStaffed => exact peopled.toStaffed.transfer same births roster meant
  case sound =>
    rw [Sound, handles, roster]
    exact peopled.sound
  case keys =>
    rw [keys]
    exact peopled.keys
  case groups =>
    intro name
    rw [groups, peopled.groups]
    simp [or_and_right, exists_or]

/-- Whoever is made is one more actor, and its id means it from then on. -/
theorem Peopled.staffed_create (peopled : Peopled objects others before) {handle : Handle}
    (created : before.create object object.id ⟨object.x, object.y⟩ = .ok (.actor handle, after))
    (embodied : object.embodied = true) : Staffed (objects ++ [object]) after := by
  have made := made_create peopled.sound created
  have births : after.births = ⟨handle, object.id, object⟩ :: before.births := made.births
  obtain ⟨look, seen, welcomes⟩ := welcomes_create peopled.sound created
  constructor
  case made =>
    rw [births, List.reverse_cons, List.map_append, peopled.made, List.filter_append,
      List.filter_singleton, embodied]
    simp
  case only =>
    rw [births]
    exact made.held.trans (peopled.only.cons handle)
  case present =>
    rw [births]
    refine List.forall_mem_cons.mpr ⟨⟨look, seen, ?_⟩, ?_⟩
    · rw [welcomes handle, if_pos rfl]
      simp only [Spec.Blueprint.newcomer, peopled.keys.bind_eq, KeyCache.faithful_empty.bind_eq]
    · intro birth born
      obtain ⟨look, seen, there⟩ := peopled.present birth born
      have held : birth.handle ∈ before.roster.handles :=
        peopled.only.mem_iff.mpr (List.mem_map_of_mem born)
      have different : handle ≠ birth.handle := by
        intro same
        exact made.fresh peopled.sound (same ▸ held)
      refine ⟨look, seen, ?_⟩
      rw [welcomes birth.handle, if_neg different]
      exact there
  case meant =>
    intro id
    have entered := Registry.handle?_joined (before.registry.getD .empty) object object.id none
      handle id
    have old : (before.registry.getD .empty).handle? id = before.handle? id := by
      rw [World.handle?]
      cases before.registry <;> rfl
    rw [World.handle?, made.registry, births, List.find?_cons]
    refine entered.trans ?_
    by_cases same : object.id = id
    · simp [same]
    · simp [same, old, peopled.meant]

/-- Whoever is made keeps the world in order, and is no group. -/
theorem Peopled.create (peopled : Peopled objects others before) {handle : Handle}
    (created : before.create object object.id ⟨object.x, object.y⟩ = .ok (.actor handle, after))
    (embodied : object.embodied = true) (kind : object.kind ≠ .group) :
    Peopled (objects ++ [object]) others after := by
  have made := made_create peopled.sound created
  refine ⟨peopled.staffed_create created embodied, made.sound peopled.sound,
    faithful_create peopled.keys created, fun name => ?_⟩
  rw [made.registry, Option.getD_some, Registry.hasGroup_entered, peopled.groups]
  simp [or_and_right, exists_or, kind]

/-- An object is built after some others, and what is wrong with it is told. -/
theorem Peopled.placeObject (peopled : Peopled objects others world) (object : Spec.Blueprint S) :
    Peopled (objects ++ [object]) others (world.placeObject object) ∧
      (world.placeObject object).news = (world.reports (object.problems objects)).news ∧
      (world.placeObject object).furniture = world.furniture ∧
      (world.placeObject object).dealings = world.dealings := by
  have cases := world.create_cases object object.id ⟨object.x, object.y⟩
  unfold World.placeObject Spec.Blueprint.problems
  rcases object.appearance?_cases with ⟨kind, look, seen⟩ | ⟨kind, seen⟩ | ⟨kind, field, seen⟩
  · rw [seen] at cases
    obtain ⟨handle, after, created⟩ := cases
    obtain ⟨furniture, dealings⟩ := furniture_create created
    have embodied : object.embodied = true := by rw [Spec.Blueprint.embodied, seen]
    rw [created, seen]
    refine ⟨peopled.create created embodied kind, ?_, furniture, dealings⟩
    rw [news_create peopled.sound created, peopled.taken]
    simp only
    split <;> rfl
  · rw [seen] at cases
    have bodiless : object.embodied = false := by rw [Spec.Blueprint.embodied, seen]
    rw [cases, seen]
    refine ⟨peopled.bodiless bodiless rfl rfl rfl rfl ?_ ?_, rfl, rfl, rfl⟩
    · exact handle?_ensureGroup world object.id
    · intro name
      refine Iff.trans (Bool.eq_iff_iff.mp (Registry.hasGroup_ensureGroup _ _ _)) ?_
      rw [Bool.or_eq_true, decide_eq_true_eq, or_comm]
      simp [kind]
  · rw [seen] at cases
    have bodiless : object.embodied = false := by rw [Spec.Blueprint.embodied, seen]
    rw [cases, seen]
    have same := (quiet_report world (.missingPayload object.id object.kind field)).names
    refine ⟨peopled.bodiless bodiless ?_ same.handles ?_ ?_ ?_ ?_, rfl, ?_, ?_⟩
    · simp only [origins, report, emit]
    · simp only [report, emit]
    · simp only [report, emit]
    · funext id
      rw [World.handle?, same.registry, World.handle?]
    · intro name
      rw [same.registry]
      simp [kind]
    · simp only [furniture, report, emit]
    · simp only [dealings, report, emit]

/-- Objects are built one after the other. -/
theorem Peopled.placeObjects {earlier : List (Spec.Blueprint S)}
    (peopled : Peopled earlier others world) :
    Peopled (earlier ++ objects) others (objects.foldl World.placeObject world) ∧
      (objects.foldl World.placeObject world).news =
        (world.reports (Spec.Blueprint.problemsAfter earlier objects)).news ∧
      (objects.foldl World.placeObject world).furniture = world.furniture ∧
      (objects.foldl World.placeObject world).dealings = world.dealings := by
  induction objects generalizing earlier world with
  | nil =>
    rw [List.append_nil]
    exact ⟨peopled, rfl, rfl, rfl⟩
  | cons object rest ih =>
    obtain ⟨placed, told, furniture, dealings⟩ := peopled.placeObject object
    obtain ⟨all, later, furniture', dealings'⟩ := ih placed
    rw [List.append_assoc, List.singleton_append] at all
    refine ⟨all, ?_, furniture'.trans furniture, dealings'.trans dealings⟩
    rw [List.foldl_cons, later, Spec.Blueprint.problemsAfter, reports_append]
    exact news_reports told _

end Objects

/-! ### Spawners, rules and timers -/

/-- Spawners, bindings and timers were added and problems were told, and else nothing changed of those
who are there and of what ids mean. -/
structure Adds (before : World S T) (nests : List (Nest S T)) (bindings : List Binding)
    (alarms : List (Alarm T)) (errors : List BuildError) (after : World S T) : Prop where
  roster : after.roster = before.roster
  births : after.births = before.births
  meant : after.handle? = before.handle?
  library : after.library = before.library
  nests : after.nests = before.nests.map (· ++ nests)
  bindings : after.bindings = before.bindings.map (· ++ bindings)
  alarms : after.alarms = before.alarms.map (· ++ alarms)
  told : after.news = (before.reports errors).news

section Adds

variable {nests nests' : List (Nest S T)} {bindings bindings' : List Binding}
  {alarms alarms' : List (Alarm T)} {errors errors' : List BuildError}

theorem Adds.refl (world : World S T) : Adds world [] [] [] [] world := by
  have same {α : Type} (items : Option (List α)) : items = items.map (· ++ []) := by
    cases items <;> simp
  exact ⟨rfl, rfl, rfl, rfl, same _, same _, same _, by rw [reports_nil]⟩

theorem Adds.trans (first : Adds before nests bindings alarms errors middle)
    (second : Adds middle nests' bindings' alarms' errors' after) :
    Adds before (nests ++ nests') (bindings ++ bindings') (alarms ++ alarms') (errors ++ errors')
      after := by
  have both {α : Type} {items : Option (List α)} (left right : List α) :
      (items.map (· ++ left)).map (· ++ right) = items.map (· ++ (left ++ right)) := by
    cases items <;> simp
  constructor
  case roster => exact second.roster.trans first.roster
  case births => exact second.births.trans first.births
  case meant => exact second.meant.trans first.meant
  case library => exact second.library.trans first.library
  case nests => rw [second.nests, first.nests, both]
  case bindings => rw [second.bindings, first.bindings, both]
  case alarms => rw [second.alarms, first.alarms, both]
  case told =>
    rw [second.told, reports_append]
    exact news_reports first.told errors'

theorem adds_report (world : World S T) (error : BuildError) :
    Adds world [] [] [] [error] (world.report error) := by
  obtain ⟨-, -, -, library, nests, bindings, alarms, -⟩ := Adds.refl world
  have registry := (quiet_report world error).names.registry
  constructor
  case meant =>
    funext id
    rw [handle?, registry, handle?]
  case told => rw [reports_cons, reports_nil]
  case nests => simpa only [report, emit] using nests
  case bindings => simpa only [report, emit] using bindings
  case alarms => simpa only [report, emit] using alarms
  all_goals simp only [report, emit]

/-- One more group changes nothing else. -/
theorem adds_ensureGroup (world : World S T) (name : String) :
    Adds world [] [] [] [] (world.withRegistry fun registry => registry.ensureGroup name) :=
  { Adds.refl world with meant := handle?_ensureGroup world name }

theorem adds_placeInteraction (kind : Contact.Kind) (world : World S T) (line : String) :
    let bound := (world.registry.getD .empty).bind kind line
    Adds world [] bound.toOption.toList [] (failure? bound).toList
      (world.placeInteraction kind line) := by
  unfold placeInteraction
  cases (world.registry.getD .empty).bind kind line with
  | error error => exact adds_report world error
  | ok binding => exact { Adds.refl world with bindings := rfl }

/-- Rules are bound one after the other, and none of them changes what names mean. -/
theorem adds_placeInteractions (world : World S T) (rules : List (Contact.Kind × String))
    (known : world.registry.getD .empty = names) :
    Adds world [] (rules.filterMap fun rule => (names.bind rule.1 rule.2).toOption) []
      (rules.filterMap fun rule => failure? (names.bind rule.1 rule.2))
      (rules.foldl (fun world rule => placeInteraction rule.1 world rule.2) world) := by
  induction rules generalizing world with
  | nil => exact .refl world
  | cons rule rest ih =>
    have first := adds_placeInteraction rule.1 world rule.2
    have same := (quiet_placeInteraction rule.1 world rule.2).names.registry
    have both := first.trans (ih (world.placeInteraction rule.1 rule.2) (by rw [same, known]))
    rw [known] at both
    rw [List.foldl_cons, List.filterMap_cons, List.filterMap_cons]
    cases bound : names.bind rule.1 rule.2 <;> simpa [bound, failure?, Except.toOption] using both

variable [Scalar T]

theorem adds_placeSpawners (spawners : List (Spec.Spawner S)) (world : World S T) :
    Adds world (spawners.map (Nest.start · 0)) [] [] [] (spawners.foldl placeSpawner world) := by
  induction spawners generalizing world with
  | nil => exact .refl world
  | cons spawner rest ih =>
    have grouped := adds_ensureGroup world spawner.template.id
    have first : Adds world [.start spawner 0] [] [] [] (world.placeSpawner spawner) :=
      { grouped with nests := rfl }
    exact first.trans (ih _)

theorem adds_placeTimer (world : World S T) (line : String) :
    let read := Rule.Schedule.parse line
    Adds world [] [] (read.toOption.map (Alarm.start · line 0)).toList (failure? read).toList
      (world.placeTimer line) := by
  unfold placeTimer
  cases Rule.Schedule.parse line with
  | error error => exact adds_report world error
  | ok rule => exact { Adds.refl world with alarms := rfl }

theorem adds_placeTimers (lines : List String) (world : World S T) :
    Adds world [] []
      (lines.filterMap fun line => (Rule.Schedule.parse line).toOption.map (Alarm.start · line 0))
      (lines.filterMap fun line => failure? (Rule.Schedule.parse line))
      (lines.foldl placeTimer world) := by
  induction lines generalizing world with
  | nil => exact .refl world
  | cons line rest ih =>
    have both := (adds_placeTimer world line).trans (ih _)
    rw [List.foldl_cons, List.filterMap_cons, List.filterMap_cons]
    cases read : Rule.Schedule.parse line <;> simpa [read, failure?, Except.toOption] using both

theorem registry_placeTimers (lines : List String) (world : World S T) :
    (lines.foldl placeTimer world).registry = world.registry := by
  induction lines generalizing world with
  | nil => rfl
  | cons line rest ih => exact (ih _).trans (quiet_placeTimer world line).names.registry

end Adds

/-! ### A whole scene -/

variable [Scalar S] [Scalar T] {scene : Spec.Scene S}

/-- The world in which the objects of a scene are built, and nothing else. -/
def placed (world : World S T) (scene : Spec.Scene S) : World S T :=
  scene.objects.foldl placeObject { world with library := some (actionsOf scene) }

theorem adds_furnish (world : World S T) (scene : Spec.Scene S) :
    Adds (world.placed scene) (scene.spawners.map (Nest.start · 0)) [] [] []
      (world.furnish scene) := by
  have working := adds_placeSpawners scene.spawners (world.placed scene)
  unfold furnish
  split
  · have both := working.trans (adds_ensureGroup _ projectileGroup)
    rw [List.append_nil] at both
    exact both
  · exact working

/-- The groups that rules can name are those of objects, of spawners, and of shots. -/
theorem hasGroup_furnish_iff (world : World S T) (scene : Spec.Scene S) (name : String) :
    ((world.furnish scene).registry.getD .empty).hasGroup name = true ↔
      ((world.placed scene).registry.getD .empty).hasGroup name = true ∨
        (∃ spawner ∈ scene.spawners, spawner.template.id = name) ∨
        scene.ObjectsShoot ∧ name = projectileGroup := by
  have working := hasGroup_placeSpawners scene.spawners (world.placed scene) name
  have shooting : scene.objects.any shoots = true ↔ scene.ObjectsShoot := List.any_eq_true
  unfold furnish
  split
  · rename_i shooters
    have added := Registry.hasGroup_ensureGroup
      ((scene.spawners.foldl placeSpawner (world.placed scene)).registry.getD .empty)
      projectileGroup name
    refine Iff.trans (Bool.eq_iff_iff.mp added) ?_
    rw [working]
    simp only [Bool.or_eq_true, decide_eq_true_eq, List.any_eq_true, shooting.mp shooters, true_and,
      eq_comm (a := projectileGroup), or_comm, or_left_comm]
  · rename_i peaceful
    refine Iff.trans (Bool.eq_iff_iff.mp working) ?_
    simp only [Bool.or_eq_true, decide_eq_true_eq, List.any_eq_true, mt shooting.mpr peaceful,
      false_and, or_false]
    exact or_comm

/-- Rules and timers come after the objects and the groups, and change no names. -/
theorem adds_build (world : World S T) (scene : Spec.Scene S) :
    let known := (world.build scene).registry.getD .empty
    (world.build scene).registry = (world.furnish scene).registry ∧
      Adds (world.placed scene) (scene.spawners.map (Nest.start · 0))
        (scene.interactions.filterMap fun rule => (known.bind rule.1 rule.2).toOption)
        (scene.timers.filterMap fun line =>
          (Rule.Schedule.parse line).toOption.map (Alarm.start · line 0))
        (scene.interactions.filterMap (fun rule => failure? (known.bind rule.1 rule.2)) ++
          scene.timers.filterMap fun line => failure? (Rule.Schedule.parse line))
        (world.build scene) := by
  have whole : world.build scene =
      scene.timers.foldl placeTimer (world.binding scene scene.interactions) :=
    build_eq_binding world scene
  have same : (world.build scene).registry = (world.furnish scene).registry := by
    rw [whole, registry_placeTimers]
    exact registry_binding world scene scene.interactions
  have names := congrArg (Option.getD · .empty) same
  have bound := adds_placeInteractions (world.furnish scene) scene.interactions names.symm
  have timed := adds_placeTimers scene.timers (world.binding scene scene.interactions)
  rw [← whole] at timed
  have all := ((adds_furnish world scene).trans bound).trans timed
  simp only [List.nil_append, List.append_nil] at all
  exact ⟨same, all⟩

/-- A scene was built as it says: of each object there is one actor or a group, or it is told what it
misses; rules, timers and spawners are at work in their order, or it is told what is wrong with them. -/
structure Built (scene : Spec.Scene S) (world : World S T) : Prop
    extends Staffed scene.objects world where
  once : (world.births.map (·.handle)).Nodup
  groups : ∀ name, (world.registry.getD .empty).hasGroup name = true ↔
    (∃ object ∈ scene.objects, object.kind = .group ∧ object.id = name) ∨
      (∃ spawner ∈ scene.spawners, spawner.template.id = name) ∨
      scene.ObjectsShoot ∧ name = projectileGroup
  library : world.library = some (actionsOf scene)
  bindings : world.bindings = some (scene.interactions.filterMap fun rule =>
    ((world.registry.getD .empty).bind rule.1 rule.2).toOption)
  alarms : world.alarms = some (scene.timers.filterMap fun line =>
    (Rule.Schedule.parse line).toOption.map (Alarm.start · line 0))
  nests : world.nests = some (scene.spawners.map (Nest.start · 0))
  diagnostics :
    let messages := (scene.problems (world.registry.getD .empty)).map BuildError.message
    world.diagnostics = some (messages.drop (messages.length - maxDiagnostics))

omit [Scalar T] in
/-- The objects of a scene are built where nobody is. -/
theorem peopled_placed (nobody : world.roster.actors = []) (unborn : world.births = [])
    (nameless : world.registry = some .empty) (good : world.Sound others)
    (keys : world.keys.Faithful) (scene : Spec.Scene S) :
    let ready : World S T := { world with library := some (actionsOf scene) }
    Peopled scene.objects others (world.placed scene) ∧
      (world.placed scene).news =
        (ready.reports (Spec.Blueprint.problemsAfter [] scene.objects)).news ∧
      (world.placed scene).furniture = ready.furniture ∧
      (world.placed scene).dealings = ready.dealings := by
  have empty : Peopled [] others { world with library := some (actionsOf scene) } := by
    refine ⟨⟨?_, ?_, ?_, ?_⟩, good, keys, ?_⟩
    · simp [unborn]
    · simp [Roster.handles, nobody, unborn]
    · simp [unborn]
    · simp [unborn, World.handle?, nameless, Registry.handle?, Registry.empty]
    · simp [nameless, Registry.hasGroup, Registry.empty, Index.contains]
  exact empty.placeObjects

/-- Where no scene is, a scene is built as it says, and each problem is told of once. -/
theorem built_build (idle : world.Idle) (good : world.Sound others) (keys : world.keys.Faithful)
    (spec : Spec S) (scene : Spec.Scene S) (seed : Option Nat) :
    let built := (world.setUp spec seed).build scene
    built.Built scene ∧ built.log = world.log.tell
      ((scene.problems (built.registry.getD .empty)).map fun error => .diagnostic error.message) := by
  intro built
  let ready : World S T := world.setUp spec seed
  have nobody : ready.roster.actors = [] := idle.actors
  obtain ⟨peopled, told, furniture, dealings⟩ := peopled_placed nobody rfl rfl good keys scene
  obtain ⟨registry, added⟩ := adds_build ready scene
  have unsaid : World.news { ready with library := some (actionsOf scene) } = ready.news := rfl
  have news : built.news = (ready.reports (scene.problems (built.registry.getD .empty))).news := by
    rw [added.told, news_reports told, ← reports_append, Spec.Scene.problems, List.append_assoc]
    exact news_reports unsaid _
  obtain ⟨diagnostics, log⟩ := Prod.mk.inj news
  simp only [World.furniture, World.dealings, Prod.mk.injEq] at furniture dealings
  obtain ⟨-, -, -, -, alarms, nests, -, -, library⟩ := furniture
  have idle : ready.alarms = some [] ∧ ready.nests = some [] ∧ ready.bindings = some [] :=
    ⟨rfl, rfl, rfl⟩
  refine ⟨?_, log.trans (log_reports ready _)⟩
  constructor
  case toStaffed =>
    exact peopled.toStaffed.transfer rfl added.births added.roster added.meant
  case once =>
    rw [added.births]
    exact peopled.only.nodup_iff.mp peopled.sound.distinct
  case groups =>
    intro name
    rw [registry, hasGroup_furnish_iff, peopled.groups]
  case library => rw [added.library, library]
  case bindings =>
    rw [added.bindings, dealings.1, idle.2.2]
    rfl
  case alarms =>
    rw [added.alarms, alarms, idle.1]
    rfl
  case nests =>
    rw [added.nests, nests, idle.2.1]
    rfl
  case diagnostics =>
    have told := diagnostics_reports ready [] rfl
      (scene.problems (built.registry.getD .empty))
    exact diagnostics.trans told

/-- A game that begins to be played is as it was built. -/
theorem Built.playScene {spec : Spec S} {seed : Option Nat}
    (built : ((world.tearDown.setUp spec seed).build scene).Built scene) :
    (world.playScene spec scene seed).2.Built scene := by
  simp only [World.playScene, emit]
  generalize Log.emit ((world.tearDown.setUp spec seed).build scene).log = said
  exact { built with }

omit [Scalar T] in
/-- What an object misses is told. -/
theorem mem_problemsAfter {object : Spec.Blueprint S} {error : BuildError}
    (misses : object.appearance? = .error error) {earlier objects : List (Spec.Blueprint S)}
    (declared : object ∈ objects) : error ∈ Spec.Blueprint.problemsAfter earlier objects := by
  induction objects generalizing earlier with
  | nil => cases declared
  | cons first rest ih =>
    rw [Spec.Blueprint.problemsAfter, List.mem_append]
    rcases List.mem_cons.mp declared with rfl | later
    · left
      rw [Spec.Blueprint.problems, misses]
      exact List.mem_singleton_self error
    · exact .inr (ih later)

/-- Every object is there, or its group is, or it is told what it misses. -/
theorem Built.fate (built : world.Built scene) {object : Spec.Blueprint S}
    (declared : object ∈ scene.objects) :
    (∃ birth ∈ world.births, birth.id = object.id ∧ birth.blueprint = object) ∨
      (object.kind = .group ∧ (world.registry.getD .empty).hasGroup object.id = true) ∨
      ∃ field, .missingPayload object.id object.kind field ∈
        scene.problems (world.registry.getD .empty) := by
  rcases object.appearance?_cases with ⟨-, look, seen⟩ | ⟨kind, -⟩ | ⟨-, field, misses⟩
  · have embodied : object.embodied = true := by rw [Spec.Blueprint.embodied, seen]
    exact .inl ((built.exists_birth_iff object.id object).mpr ⟨declared, embodied, rfl⟩)
  · exact .inr (.inl ⟨kind, (built.groups object.id).mpr (.inl ⟨object, declared, kind, rfl⟩)⟩)
  · refine .inr (.inr ⟨field, ?_⟩)
    rw [Spec.Scene.problems, List.append_assoc]
    exact List.mem_append_left _ (mem_problemsAfter misses declared)

variable [Circular S] [Sampling S] [Rounding T S]

/-- Whatever was played before, a game of a valid specification starts with all of the scene that was
chosen. Each object became one actor, or its group is there, or it is told what it misses; each rule is
bound to what its sides mean by the names that are there in the end, or the first thing that is wrong
with it is told; timers and spawners are at work. All is in the order of the scene, and so are the
diagnostics, of which the latest are kept, and the events that tell of them. -/
theorem Lived.builds_all {world₀ : World S T} {spec : Spec S} {options : StartOptions}
    (lived : world₀.Lived others) (valid : spec.validate = .ok ())
    (chosen : spec.choose options.scene = .ok scene) :
    ∃ world session, world₀.tryStart spec options = (world, .ok session) ∧
      let names := world.registry.getD .empty
      world.Built scene ∧
        (∀ object ∈ scene.objects,
          (∃ birth ∈ world.births, birth.id = object.id ∧ birth.blueprint = object) ∨
            (object.kind = .group ∧ names.hasGroup object.id = true) ∨
            ∃ field, .missingPayload object.id object.kind field ∈ scene.problems names) ∧
        (∀ kind line, names.Verdict kind line (names.bind kind line)) ∧
        world.log = (world₀.tearDown.log.tell
          ((scene.problems names).map fun error => .diagnostic error.message)).emit
            (.gameStarted spec.title scene.name (world₀.starts + 1)) none := by
  let world := (world₀.playScene spec scene options.seed).2
  let names := world.registry.getD .empty
  have sound : world₀.tearDown.Sound others := (safe_tearDown world₀ others lived.sound).1
  obtain ⟨built, told⟩ := built_build (lived.whole.tearDown lived.sound) sound
    (keys_tearDown lived.keys) spec scene options.seed
  have whole : world.Built scene := built.playScene
  have same := (names_playScene world₀ spec scene options.seed).registry
  have begun : world.log = ((world₀.tearDown.setUp spec options.seed).build scene).log.emit
      (.gameStarted spec.title scene.name (world₀.starts + 1)) none := by
    rw [← starts_tearDown lived.sound]
    rfl
  refine ⟨world, _, tryStart_of_choose valid chosen, whole,
    fun object declared => whole.fate declared,
    fun kind line => Registry.verdict_bind names kind line, ?_⟩
  rw [begun, told, ← same]

end World

/-! ### A scene with problems -/

namespace Sample

/-- An object without a shape, two of one id, a group, and one that shoots; and rules and timers of which
some can be read and some cannot. -/
def yard : Spec.Scene Float32 where
  name := "yard"
  objects := [.plain "ghost" .rectangle 0 0, walker "crate", walker "crate", .plain "pack" .group 0 0,
    gunner "hero"]
  logic := some {
    onCollision := some ["crate, pack -> push", "crate push"]
    onOverlap := some ["wall, nobody -> destroy", "coin, projectiles -> collect"]
    timers := some ["soon -> tick", "every 500 ms -> tick"]
    spawners := some [⟨"mint", idler "coin", 10, some 1, "corner", none⟩]
    actions := none }

def disorderly : Spec Float32 := { spec with scenes := [scene, yard] }

end Sample

/-- The yard is built as far as it can be. -/
theorem World.Lived.builds_all_yard :
    let world : World Float32 Float :=
      ((World.empty Sample.entropy).playScene Sample.disorderly Sample.yard none).2
    world.Built Sample.yard ∧
      world.bindings.map (·.map (·.line)) =
        some ["crate, pack -> push", "coin, projectiles -> collect"] ∧
      world.diagnostics = some
        ["object 'ghost' of type rectangle is missing its 'shape' payload",
          "object id 'crate' declared more than once; latest declaration wins",
          "malformed interaction rule 'crate push'",
          "rule 'wall, nobody -> destroy' references unknown id 'wall'",
          "malformed timer rule 'soon -> tick'"] := by
  let options : StartOptions := ⟨some "yard", none⟩
  have chosen : Sample.disorderly.choose options.scene = .ok Sample.yard := by rfl
  have valid : Sample.disorderly.validate = .ok () := by rfl
  obtain ⟨world, session, start, built, -⟩ :=
    Lived.builds_all (T := Float) (lived_empty Sample.entropy) valid chosen
  obtain rfl : ((World.empty Sample.entropy).playScene Sample.disorderly Sample.yard none).2 = world := by
    rw [playScene_of_tryStart chosen start]
  exact ⟨built, by decide +kernel, by decide +kernel⟩

end Arcade
