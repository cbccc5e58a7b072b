import Mathlib.Data.List.Nodup
import Mathlib.Data.List.Pairwise
import Arcade.Json.Tagged
import Arcade.Proofs.Gathering

/-! How one game may be spelled. The outline of a document says what stands where: which records there
are, and the fields of each in order, with what may be written for a field that is missing. A respelling
changes one thing in a document, at any depth. -/

namespace Arcade.Spec.Outline

/-- What a game is written with. The last three are what effects hold beside their kind. -/
inductive Record where
  | game | settings | physics | gravity | asset | scene | blueprint | shape | label | emoji | body
  | velocity | controls | logic | spawner | variance | action
  | score | caption | nothing

inductive Part where
  /-- A value of one piece: a text, a number, a truth value or a name of a closed set. -/
  | plain
  /-- Any tree. -/
  | free
  | list (item : Part)
  | record (record : Record)
  /-- A record whose kind is told by one of its members. -/
  | effect

/-- A field of a record: its name, perhaps a second spelling, what it holds and what may be written in
its place when it is missing. -/
structure Entry where
  name : String
  spelling : Option String
  part : Part
  missing : List Json

namespace Entry

def required (name : String) (part : Part) : Entry := ⟨name, none, part, []⟩

def optional (name : String) (part : Part) : Entry := ⟨name, none, part, [.null]⟩

def withDefault (name : String) (part : Part) (standard : List Json) : Entry :=
  ⟨name, none, part, standard⟩

/-- All names of the field. -/
def names (entry : Entry) : List String := entry.name :: entry.spelling.toList

def answersTo (entry : Entry) (key : String) : Bool := key ∈ entry.names

/-- What stands for a field in an array of all fields: the value of its member, or, when it is missing,
what may be written then. -/
def Stands (members : List (String × Json)) (entry : Entry) (item : Json) : Prop :=
  item ∈ Json.under entry.answersTo members ∨
    Json.under entry.answersTo members = [] ∧ item ∈ entry.missing

end Entry

open Entry (required optional withDefault)

/-- Zero, as a whole number and as a fraction. -/
def zero : List Json := [.int 0, .number (.float 0)]

namespace Record

/-- The fields of a record in the order of their declaration. -/
def entries : Record → List Entry
  | game =>
    [required "title" .plain, required "description" .plain, required "game" (.record .settings),
      withDefault "assets" (.list (.record .asset)) [.array []],
      required "scenes" (.list (.record .scene)),
      withDefault "controls_description" (.list .plain) [.array []],
      withDefault "key_concepts" (.list .plain) [.array []]]
  | settings =>
    [required "width" .plain, required "height" .plain,
      withDefault "background_color" .plain [.string "#87CEEB"],
      required "physics" (.record .physics)]
  | physics =>
    [required "enabled" .plain, required "gravity" (.record .gravity),
      withDefault "debug" .plain [.bool false]]
  | gravity => [withDefault "x" .plain zero, required "y" .plain]
  | asset => [required "key" .plain, required "type" .plain, required "url" .plain]
  | scene =>
    [required "name" .plain, required "objects" (.list (.record .blueprint)),
      optional "custom_logic" (.record .logic)]
  | blueprint =>
    [required "id" .plain, required "type" .plain, withDefault "x" .plain zero,
      withDefault "y" .plain zero, optional "texture" .plain, optional "shape" (.record .shape),
      optional "text" (.record .label), optional "emoji" (.record .emoji),
      optional "physics" (.record .body), optional "controls" (.record .controls),
      optional "behavior" .plain, optional "behavior_params" .free]
  | shape =>
    [optional "width" .plain, optional "height" .plain, optional "radius" .plain,
      optional "color" .plain]
  | label => [required "text" .plain, optional "font_size" .plain, optional "fill" .plain]
  | emoji => [⟨"symbol", some "char", .plain, []⟩, optional "size" .plain]
  | body =>
    [required "body" .plain, optional "bounce" .plain, optional "collide_world_bounds" .plain,
      optional "velocity" (.record .velocity)]
  | velocity => [withDefault "x" .plain zero, withDefault "y" .plain zero]
  | controls =>
    [optional "left" .plain, optional "right" .plain, optional "jump" .plain, optional "up" .plain,
      optional "down" .plain, optional "shoot" .plain, optional "projectile" (.record .blueprint),
      optional "speed" .plain, optional "jump_velocity" .plain]
  | logic =>
    [optional "on_collision" (.list .plain), optional "on_overlap" (.list .plain),
      optional "timers" (.list .plain), optional "spawners" (.list (.record .spawner)),
      optional "actions" (.list (.record .action))]
  | spawner =>
    [required "id" .plain, required "template" (.record .blueprint), required "interval" .plain,
      optional "max_count" .plain, required "spawn_area" .plain,
      optional "position_variance" (.record .variance)]
  | variance =>
    [required "x_min" .plain, required "x_max" .plain, optional "y_min" .plain,
      optional "y_max" .plain]
  | action => [required "name" .plain, required "effect" .effect]
  | score => [required "points" .plain]
  | caption => [required "object_id" .plain, required "text" .plain]
  | nothing => []

/-- No field of the record has this name. -/
def Ignores (record : Record) (name : String) : Prop :=
  ∀ entry ∈ record.entries, entry.answersTo name = false

/-- What the effects of a kind hold. -/
def ofEffects : List (String × Record) :=
  [("updateScore", score), ("gameOver", nothing), ("destroy", nothing), ("updateText", caption)]

end Record

/-- The page is the tree, or one thing in it was respelled. -/
inductive Respells : Part → Json → Json → Prop where
  | same {part : Part} (tree : Json) : Respells part tree tree
  /-- The members of an object stand in another order. -/
  | permuted {part : Part} {members others : List (String × Json)}
      (distinct : (members.map (·.1)).Nodup) (order : members.Perm others) :
      Respells part (.object members) (.object others)
  /-- A record has one more member, which none of its fields asks for. -/
  | widened {record : Record} (front rest : List (String × Json)) {name : String}
      (ignored : record.Ignores name) (value : Json) :
      Respells (.record record) (.object (front ++ rest)) (.object (front ++ (name, value) :: rest))
  /-- A member that no field asks for holds something else. -/
  | unasked {record : Record} (front rest : List (String × Json)) {name : String}
      (ignored : record.Ignores name) (tree page : Json) :
      Respells (.record record) (.object (front ++ (name, tree) :: rest))
        (.object (front ++ (name, page) :: rest))
  /-- The value of a field is respelled, or the field has its other name. -/
  | member {record : Record} {entry : Entry} (front rest : List (String × Json)) {name other : String}
      {tree page : Json} (listed : entry ∈ record.entries) (answers : entry.answersTo name = true)
      (again : entry.answersTo other = true) (inner : Respells entry.part tree page) :
      Respells (.record record) (.object (front ++ (name, tree) :: rest))
        (.object (front ++ (other, page) :: rest))
  /-- A record is written as the array of all its fields. -/
  | listed {record : Record} {members : List (String × Json)} {items : List Json}
      (all : List.Forall₂ (Entry.Stands members) record.entries items) :
      Respells (.record record) (.object members) (.array items)
  /-- A field is respelled in a record that is an array. -/
  | slot {record : Record} {entry : Entry} {front : List Json} (rest : List Json) {tree page : Json}
      (there : record.entries[front.length]? = some entry) (inner : Respells entry.part tree page) :
      Respells (.record record) (.array (front ++ tree :: rest)) (.array (front ++ page :: rest))
  /-- Beside the member that tells its kind, an effect is a record. -/
  | effect {label : String} {record : Record} (front rest others more : List (String × Json))
      (known : lookup? label Record.ofEffects = some record)
      (untold : Tagged.tag ∉ (others ++ more).map (·.1))
      (inner : Respells (.record record) (.object (front ++ rest)) (.object (others ++ more))) :
      Respells .effect (.object (front ++ (Tagged.tag, .string label) :: rest))
        (.object (others ++ (Tagged.tag, .string label) :: more))
  | item {part : Part} (front rest : List Json) {tree page : Json} (inner : Respells part tree page) :
      Respells (.list part) (.array (front ++ tree :: rest)) (.array (front ++ page :: rest))
  | freeItem (front rest : List Json) {tree page : Json} (inner : Respells .free tree page) :
      Respells .free (.array (front ++ tree :: rest)) (.array (front ++ page :: rest))
  | freeMember (front rest : List (String × Json)) (name : String) {tree page : Json}
      (inner : Respells .free tree page) :
      Respells .free (.object (front ++ (name, tree) :: rest))
        (.object (front ++ (name, page) :: rest))

/-! ### Fields apart -/

namespace Entry

variable {entry other : Entry} {key : String}

theorem answersTo_iff : entry.answersTo key = true ↔ key ∈ entry.names := decide_eq_true_iff

/-- Of fields whose names are all different, one at most answers to a name. -/
theorem eq_of_answersTo {entries : List Entry} (apart : (entries.flatMap names).Nodup)
    (listed : entry ∈ entries) (known : other ∈ entries) (answers : entry.answersTo key = true)
    (again : other.answersTo key = true) : entry = other := by
  by_contra different
  have symm : Std.Symm (Function.onFun List.Disjoint names) := ⟨fun _ _ => List.disjoint_symm⟩
  have disjoint := (List.nodup_flatMap.mp apart).2.forall listed known different
  exact disjoint (answersTo_iff.mp answers) (answersTo_iff.mp again)

end Entry

theorem Record.apart (record : Record) : (record.entries.flatMap Entry.names).Nodup := by
  cases record <;> decide

/-! ### What may have been respelled -/

namespace Respells

variable {part : Part} {record : Record} {tree page : Json} {members : List (String × Json)}

theorem refl_all (part : Part) (trees : List Json) : List.Forall₂ (Respells part) trees trees :=
  List.forall₂_same.mpr fun tree _ => .same tree

/-- There is one way to write a value of one piece. -/
theorem eq_of_plain (respells : Respells part tree page) (plain : tree.plain = true) : page = tree := by
  cases respells with
  | same => rfl
  | _ => cases plain

theorem eq_null_iff (respells : Respells part tree page) : page = .null ↔ tree = .null := by
  cases respells with
  | same => rfl
  | _ => exact iff_of_false Json.noConfusion Json.noConfusion

/-- A respelled list has as many items, each of them respelled at most. -/
theorem items {trees : List Json} (respells : Respells (.list part) (.array trees) page) :
    ∃ pages, page = .array pages ∧ List.Forall₂ (Respells part) trees pages := by
  cases respells with
  | same => exact ⟨trees, rfl, refl_all part trees⟩
  | item front rest inner =>
    exact ⟨_, rfl, List.rel_append (refl_all part front) (.cons inner (refl_all part rest))⟩

/-- In a respelled record each field finds what it found before in some order, respelled at most; or the
record is an array now. -/
theorem object_cases (respells : Respells (.record record) (.object members) page) :
    (∃ mixed others, page = .object others ∧ members.Perm mixed ∧ ∀ entry ∈ record.entries,
        List.Forall₂ (Respells entry.part) (Json.under entry.answersTo mixed)
          (Json.under entry.answersTo others)) ∨
      ∃ items, page = .array items ∧ List.Forall₂ (Entry.Stands members) record.entries items := by
  cases respells with
  | same => exact .inl ⟨members, members, rfl, .refl members, fun _ _ => refl_all _ _⟩
  | @permuted _ _ others distinct order =>
    exact .inl ⟨others, others, rfl, order, fun _ _ => refl_all _ _⟩
  | listed all => exact .inr ⟨_, rfl, all⟩
  | widened front rest ignored value =>
    refine .inl ⟨_, _, rfl, .refl _, fun entry listed => ?_⟩
    simp only [Json.under_append, Json.under_cons_of_neg (ignored entry listed)]
    exact refl_all _ _
  | unasked front rest ignored tree page =>
    refine .inl ⟨_, _, rfl, .refl _, fun entry listed => ?_⟩
    simp only [Json.under_append, Json.under_cons_of_neg (ignored entry listed)]
    exact refl_all _ _
  | @member _ entry front rest name other tree page listed answers again inner =>
    refine .inl ⟨_, _, rfl, .refl _, fun field known => ?_⟩
    by_cases own : field = entry
    · subst own
      simp only [Json.under_append, Json.under_cons_of_pos answers, Json.under_cons_of_pos again]
      exact List.rel_append (refl_all _ _) (.cons inner (refl_all _ _))
    · have strange : ∀ key, entry.answersTo key = true → field.answersTo key = false := by
        intro key asked
        refine Bool.eq_false_iff.mpr fun also => own ?_
        exact Entry.eq_of_answersTo record.apart known listed also asked
      simp only [Json.under_append, Json.under_cons_of_neg (strange name answers),
        Json.under_cons_of_neg (strange other again)]
      exact refl_all _ _

/-- A respelled record that is an array has as many items, each respelled at most as its field says. -/
theorem slots {trees : List Json} (respells : Respells (.record record) (.array trees) page) :
    ∃ pages, page = .array pages ∧ trees.length = pages.length ∧
      ∀ (i : Nat) (entry : Entry) (tree page : Json), record.entries[i]? = some entry →
        trees[i]? = some tree → pages[i]? = some page → Respells entry.part tree page := by
  cases respells with
  | same =>
    refine ⟨trees, rfl, rfl, fun i entry tree page _ here there => ?_⟩
    cases here.symm.trans there
    exact .same tree
  | @slot _ entry front rest tree page own inner =>
    refine ⟨_, rfl, by simp, fun i other source target known here there => ?_⟩
    by_cases position : i = front.length
    · subst position
      simp only [List.getElem?_append_right (Nat.le_refl _), Nat.sub_self, List.getElem?_cons_zero,
        Option.some.injEq] at here there
      cases own.symm.trans known
      exact here ▸ there ▸ inner
    · have unchanged : (front ++ tree :: rest)[i]? = (front ++ page :: rest)[i]? := by
        rcases Nat.lt_or_gt_of_ne position with before | behind
        · rw [List.getElem?_append_left before, List.getElem?_append_left before]
        · obtain ⟨further, rfl⟩ := Nat.exists_eq_add_of_lt behind
          simp [List.getElem?_append_right, Nat.add_assoc]
      cases (here.symm.trans unchanged).trans there
      exact .same source

/-- A free tree keeps its canonical form. -/
theorem canonical_eq (respells : Respells .free tree page) : page.canonical = tree.canonical := by
  generalize free : Part.free = part at respells
  induction respells with
  | same => rfl
  | permuted distinct order => exact (Json.canonical_perm distinct order).symm
  | freeItem front rest inner ih => simp [Json.canonical, Json.canonicalItems_eq, ih free]
  | freeMember front rest name inner ih => simp [Json.canonical, Json.canonicalMembers_eq, ih free]
  | _ => cases free

/-- Wherever its kind is told now, the other members of an effect are those of a respelled record. -/
theorem untold_perm {label : String} {front rest others : List (String × Json)}
    (distinct : ((front ++ (Tagged.tag, Json.string label) :: rest).map (·.1)).Nodup)
    (order : (front ++ (Tagged.tag, Json.string label) :: rest).Perm others) :
    ∃ before behind, others = before ++ (Tagged.tag, .string label) :: behind ∧
      Tagged.tag ∉ (before ++ behind).map (·.1) ∧
      Respells (.record record) (.object (front ++ rest)) (.object (before ++ behind)) := by
  obtain ⟨before, behind, rfl⟩ :=
    List.append_of_mem (order.subset (List.mem_append_right front List.mem_cons_self))
  have untold : (front ++ rest).Perm (before ++ behind) :=
    (List.perm_middle.symm.trans (order.trans List.perm_middle)).cons_inv
  have whole : (((Tagged.tag, Json.string label) :: (front ++ rest)).map (·.1)).Nodup :=
    (List.perm_middle.map _).nodup_iff.mp distinct
  obtain ⟨fresh, apart⟩ := List.nodup_cons.mp whole
  exact ⟨before, behind, rfl, fun again => fresh ((untold.map (·.1)).mem_iff.mpr again),
    .permuted apart untold⟩

/-- A respelled effect still tells its kind, and the other members are those of a respelled record. -/
theorem effect_cases {label : String} {front rest : List (String × Json)}
    (known : lookup? label Record.ofEffects = some record)
    (untold : Tagged.tag ∉ (front ++ rest).map (·.1))
    (split : members = front ++ (Tagged.tag, .string label) :: rest)
    (respells : Respells .effect (.object members) page) :
    ∃ before behind, page = .object (before ++ (Tagged.tag, .string label) :: behind) ∧
      Tagged.tag ∉ (before ++ behind).map (·.1) ∧
      Respells (.record record) (.object (front ++ rest)) (.object (before ++ behind)) := by
  cases respells with
  | same => exact ⟨front, rest, by rw [split], untold, .same _⟩
  | permuted distinct order =>
    subst split
    obtain ⟨before, behind, rfl, apart, inner⟩ := untold_perm distinct order
    exact ⟨before, behind, rfl, apart, inner⟩
  | @effect told kind first last before behind stated apart inner =>
    -- the tag stands in one place only
    have elsewhere : ∀ part : List (String × Json), Tagged.tag ∉ part.map (·.1) →
        (Tagged.tag, Json.string told) ∉ part :=
      fun part untold inside => untold (List.mem_map.mpr ⟨_, inside, rfl⟩)
    rw [List.map_append, List.mem_append, not_or] at untold
    obtain ⟨rfl, same, rfl⟩ := (List.append_cons_inj_of_notMem (elsewhere front untold.1)
      (elsewhere rest untold.2)).mp split.symm
    cases same
    cases stated.symm.trans known
    exact ⟨before, behind, rfl, apart, inner⟩

end Respells

end Arcade.Spec.Outline
