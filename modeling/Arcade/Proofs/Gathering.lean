import Arcade.Proofs.Reading
import Arcade.Proofs.Reordering

/-! What the fields of a record get. The members of an object are read one after the other, but each
field sees only those it answers to: none, and it takes what stands for its absence, or one, which it
reads. So an object is read field by field, whatever stands between its members, and an array item by
item. -/

namespace Arcade

namespace Json

/-- The values under the names that are asked for. -/
def under (asked : String → Bool) (members : List (String × Json)) : List Json :=
  (members.filter fun member => asked member.1).map (·.2)

variable {asked : String → Bool} {name : String} {tree : Json} {members others : List (String × Json)}

@[simp] theorem under_nil : under asked [] = [] := rfl

@[simp] theorem under_cons_of_pos (answers : asked name = true) :
    under asked ((name, tree) :: members) = tree :: under asked members := by
  simp [under, answers]

@[simp] theorem under_cons_of_neg (strange : asked name = false) :
    under asked ((name, tree) :: members) = under asked members := by
  simp [under, strange]

@[simp] theorem under_append :
    under asked (members ++ others) = under asked members ++ under asked others := by
  simp [under]

theorem perm_under (order : members.Perm others) : (under asked members).Perm (under asked others) :=
  (order.filter _).map _

theorem exists_of_mem_under (member : tree ∈ under asked members) :
    ∃ name, (name, tree) ∈ members ∧ asked name = true := by
  obtain ⟨⟨name, _⟩, inside, rfl⟩ := List.mem_map.mp member
  obtain ⟨inside, answers⟩ := List.mem_filter.mp inside
  exact ⟨name, inside, answers⟩

/-- A whole tree is skimmed without a fault. -/
theorem skim_toDraft (tree : Json) : tree.toDraft.skim = .ok () := by
  induction tree using parts_induction with
  | null | bool | number | string => rfl
  | array items ih =>
    have each : Draft.skimItems (draftItems items) = .ok () := by
      induction items with
      | nil => rfl
      | cons item rest next =>
        obtain ⟨here, there⟩ := List.forall_mem_cons.mp ih
        simp [draftItems, Draft.skimItems, here, next there, bind, Except.bind]
    simp [toDraft, Draft.skim, each, bind, Except.bind]
  | object members ih =>
    have each : Draft.skimMembers (draftMembers members) = .ok () := by
      induction members with
      | nil => rfl
      | cons member rest next =>
        obtain ⟨here, there⟩ := List.forall_mem_cons.mp ih
        simp [draftMembers, Draft.skimMembers, here, next there, bind, Except.bind]
    simp [toDraft, Draft.skim, each, bind, Except.bind]

end Json

namespace Field

@[simp] theorem name_required (name : String) (read : Reader α) :
    (required name read).name = name := rfl

@[simp] theorem spelling_required (name : String) (read : Reader α) :
    (required name read).spelling = none := rfl

@[simp] theorem name_withDefault (name : String) (value : α) (read : Reader α) :
    (withDefault name value read).name = name := rfl

@[simp] theorem spelling_withDefault (name : String) (value : α) (read : Reader α) :
    (withDefault name value read).spelling = none := rfl

@[simp] theorem name_optional (name : String) (read : Reader α) :
    (optional name read).name = name := rfl

@[simp] theorem spelling_optional (name : String) (read : Reader α) :
    (optional name read).spelling = none := rfl

variable {field : Field α} {key : String}

theorem answersTo_iff : field.answersTo key = true ↔ key ∈ field.name :: field.spelling.toList := by
  simp only [answersTo, Bool.or_eq_true, decide_eq_true_eq, List.mem_cons, Option.mem_toList,
    @eq_comm _ key]

theorem answersTo_eq_false_iff :
    field.answersTo key = false ↔ key ∉ field.name :: field.spelling.toList := by
  rw [← answersTo_iff, Bool.not_eq_true]

/-- A field keeps the value it has, else it reads the only member it answers to, and without one it takes
what stands for its absence. It never answers twice. -/
def Gets (field : Field α) : Option α → List Json → α → Prop
  | some known, [], value => known = value
  | none, [], value => field.absent = some value
  | none, [tree], value => field.read tree.toDraft = .ok value
  | _, _, _ => False

/-- A field does not care about the order of the members it answers to. -/
theorem gets_perm {slot : Option α} {trees others : List Json} {value : α}
    (gets : field.Gets slot trees value) (order : trees.Perm others) : field.Gets slot others value := by
  match slot, trees, gets with
  | some _, [], gets => rwa [← order.nil_eq]
  | none, [], gets => rwa [← order.nil_eq]
  | none, [_], gets => rwa [List.perm_singleton.mp order.symm]

end Field

namespace Schema

/-- The names of the fields, without second spellings. -/
@[simp]
def names : Schema τ → List String
  | nil => []
  | cons field rest => field.name :: rest.names

/-- Second spellings of fields. -/
@[simp]
def spellings : Schema τ → List String
  | nil => []
  | cons field rest => field.spelling.toList ++ rest.spellings

/-- No two fields answer to one name. -/
@[simp]
def Apart (schema : Schema τ) : Prop := (schema.names ++ schema.spellings).Nodup

/-- No field answers to the name. -/
def Strange (schema : Schema τ) (key : String) : Prop := key ∉ schema.names ++ schema.spellings

/-- Every field gets its value. -/
def Gets : (schema : Schema τ) → schema.Slots → List (String × Json) → τ → Prop
  | nil, _, _, _ => True
  | cons field rest, slots, members, record =>
    field.Gets slots.1 (Json.under field.answersTo members) record.1 ∧
      rest.Gets slots.2 members record.2

variable {α β : Type} {field : Field α} {others : Schema β} {schema : Schema τ}
  {slots later : schema.Slots} {key : String} {tree : Json} {rest : List (String × Json)} {record : τ}

theorem strange_cons_iff :
    (cons field others).Strange key ↔ field.answersTo key = false ∧ others.Strange key := by
  rw [Field.answersTo_eq_false_iff]
  simp only [Strange, names, spellings, List.mem_append, List.mem_cons, not_or]
  tauto

theorem perm_names_cons (field : Field α) (others : Schema β) :
    ((cons field others).names ++ (cons field others).spellings).Perm
      (field.name :: field.spelling.toList ++ (others.names ++ others.spellings)) :=
  (List.perm_append_comm_assoc others.names field.spelling.toList others.spellings).cons field.name

/-- What one field answers to is strange to the others. -/
theorem apart_cons (apart : (cons field others).Apart) :
    (∀ key, field.answersTo key = true → others.Strange key) ∧ others.Apart := by
  have split := (perm_names_cons field others).nodup_iff.mp apart
  obtain ⟨-, apart, disjoint⟩ := List.nodup_append.mp split
  exact ⟨fun key answers inside => disjoint _ (Field.answersTo_iff.mp answers) _ inside rfl, apart⟩

theorem accept_eq_none_iff {draft : Draft} :
    schema.accept slots key draft = none ↔ schema.Strange key := by
  induction schema with
  | nil => simp [accept, Strange]
  | cons field others ih =>
    rw [strange_cons_iff, ← @ih slots.2]
    cases answers : field.answersTo key with
    | true =>
      simp only [accept, answers, ↓reduceIte]
      split <;> simp
    | false => simp [accept, answers]

/-- A strange member is passed by. -/
theorem gets_skip (strange : schema.Strange key) :
    schema.Gets slots ((key, tree) :: rest) record ↔ schema.Gets slots rest record := by
  induction schema with
  | nil => rfl
  | cons field others ih =>
    obtain ⟨different, strange⟩ := strange_cons_iff.mp strange
    simp only [Gets, Json.under_cons_of_neg different, ih strange]

/-- A member that is accepted reaches its field, and only this one. -/
theorem gets_accept (apart : schema.Apart) {outcome : Except JsonError schema.Slots}
    (accepted : schema.accept slots key tree.toDraft = some outcome) :
    schema.Gets slots ((key, tree) :: rest) record ↔
      ∃ later, outcome = .ok later ∧ schema.Gets later rest record := by
  induction schema with
  | nil => cases accepted
  | cons field others ih =>
    obtain ⟨alone, apart⟩ := apart_cons apart
    obtain ⟨slot, slots⟩ := slots
    cases answers : field.answersTo key with
    | true =>
      simp only [accept, answers, ↓reduceIte] at accepted
      simp only [Gets, Json.under_cons_of_pos answers, gets_skip (alone key answers)]
      generalize Json.under field.answersTo rest = trees
      cases slot with
      | some known =>
        cases accepted
        simp [Field.Gets]
      | none =>
        cases accepted
        -- whatever it answers to after this member is one too many
        cases trees with
        | cons second trees => simp [Field.Gets, map_eq_ok_iff]
        | nil =>
          simp only [Field.Gets, map_eq_ok_iff]
          constructor
          · rintro ⟨read, gets⟩
            exact ⟨_, ⟨_, read, rfl⟩, rfl, gets⟩
          · rintro ⟨_, ⟨value, read, rfl⟩, known, gets⟩
            exact ⟨known ▸ read, gets⟩
    | false =>
      simp only [accept, answers, Bool.false_eq_true, ↓reduceIte, Option.map_eq_some_iff] at accepted
      obtain ⟨inner, accepted, rfl⟩ := accepted
      simp only [Gets, Json.under_cons_of_neg answers, ih apart accepted, map_eq_ok_iff]
      constructor
      · rintro ⟨mine, later, read, gets⟩
        exact ⟨_, ⟨later, read, rfl⟩, mine, gets⟩
      · rintro ⟨_, ⟨later, read, rfl⟩, mine, gets⟩
        exact ⟨mine, later, read, gets⟩

theorem gets_complete : schema.complete slots = .ok record ↔ schema.Gets slots [] record := by
  induction schema with
  | nil => simp [complete, Gets]
  | cons field others ih =>
    obtain ⟨slot, slots⟩ := slots
    obtain ⟨value, record⟩ := record
    simp only [complete, Gets, Json.under_nil, ← ih]
    cases slot with
    | some known => simp [Field.Gets, bind_eq_ok_iff, and_comm]
    | none => cases absent : field.absent <;> simp [Field.Gets, absent, bind_eq_ok_iff, and_comm]

/-- The order of the members does not matter. -/
theorem gets_perm {members others : List (String × Json)} (gets : schema.Gets slots members record)
    (order : members.Perm others) : schema.Gets slots others record := by
  induction schema with
  | nil => trivial
  | cons field rest ih => exact ⟨Field.gets_perm gets.1 (Json.perm_under order), ih gets.2⟩

/-- Members reach the fields that answer to them. -/
theorem gets_members {members : List (String × Json)} (apart : schema.Apart) :
    (∃ later, schema.members slots (Json.draftMembers members) = .ok later ∧
      schema.complete later = .ok record) ↔ schema.Gets slots members record := by
  induction members generalizing slots with
  | nil => simp [Json.draftMembers, Schema.members, gets_complete]
  | cons member rest ih =>
    obtain ⟨key, tree⟩ := member
    simp only [Json.draftMembers, Schema.members]
    cases accepted : schema.accept slots key tree.toDraft with
    | none =>
      rw [gets_skip (accept_eq_none_iff.mp accepted), ← ih]
      simp [Json.skim_toDraft, Reader.ofBreach, bind, Except.bind]
    | some outcome =>
      simp only [gets_accept apart accepted, ← ih, bind_eq_ok_iff]
      constructor
      · rintro ⟨later, ⟨filled, rfl, read⟩, complete⟩
        exact ⟨filled, rfl, later, read, complete⟩
      · rintro ⟨filled, rfl, later, read, complete⟩
        exact ⟨later, ⟨filled, rfl, read⟩, complete⟩

/-- A whole object is read field by field, in whatever order its members stand. -/
theorem read_object {members : List (String × Json)} (apart : schema.Apart) (origin : Origin)
    (name : String) {limit : Nat} (space : limit ≠ 0) :
    schema.read origin name limit (Json.object members).toDraft = .ok record ↔
      schema.Gets schema.vacant members record := by
  obtain ⟨limit, rfl⟩ := Nat.exists_eq_succ_of_ne_zero space
  rw [← gets_members apart]
  exact bind_eq_ok_iff

/-! ### Items of an array -/

section

variable {α β : Type} {field : Field α} {rest : Schema β} {row : α × β} {left : List Draft}

theorem fromItems_cons_iff (torn : Option Cut) (expected : String) (passed : Nat) (item : Draft)
    (items : List Draft) :
    (cons field rest).fromItems torn expected passed (item :: items) = .ok (row, left) ↔
      field.read item = .ok row.1 ∧
        rest.fromItems torn expected (passed + 1) items = .ok (row.2, left) := by
  obtain ⟨value, others⟩ := row
  simp only [fromItems, bind_eq_ok_iff, Except.ok.injEq, Prod.mk.injEq, Prod.exists]
  constructor
  · rintro ⟨_, read, _, _, more, ⟨rfl, rfl⟩, rfl⟩
    exact ⟨read, more⟩
  · rintro ⟨read, more⟩
    exact ⟨value, read, others, left, more, ⟨rfl, rfl⟩, rfl⟩

/-- An array that ends early leaves to its last fields what stands for them. -/
theorem fromItems_nil_iff (expected : String) (passed : Nat) :
    (cons field rest).fromItems none expected passed [] = .ok (row, left) ↔
      field.short = some row.1 ∧ rest.fromItems none expected (passed + 1) [] = .ok (row.2, left) := by
  obtain ⟨value, others⟩ := row
  cases stood : field.short with
  | none => simp [fromItems, stood, Reader.ending, bind, Except.bind]
  | some known =>
    simp only [fromItems, stood, Reader.ending, bind_eq_ok_iff, Except.ok.injEq, Prod.mk.injEq,
      Prod.exists, Option.some.injEq]
    constructor
    · rintro ⟨_, -, _, rfl, _, _, more, ⟨rfl, rfl⟩, rfl⟩
      exact ⟨rfl, more⟩
    · rintro ⟨rfl, more⟩
      exact ⟨(), trivial, known, rfl, others, left, more, ⟨rfl, rfl⟩, rfl⟩

end

/-- An array is read into as many fields as it has items, and none is left over. -/
theorem read_array {items : List Json} (origin : Origin) (name : String)
    {room : Nat} (space : room ≠ 0) :
    schema.read origin name room (Json.array items).toDraft = .ok record ↔
      schema.fromItems none (name ++ " with " ++ countOf schema.length "element" "elements") 0
        (Json.draftItems items) = .ok (record, []) := by
  obtain ⟨room, rfl⟩ := Nat.exists_eq_succ_of_ne_zero space
  simp only [Json.toDraft, Schema.read, fromArray, bind_eq_ok_iff, Prod.exists]
  constructor
  · rintro ⟨found, left, read, done⟩
    cases left with
    | nil =>
      cases done
      exact read
    | cons item left => cases done
  · intro read
    exact ⟨record, [], read, rfl⟩

end Schema

end Arcade
