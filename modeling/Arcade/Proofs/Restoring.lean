import Arcade.Json.Tagged
import Arcade.Proofs.Gathering

/-! What a reader makes of a tree that was written. The members of a whole object reach their fields
in whatever order they stand, so a record is read field by field from the values under the names of
its fields. A reader restores a value from a page when every spelling of the page is read as that
value under a condition, and under no other. -/

namespace Arcade

namespace Json

/-- There are levels for an object when one is left for it and the others suffice for its members. -/
theorem depth_object_le_iff {members : List (String × Json)} {levels : Nat} :
    (object members).depth ≤ levels ↔
      levels ≠ 0 ∧ ∀ member ∈ members, member.2.depth ≤ levels - 1 := by
  have each : ∀ levels, depthMembers members ≤ levels ↔ ∀ member ∈ members, member.2.depth ≤ levels := by
    intro levels
    induction members with
    | nil => simp [depthMembers]
    | cons member rest ih => rw [depthMembers, Nat.max_le, ih, List.forall_mem_cons]
  rw [depth, ← each]
  omega

theorem depth_array_le_iff {items : List Json} {levels : Nat} :
    (array items).depth ≤ levels ↔ levels ≠ 0 ∧ ∀ item ∈ items, item.depth ≤ levels - 1 := by
  have each : ∀ levels, depthItems items ≤ levels ↔ ∀ item ∈ items, item.depth ≤ levels := by
    intro levels
    induction items with
    | nil => simp [depthItems]
    | cons item rest ih => rw [depthItems, Nat.max_le, ih, List.forall_mem_cons]
  rw [depth, ← each]
  omega

end Json

/-! ### Members under the names of fields -/

/-- When no name is repeated and none is a second spelling, a field answers to its own name at most. -/
theorem Field.under_answersTo {field : Field α} {members : List (String × Json)}
    (unique : (members.map (·.1)).Nodup)
    (plainly : ∀ spelling ∈ field.spelling, lookup? spelling members = none) :
    Json.under field.answersTo members = (lookup? field.name members).toList := by
  induction members with
  | nil => rfl
  | cons member rest ih =>
    obtain ⟨key, tree⟩ := member
    obtain ⟨fresh, unique⟩ := List.nodup_cons.mp unique
    have apart : ∀ spelling ∈ field.spelling, key ≠ spelling ∧ lookup? spelling rest = none := by
      intro spelling second
      have missing := plainly spelling second
      simp only [lookup?] at missing
      split at missing
      · cases missing
      · exact ⟨‹_›, missing⟩
    have ih := ih unique fun spelling second => (apart spelling second).2
    by_cases own : key = field.name
    · subst own
      rw [Json.under_cons_of_pos (by simp [answersTo]), ih, lookup?_eq_none_iff.mpr fresh]
      simp [lookup?]
    · have strange : field.answersTo key = false := by
        simp only [answersTo, Bool.or_eq_false_iff, decide_eq_false_iff_not]
        exact ⟨Ne.symm own, fun second => (apart key second).1 rfl⟩
      rw [Json.under_cons_of_neg strange, ih]
      simp [lookup?, own]

/-! ### Restored values -/

/-- Every spelling of a page with few enough levels is read as a value under a condition, and under
no other. -/
structure Reader.Restores (read : Reader α) (room : Nat) (page : Json) (value : α) (fine : Prop) :
    Prop where
  distinct : page.Distinct
  reads : ∀ tree : Json, tree.Spells page → tree.depth ≤ room →
    (read tree.toDraft = .ok value ↔ fine)

/-- A field restores its value from what was written under its name, or from its absence. -/
inductive Field.Restores (field : Field α) (room : Nat) : Option Json → α → Prop → Prop where
  | written {page : Json} {value : α} {fine : Prop} (own : field.read.Restores room page value fine) :
      Restores field room (some page) value fine
  | missing {value : α} {fine : Prop} (absent : field.absent = some value) (holds : fine) :
      Restores field room none value fine

/-- The fields restore a record from the pages under their names. -/
inductive Schema.Restores (room : Nat) :
    {τ : Type} → Schema τ → List (String × Option Json) → τ → Prop → Prop where
  | nil : Restores room .nil [] () True
  | cons {α β : Type} {field : Field α} {rest : Schema β} {page : Option Json}
      {pages : List (String × Option Json)} {value : α} {record : β} {fine more : Prop}
      (own : field.Restores room page value fine) (others : rest.Restores room pages record more) :
      Restores room (.cons field rest) ((field.name, page) :: pages) (value, record) (fine ∧ more)

namespace Json

variable {pages : List (String × Option Json)}

/-- The members of a written record. -/
def written (pages : List (String × Option Json)) : List (String × Json) :=
  pages.filterMap fun page => page.2.map (page.1, ·)

theorem record_eq (pages : List (String × Option Json)) : record pages = object (written pages) := rfl

theorem mem_written_iff {name : String} {value : Json} :
    (name, value) ∈ written pages ↔ (name, some value) ∈ pages := by
  simp only [written, List.mem_filterMap, Option.map_eq_some_iff, Prod.mk.injEq, Prod.exists]
  constructor
  · rintro ⟨_, _, member, _, rfl, rfl, rfl⟩
    exact member
  · intro member
    exact ⟨name, some value, member, value, rfl, rfl, rfl⟩

theorem nodup_written (apart : (pages.map (·.1)).Nodup) : ((written pages).map (·.1)).Nodup := by
  refine List.Nodup.sublist ?_ apart
  induction pages with
  | nil => exact .slnil
  | cons page pages ih =>
    obtain ⟨name, value⟩ := page
    cases value with
    | none => exact .cons _ (ih (List.nodup_cons.mp apart).2)
    | some value => exact .cons_cons _ (ih (List.nodup_cons.mp apart).2)

theorem names_written_subset : (written pages).map (·.1) ⊆ pages.map (·.1) := by
  intro name inside
  obtain ⟨⟨_, value⟩, member, rfl⟩ := List.mem_map.mp inside
  exact List.mem_map.mpr ⟨_, mem_written_iff.mp member, rfl⟩

theorem lookup?_written (apart : (pages.map (·.1)).Nodup) {name : String} {page : Option Json}
    (member : (name, page) ∈ pages) : lookup? name (written pages) = page := by
  cases page with
  | some value =>
    exact (lookup?_eq_some_iff (nodup_written apart)).mpr (mem_written_iff.mpr member)
  | none =>
    refine Option.eq_none_iff_forall_not_mem.mpr fun value found => ?_
    have other := mem_written_iff.mp (mem_of_lookup? found)
    have nothing := (lookup?_eq_some_iff apart).mpr member
    rw [(lookup?_eq_some_iff apart).mpr other] at nothing
    cases nothing

/-- Without the member of a name, an object spells the other parts. -/
theorem Spells.without {members : List (String × Json)} {name : String} {page : Json}
    (apart : (name :: pages.map (·.1)).Nodup)
    (spells : (Json.object members).Spells (record ((name, some page) :: pages))) :
    (Json.object (members.filter (·.1 ≠ name))).Spells (record pages) := by
  have whole : (((name, some page) :: pages).map (·.1)).Nodup := apart
  obtain ⟨strange, apart⟩ := List.nodup_cons.mp apart
  obtain ⟨_, ⟨⟩, unique, found⟩ := spells.object (nodup_written whole)
  rw [record_eq]
  refine spells_object (unique.sublist (List.filter_sublist.map _)) (nodup_written apart)
    fun other => ?_
  rw [lookup?_filter]
  split
  · rename_i same
    have nowhere : lookup? other (written pages) = none := by
      rw [lookup?_eq_none_iff, ← same]
      exact fun inside => strange (names_written_subset inside)
    rw [nowhere]
    exact .none
  · rename_i different
    have related := found other
    have same : lookup? other (written ((name, some page) :: pages)) =
        lookup? other (written pages) := by
      change lookup? other ((name, page) :: written pages) = _
      simp [lookup?, different]
    rwa [same] at related

end Json

namespace Schema

variable {schema : Schema τ} {room : Nat} {pages : List (String × Option Json)} {record : τ}
  {fine : Prop}

theorem Restores.names_eq (fields : schema.Restores room pages record fine) :
    schema.names = pages.map (·.1) := by
  induction fields with
  | nil => rfl
  | cons own others ih => exact congrArg (_ :: ·) ih

theorem Restores.distinct (fields : schema.Restores room pages record fine) :
    ∀ page ∈ pages, ∀ value, page.2 = some value → value.Distinct := by
  induction fields with
  | nil => simp
  | cons own others ih =>
    refine List.forall_mem_cons.mpr ⟨?_, ih⟩
    rintro value rfl
    cases own with
    | written own => exact own.distinct

/-- The fields get a record from the pages under their names exactly under its condition. -/
theorem Restores.gets_iff (fields : schema.Restores room pages record fine)
    {members : List (String × Json)} (unique : (members.map (·.1)).Nodup)
    (plainly : ∀ spelling ∈ schema.spellings, lookup? spelling members = none)
    (found : ∀ page ∈ pages, Option.Rel Json.Spells (lookup? page.1 members) page.2)
    (shallow : ∀ name tree, lookup? name members = some tree → tree.depth ≤ room) :
    schema.Gets schema.vacant members record ↔ fine := by
  induction fields with
  | nil => exact Iff.rfl
  | @cons _ _ field rest page pages value record fine more own others ih =>
    obtain ⟨here, there⟩ := List.forall_mem_cons.mp found
    have second : ∀ spelling ∈ field.spelling, lookup? spelling members = none :=
      fun spelling listed => plainly spelling (List.mem_append_left _ (Option.mem_toList.mpr listed))
    refine and_congr ?_ (ih (fun spelling listed => plainly spelling (List.mem_append_right _ listed)) there)
    rw [Field.under_answersTo unique second]
    have level := shallow field.name
    generalize lookup? field.name members = tree at here level
    cases own with
    | written own =>
      cases here with
      | some spells => exact own.reads _ spells (level _ rfl)
    | missing absent holds =>
      cases here with
      | none => simp [Field.Gets, vacant, absent, holds]

/-- A record is restored from its written fields. -/
theorem Restores.read (fields : schema.Restores (room - 1) pages record fine)
    (apart : schema.Apart) {limit : Nat} (space : room ≠ 0 → limit ≠ 0)
    (origin : Origin) (name : String) :
    (schema.read origin name limit).Restores room (Json.record pages) record fine := by
  obtain ⟨distinct, -, second⟩ := List.nodup_append.mp apart
  have named := fields.names_eq
  rw [named] at second
  have alone : (pages.map (·.1)).Nodup := named ▸ distinct
  refine ⟨Json.distinct_object.mpr ⟨Json.nodup_written alone, ?_⟩, fun tree spells deep => ?_⟩
  · rintro ⟨name, value⟩ member
    exact fields.distinct _ (Json.mem_written_iff.mp member) value rfl
  · obtain ⟨members, rfl, unique, found⟩ := spells.object (Json.nodup_written alone)
    obtain ⟨left, inside⟩ := Json.depth_object_le_iff.mp deep
    rw [read_object apart origin name (space left)]
    refine fields.gets_iff unique ?_ (fun page member => ?_) fun name tree here => ?_
    · intro spelling listed
      have nowhere : lookup? spelling (Json.written pages) = none := by
        refine Option.eq_none_iff_forall_not_mem.mpr fun value there => ?_
        have member := Json.mem_written_iff.mp (mem_of_lookup? there)
        exact second _ (List.mem_map_of_mem member) _ listed rfl
      have related := found spelling
      rw [nowhere] at related
      generalize lookup? spelling members = tree at related
      cases related
      rfl
    · have related := found page.1
      rwa [Json.lookup?_written alone member] at related
    · exact inside _ (mem_of_lookup? here)

end Schema

/-! ### Readers that restore -/

namespace Reader

variable {read : Reader α} {room : Nat} {page : Json} {value : α} {fine : Prop}

theorem Restores.congr (own : read.Restores room page value fine) {other : Prop}
    (same : fine ↔ other) : read.Restores room page value other :=
  ⟨own.distinct, fun tree spells deep => (own.reads tree spells deep).trans same⟩

theorem Restores.map (own : read.Restores room page value fine) {make : α → β}
    (injective : Function.Injective make) :
    Reader.Restores (fun draft => (read draft).map make) room page (make value) fine := by
  refine ⟨own.distinct, fun tree spells deep => ?_⟩
  rw [map_eq_ok_iff, ← own.reads tree spells deep]
  constructor
  · rintro ⟨other, found, same⟩
    rw [found, injective same]
  · intro found
    exact ⟨value, found, rfl⟩

/-- What is read from a plain value is told by this value alone. -/
theorem restores_plain (room : Nat) (plain : page.plain = true)
    (reads : read page.toDraft = .ok value ↔ fine) : read.Restores room page value fine := by
  refine ⟨?_, fun tree spells _ => ?_⟩
  · cases page with
    | array | object => cases plain
    | _ => trivial
  · rw [spells.eq_of_plain plain]
    exact reads

/-- Without room for nesting no spelling of an array or an object is left to be read. -/
theorem Restores.shallow (own : read.Restores room page value fine) (nested : page.plain = false)
    (other : Reader α) : other.Restores 0 page value fine := by
  refine ⟨own.distinct, fun tree spells deep => ?_⟩
  have same := spells.same
  cases page with
  | array | object => cases tree <;> simp_all [Json.canonical, Json.depth]
  | _ => cases nested

theorem restores_string (room : Nat) (value : String) :
    string.Restores room (.string value) value True :=
  restores_plain room rfl (by simp [Json.toDraft, string])

theorem restores_bool (room : Nat) (value : Bool) :
    bool.Restores room (.bool value) value True :=
  restores_plain room rfl (by simp [Json.toDraft, bool])

theorem restores_wholeBetween {low high value : Int} (above : low ≤ value) (below : value ≤ high)
    (room : Nat) (expected : String) :
    (wholeBetween low high expected).Restores room (.int value) value True :=
  restores_plain room rfl (by simp [Json.toDraft, Json.int, wholeBetween, above, below])

theorem restores_word32 {value : Nat} (small : value < UInt32.size) (room : Nat) :
    word32.Restores room (.ofNat value) value True := by
  refine restores_plain room rfl ?_
  have below : (value : Int) ≤ 0xFFFFFFFF := by
    change value < 0x100000000 at small
    omega
  simp [Json.toDraft, Json.ofNat, Json.int, word32, wholeBetween, below, Except.map]

theorem restores_variant {kinds : List (String × α)} {name : String}
    (known : lookup? name kinds = some value) (origin : Origin) (levels room : Nat) :
    (variant origin kinds levels).Restores room (.string name) value True :=
  restores_plain room rfl (by simp [Json.toDraft, variant, named, known])

/-- A value behind an option is restored as before, when nothing of it can be taken for its absence. -/
theorem Restores.option (own : read.Restores room page value fine) (present : fine → page ≠ .null) :
    (option read).Restores room page (some value) fine := by
  refine ⟨own.distinct, fun tree spells deep => ?_⟩
  rw [← own.reads tree spells deep]
  cases tree with
  | null =>
    have empty : page = .null := by
      have same := spells.same
      cases page <;> simp_all [Json.canonical]
    have never := (own.reads _ spells deep).not.mpr fun holds => present holds empty
    simp [Json.toDraft, Reader.option] at never ⊢
    exact never
  | _ => simp [Json.toDraft, Reader.option, map_eq_ok_iff]

theorem restores_items {write : α → Json} {fine : α → Prop} {values : List α} {trees : List Json}
    (own : ∀ value ∈ values, read.Restores room (write value) value (fine value))
    (spells : List.Forall₂ Json.Spells trees (values.map write))
    (deep : ∀ tree ∈ trees, tree.depth ≤ room) :
    items read (Json.draftItems trees) = .ok values ↔ ∀ value ∈ values, fine value := by
  induction values generalizing trees with
  | nil =>
    cases spells
    simp [Json.draftItems, items]
  | cons value values ih =>
    cases spells with
    | cons here there =>
      obtain ⟨first, others⟩ := List.forall_mem_cons.mp own
      obtain ⟨level, levels⟩ := List.forall_mem_cons.mp deep
      rw [List.forall_mem_cons, ← ih others there levels, ← first.reads _ here level]
      simp only [Json.draftItems, items, bind_eq_ok_iff, Except.ok.injEq, List.cons.injEq]
      constructor
      · rintro ⟨_, read, _, more, rfl, rfl⟩
        exact ⟨read, more⟩
      · rintro ⟨read, more⟩
        exact ⟨_, read, _, more, rfl, rfl⟩

theorem restores_list {read : Nat → Reader α} {write : α → Json} {fine : α → Prop} {values : List α}
    (own : ∀ value ∈ values, (read (room - 1)).Restores (room - 1) (write value) value (fine value)) :
    (list read room).Restores room (.array (values.map write)) values
      (∀ value ∈ values, fine value) := by
  refine ⟨Json.distinct_array.mpr ?_, fun tree spells deep => ?_⟩
  · simp only [List.forall_mem_map]
    exact fun value member => (own value member).distinct
  · obtain ⟨trees, rfl, each⟩ := spells.array
    obtain ⟨left, levels⟩ := Json.depth_array_le_iff.mp deep
    obtain ⟨room, rfl⟩ := Nat.exists_eq_succ_of_ne_zero left
    rw [← restores_items own each levels]
    simp [Json.toDraft, list, ending, bind_eq_ok_iff]

/-- Free trees are restored in their canonical form. -/
theorem restores_tree (settled : page.canonical = page) (room : Nat) :
    (tree room).Restores room page page True := by
  refine ⟨settled ▸ page.distinct_canonical, fun tree spells deep => ?_⟩
  simp [Reader.tree, Draft.settle_toDraft tree room deep, ofBreach, Except.map, spells.same, settled]

end Reader

namespace Field

variable {read : Reader α} {room : Nat}

theorem restores_required {page : Json} {value : α} {fine : Prop}
    (own : read.Restores room page value fine) (name : String) :
    (required name read).Restores room (some page) value fine :=
  .written own

theorem restores_withDefault {page : Json} {value : α} {fine : Prop}
    (own : read.Restores room page value fine) (name : String) (standard : α) :
    (withDefault name standard read).Restores room (some page) value fine :=
  .written own

theorem restores_optional {write : α → Json} {fine : α → Prop} {part : Option α}
    (own : ∀ value ∈ part, read.Restores room (write value) value (fine value))
    (present : ∀ value ∈ part, fine value → write value ≠ .null) (name : String) :
    (optional name read).Restores room (part.map write) part (∀ value ∈ part, fine value) := by
  cases part with
  | none => exact .missing rfl (by simp)
  | some value =>
    refine .written (Reader.Restores.congr ((own value rfl).option (present value rfl)) ?_)
    simp

/-- A part that nests like its whole, where the reader may be any when no level is left. -/
theorem restores_nested {read : Nat → Reader α} {page : Json} {value : α} {fine : Prop}
    (own : ∀ room, (read room).Restores room page value fine) (nested : page.plain = false)
    {inner : Reader α} (same : room ≠ 0 → inner = read room) (name : String) :
    (optional name inner).Restores room (some page) (some value) fine := by
  have present : fine → page ≠ .null := by
    rintro - rfl
    cases nested
  cases room with
  | zero => exact .written (((own 0).shallow nested inner).option present)
  | succ room =>
    rw [same (Nat.succ_ne_zero room)]
    exact .written ((own (room + 1)).option present)

end Field

/-! ### Kinds told apart by a tag -/

namespace Tagged

variable {kinds : List (String × α)} {room : Nat} {members : List (String × Json)}
  {aside : List (String × Json)}

theorem gather_untagged (kind : Option α) (untagged : tag ∉ members.map (·.1))
    (deep : ∀ member ∈ members, member.2.depth ≤ room) :
    gather room kinds kind aside (Json.draftMembers members) =
      .ok (kind, members.reverse ++ aside) := by
  induction members generalizing aside with
  | nil => rfl
  | cons member rest ih =>
    obtain ⟨name, value⟩ := member
    obtain ⟨different, untagged⟩ := List.ne_and_not_mem_of_not_mem_cons untagged
    obtain ⟨level, deep⟩ := List.forall_mem_cons.mp deep
    simp [Json.draftMembers, gather, Ne.symm different, Draft.settle_toDraft value room level,
      Reader.ofBreach, bind, Except.bind, ih untagged deep]

/-- The tag is found wherever it stands, and all other members are set aside. -/
theorem gather_around {label : String} {body : α} (known : lookup? label kinds = some body)
    {front rest : List (String × Json)} (untagged : tag ∉ (front ++ rest).map (·.1))
    (deep : ∀ member ∈ front ++ rest, member.2.depth ≤ room) :
    gather room kinds none aside (Json.draftMembers (front ++ (tag, .string label) :: rest)) =
      .ok (some body, (front ++ rest).reverse ++ aside) := by
  induction front generalizing aside with
  | nil =>
    rw [List.nil_append] at untagged deep
    simp [Json.draftMembers, gather, Json.toDraft, Reader.variantName, Reader.named, known, bind,
      Except.bind, gather_untagged _ untagged deep]
  | cons member front ih =>
    obtain ⟨name, value⟩ := member
    obtain ⟨different, untagged⟩ := List.ne_and_not_mem_of_not_mem_cons untagged
    obtain ⟨level, deep⟩ := List.forall_mem_cons.mp deep
    simp [Json.draftMembers, gather, Ne.symm different, Draft.settle_toDraft value room level,
      Reader.ofBreach, bind, Except.bind, ih untagged deep]

theorem gather_tagged {label : String} {body : α} (known : lookup? label kinds = some body)
    (unique : (members.map (·.1)).Nodup) (tagged : lookup? tag members = some (.string label))
    (deep : ∀ member ∈ members, member.2.depth ≤ room) :
    gather room kinds none aside (Json.draftMembers members) =
      .ok (some body, (members.filter (·.1 ≠ tag)).reverse ++ aside) := by
  obtain ⟨front, rest, rfl⟩ := List.append_of_mem (mem_of_lookup? tagged)
  have whole : (((tag, Json.string label) :: (front ++ rest)).map (·.1)).Nodup :=
    (List.perm_middle.map _).nodup_iff.mp unique
  obtain ⟨fresh, -⟩ := List.nodup_cons.mp whole
  have others : (front ++ (tag, Json.string label) :: rest).filter (·.1 ≠ tag) = front ++ rest := by
    have kept : (front ++ rest).filter (·.1 ≠ tag) = front ++ rest :=
      List.filter_eq_self.mpr fun member inside => decide_eq_true fun same =>
        fresh (List.mem_map.mpr ⟨member, inside, same⟩)
    simpa using kept
  rw [others]
  refine gather_around known fresh fun member inside => deep member ?_
  exact List.perm_middle.symm.subset (List.mem_cons_of_mem _ inside)

/-- A tagged value is restored when the reader of its kind restores it from the other parts. -/
theorem restores_read {kinds : List (String × Reader α)} {label : String} {body : Reader α}
    (known : lookup? label kinds = some body) {parts : List (String × Option Json)}
    (apart : (tag :: parts.map (·.1)).Nodup) {value : α} {fine : Prop}
    (own : body.Restores room (Json.record parts) value fine) (name : String) :
    (read name kinds room).Restores room
      (Json.record ((tag, some (.string label)) :: parts)) value fine := by
  have whole : (((tag, some (Json.string label)) :: parts).map (·.1)).Nodup := apart
  obtain ⟨-, each⟩ := Json.distinct_object.mp own.distinct
  refine ⟨Json.distinct_object.mpr ⟨Json.nodup_written whole, ?_⟩, fun tree spells deep => ?_⟩
  · exact List.forall_mem_cons.mpr ⟨trivial, each⟩
  · obtain ⟨members, rfl, unique, found⟩ := spells.object (Json.nodup_written whole)
    obtain ⟨left, levels⟩ := Json.depth_object_le_iff.mp deep
    obtain ⟨room, rfl⟩ := Nat.exists_eq_succ_of_ne_zero left
    rw [Nat.succ_sub_one] at levels
    have tagged : lookup? tag members = some (.string label) := by
      have related := found tag
      rw [Json.lookup?_written whole List.mem_cons_self] at related
      generalize lookup? tag members = tree at related
      cases related with
      | some spells => rw [spells.eq_of_plain rfl]
    have inside : (Json.object (members.filter (·.1 ≠ tag))).depth ≤ room + 1 :=
      Json.depth_object_le_iff.mpr ⟨left, fun member here => levels member (List.mem_filter.mp here).1⟩
    rw [← own.reads _ (spells.without apart) inside]
    simp [Json.toDraft, read, gather_tagged known unique tagged levels, bind, Except.bind]

/-- The parts of a kind are read like a record. -/
theorem restores_parts {schema : Schema τ} {pages : List (String × Option Json)} {record : τ}
    {fine : Prop} (fields : schema.Restores (room - 1) pages record fine)
    (apart : schema.Apart) {make : τ → α}
    (injective : Function.Injective make) (name : String) :
    (parts name schema make).Restores room (Json.record pages) (make record) fine :=
  (fields.read apart (fun _ => Nat.one_ne_zero) .aside name).map injective

theorem restores_bare (room : Nat) (value : α) :
    (bare value).Restores room (Json.record []) value True := by
  have distinct : (Json.record []).Distinct := Json.distinct_object.mpr ⟨List.nodup_nil, by simp⟩
  refine ⟨distinct, fun tree spells _ => ?_⟩
  obtain ⟨members, rfl, -⟩ := spells.object (Json.distinct_object.mp distinct).1
  simp [Json.toDraft, bare]

end Tagged

end Arcade
