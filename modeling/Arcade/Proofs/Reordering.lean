import Mathlib.Data.List.Forall2
import Arcade.Json.Draft

/-! The order in which members stand does not matter to what a tree holds. A tree in which no object
repeats a name is one spelling of its canonical tree, and two spellings of one tree find equal values
under every name. -/

namespace Arcade

/-! ### Values under distinct names -/

theorem lookup?_eq_none_iff {name : String} {entries : List (String × α)} :
    lookup? name entries = none ↔ name ∉ entries.map (·.1) := by
  induction entries with
  | nil => simp [lookup?]
  | cons entry rest ih =>
    obtain ⟨key, value⟩ := entry
    by_cases here : key = name
    · simp [lookup?, here]
    · simp [lookup?, here, ih, Ne.symm here]

theorem lookup?_eq_some_iff {name : String} {value : α} {entries : List (String × α)}
    (distinct : (entries.map (·.1)).Nodup) :
    lookup? name entries = some value ↔ (name, value) ∈ entries := by
  refine ⟨mem_of_lookup?, fun member => ?_⟩
  induction entries with
  | nil => cases member
  | cons entry rest ih =>
    obtain ⟨key, other⟩ := entry
    obtain ⟨fresh, distinct⟩ := List.nodup_cons.mp distinct
    rcases List.mem_cons.mp member with here | there
    · cases here
      simp [lookup?]
    · have apart : key ≠ name := by
        rintro rfl
        exact fresh (List.mem_map.mpr ⟨_, there, rfl⟩)
      simpa only [lookup?, apart, ↓reduceIte] using ih distinct there

/-- What stands under a name does not depend on the order of the entries. -/
theorem lookup?_perm {entries others : List (String × α)} (distinct : (entries.map (·.1)).Nodup)
    (order : entries.Perm others) (name : String) : lookup? name entries = lookup? name others := by
  have apart := (order.map (·.1)).nodup_iff.mp distinct
  refine Option.ext fun value => ?_
  rw [lookup?_eq_some_iff distinct, lookup?_eq_some_iff apart, order.mem_iff]

theorem lookup?_map (change : α → β) (name : String) (entries : List (String × α)) :
    lookup? name (entries.map fun entry => (entry.1, change entry.2)) =
      (lookup? name entries).map change := by
  induction entries with
  | nil => rfl
  | cons entry rest ih =>
    obtain ⟨key, value⟩ := entry
    by_cases here : key = name <;> simp [lookup?, here, ih]

/-- In a list the first value of a name is found, in an index the last one that was entered. -/
theorem Index.get?_ofList_reverse (entries : List (String × α)) (name : String) :
    (Index.ofList entries.reverse).get? name = lookup? name entries := by
  unfold Index.ofList
  rw [List.foldl_reverse]
  induction entries with
  | nil => rfl
  | cons entry rest ih =>
    rw [List.foldr_cons, Index.get?_insert, ih]
    rfl

theorem Index.get?_ofList {entries : List (String × α)} (distinct : (entries.map (·.1)).Nodup)
    (name : String) : (Index.ofList entries).get? name = lookup? name entries := by
  have turned := Index.get?_ofList_reverse entries.reverse name
  rw [List.reverse_reverse] at turned
  rw [turned]
  exact (lookup?_perm distinct (List.reverse_perm entries).symm name).symm

theorem Index.mem_of_mem_ofList {entries : List (String × α)} {entry : String × α}
    (member : entry ∈ (Index.ofList entries).entries) : entry ∈ entries := by
  have found := (Index.mem_entries_iff _ entry.1 entry.2).mp member
  rw [← entries.reverse_reverse, Index.get?_ofList_reverse] at found
  exact List.mem_reverse.mp (mem_of_lookup? found)

theorem Index.nodup_entries (index : Index α) : (index.entries.map (·.1)).Nodup := by
  refine List.pairwise_map.mpr (index.ordered.imp ?_)
  intro first second before same
  rw [same] at before
  exact String.lt_irrefl _ before

theorem Index.ofList_entries (index : Index α) : Index.ofList index.entries = index :=
  Index.ext_get? fun name => Index.get?_ofList index.nodup_entries name

namespace Json

/-! ### Trees without repeated names -/

/-- What holds of plain values, and of arrays and objects when it holds of their parts, holds of
every tree. -/
@[elab_as_elim]
theorem parts_induction {holds : Json → Prop} (null : holds .null) (bool : ∀ value, holds (.bool value))
    (number : ∀ value, holds (.number value)) (string : ∀ value, holds (.string value))
    (array : ∀ items, (∀ item ∈ items, holds item) → holds (.array items))
    (object : ∀ members, (∀ member ∈ members, holds member.2) → holds (.object members)) :
    ∀ tree, holds tree
  | .null => null
  | .bool value => bool value
  | .number value => number value
  | .string value => string value
  | .array items => array items fun item _ =>
    parts_induction null bool number string array object item
  | .object members => object members fun member inside =>
    have : sizeOf member.2 < sizeOf members := by
      have below := List.sizeOf_lt_of_mem inside
      have : sizeOf member = 1 + sizeOf member.1 + sizeOf member.2 := by cases member; rfl
      omega
    parts_induction null bool number string array object member.2

theorem canonicalItems_eq (items : List Json) : canonicalItems items = items.map canonical := by
  induction items with
  | nil => rfl
  | cons item rest ih => simp [canonicalItems, ih]

theorem canonicalMembers_eq (members : List (String × Json)) :
    canonicalMembers members = members.map fun member => (member.1, member.2.canonical) := by
  induction members with
  | nil => rfl
  | cons member rest ih => simp [canonicalMembers, ih]

mutual

/-- No object of the tree repeats a name. -/
def Distinct : Json → Prop
  | array items => DistinctItems items
  | object members => (members.map (·.1)).Nodup ∧ DistinctMembers members
  | _ => True

def DistinctItems : List Json → Prop
  | [] => True
  | item :: rest => item.Distinct ∧ DistinctItems rest

def DistinctMembers : List (String × Json) → Prop
  | [] => True
  | (_, value) :: rest => value.Distinct ∧ DistinctMembers rest

end

theorem distinct_array {items : List Json} :
    (array items).Distinct ↔ ∀ item ∈ items, item.Distinct := by
  rw [Distinct]
  induction items with
  | nil => simp [DistinctItems]
  | cons item rest ih => simp [DistinctItems, ih]

theorem distinct_object {members : List (String × Json)} :
    (object members).Distinct ↔
      (members.map (·.1)).Nodup ∧ ∀ member ∈ members, member.2.Distinct := by
  have each : DistinctMembers members ↔ ∀ member ∈ members, member.2.Distinct := by
    induction members with
    | nil => simp [DistinctMembers]
    | cons member rest ih => simp [DistinctMembers, ih]
  rw [Distinct, each]

theorem distinct_canonical (tree : Json) : tree.canonical.Distinct := by
  induction tree using parts_induction with
  | null | bool | number | string => trivial
  | array items ih =>
    rw [canonical, canonicalItems_eq, distinct_array]
    simpa using ih
  | object members ih =>
    rw [canonical, distinct_object]
    refine ⟨Index.nodup_entries _, fun member inside => ?_⟩
    have inside := Index.mem_of_mem_ofList inside
    rw [canonicalMembers_eq] at inside
    obtain ⟨source, known, rfl⟩ := List.mem_map.mp inside
    exact ih source known

theorem canonical_canonical (tree : Json) : tree.canonical.canonical = tree.canonical := by
  induction tree using parts_induction with
  | null | bool | number | string => rfl
  | array items ih =>
    simpa [canonical, canonicalItems_eq] using ih
  | object members ih =>
    have settled : canonicalMembers (Index.ofList (canonicalMembers members)).entries =
        (Index.ofList (canonicalMembers members)).entries := by
      rw [canonicalMembers_eq]
      refine (List.map_congr_left fun member inside => ?_).trans (List.map_id _)
      have inside := Index.mem_of_mem_ofList inside
      rw [canonicalMembers_eq] at inside
      obtain ⟨source, known, rfl⟩ := List.mem_map.mp inside
      simp [ih source known]
    simp only [canonical, settled, Index.ofList_entries]

/-- Objects have one canonical tree when they find the same under every name. -/
theorem canonical_object {members others : List (String × Json)}
    (unique : (members.map (·.1)).Nodup) (apart : (others.map (·.1)).Nodup)
    (found : ∀ name, (lookup? name members).map canonical = (lookup? name others).map canonical) :
    (object members).canonical = (object others).canonical := by
  simp only [canonical, canonicalMembers_eq]
  refine congrArg (fun index => object (Index.entries index)) (Index.ext_get? fun name => ?_)
  rw [Index.get?_ofList (by simpa [Function.comp_def] using unique),
    Index.get?_ofList (by simpa [Function.comp_def] using apart), lookup?_map, lookup?_map, found]

theorem canonical_perm {members others : List (String × Json)}
    (distinct : (members.map (·.1)).Nodup) (order : members.Perm others) :
    (object members).canonical = (object others).canonical :=
  canonical_object distinct ((order.map (·.1)).nodup_iff.mp distinct) fun name =>
    congrArg _ (lookup?_perm distinct order name)

/-- A tree repeats no name and holds what the page holds, in any order. -/
structure Spells (tree page : Json) : Prop where
  distinct : tree.Distinct
  same : tree.canonical = page.canonical

theorem Distinct.spells {tree : Json} (distinct : tree.Distinct) : tree.Spells tree :=
  ⟨distinct, rfl⟩

theorem spells_canonical (tree : Json) : tree.canonical.Spells tree :=
  ⟨tree.distinct_canonical, tree.canonical_canonical⟩

/-- Neither an array nor an object. -/
def plain : Json → Bool
  | array _ | object _ => false
  | _ => true

/-- A plain value has one spelling. -/
theorem Spells.eq_of_plain {tree page : Json} (spells : tree.Spells page)
    (plain : page.plain = true) : tree = page := by
  have same := spells.same
  cases page with
  | array | object => cases plain
  | _ => cases tree <;> simp_all [canonical]

theorem Spells.array {tree : Json} {pages : List Json} (spells : tree.Spells (.array pages)) :
    ∃ items, tree = .array items ∧ List.Forall₂ Spells items pages := by
  obtain ⟨distinct, same⟩ := spells
  cases tree with
  | array items =>
    refine ⟨items, rfl, ?_⟩
    simp only [canonical, canonicalItems_eq, array.injEq] at same
    rw [distinct_array] at distinct
    induction items generalizing pages with
    | nil => cases pages <;> simp_all
    | cons item items ih =>
      cases pages with
      | nil => simp at same
      | cons page pages =>
        obtain ⟨here, there⟩ := List.cons.inj same
        obtain ⟨first, others⟩ := List.forall_mem_cons.mp distinct
        exact .cons ⟨first, here⟩ (ih others there)
  | _ => simp [canonical] at same

/-- Spellings of an object are objects that find spellings of the same values. -/
theorem Spells.object {tree : Json} {pages : List (String × Json)}
    (apart : (pages.map (·.1)).Nodup) (spells : tree.Spells (.object pages)) :
    ∃ members, tree = .object members ∧ (members.map (·.1)).Nodup ∧
      ∀ name, Option.Rel Spells (lookup? name members) (lookup? name pages) := by
  obtain ⟨distinct, same⟩ := spells
  cases tree with
  | object members =>
    obtain ⟨unique, each⟩ := distinct_object.mp distinct
    refine ⟨members, rfl, unique, fun name => ?_⟩
    simp only [canonical, canonicalMembers_eq, object.injEq] at same
    have found : (lookup? name members).map canonical = (lookup? name pages).map canonical := by
      rw [← lookup?_map, ← lookup?_map, ← Index.get?_ofList, ← Index.get?_ofList, Index.get?, same]
      · rfl
      · simpa [Function.comp_def] using apart
      · simpa [Function.comp_def] using unique
    cases here : lookup? name members with
    | none =>
      rw [here] at found
      rw [Option.map_eq_none_iff.mp found.symm]
      exact .none
    | some value =>
      rw [here] at found
      obtain ⟨page, there, equal⟩ := Option.map_eq_some_iff.mp found.symm
      rw [there]
      exact .some ⟨each _ (mem_of_lookup? here), equal.symm⟩
  | _ => simp [canonical] at same

/-- Objects that find spellings of the same values are spellings of each other. -/
theorem spells_object {members pages : List (String × Json)}
    (unique : (members.map (·.1)).Nodup) (apart : (pages.map (·.1)).Nodup)
    (found : ∀ name, Option.Rel Spells (lookup? name members) (lookup? name pages)) :
    (object members).Spells (object pages) := by
  refine ⟨distinct_object.mpr ⟨unique, fun member inside => ?_⟩, ?_⟩
  · have here := (lookup?_eq_some_iff unique).mpr inside
    have related := found member.1
    rw [here] at related
    generalize lookup? member.1 pages = page at related
    cases related with
    | some spells => exact spells.distinct
  · refine canonical_object unique apart fun name => ?_
    have related := found name
    generalize lookup? name members = value at related ⊢
    generalize lookup? name pages = page at related ⊢
    cases related with
    | none => rfl
    | some spells => exact congrArg some spells.same

end Json

end Arcade
