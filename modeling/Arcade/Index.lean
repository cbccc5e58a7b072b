/-! Values under names, listed in the order of the names. Names are ordered by code point, which
is also the order of their bytes. `get?_insert` and `get?_erase` say what each change does to
the look-up, and `ext_get?` that nothing but the look-ups tells two indexes apart. -/

namespace Arcade

/-- The first value listed under a name. -/
def lookup? (name : String) : List (String × α) → Option α
  | [] => none
  | (key, value) :: rest => if key = name then some value else lookup? name rest

theorem mem_of_lookup? {entries : List (String × α)} {name : String} {value : α}
    (found : lookup? name entries = some value) : (name, value) ∈ entries := by
  induction entries with
  | nil => simp [lookup?] at found
  | cons head rest ih =>
    obtain ⟨key, old⟩ := head
    by_cases same : key = name
    · subst same
      simp [lookup?] at found
      simp [found]
    · simp only [lookup?, same, ↓reduceIte] at found
      exact List.mem_cons_of_mem _ (ih found)

theorem lookup?_filter (name other : String) (entries : List (String × α)) :
    lookup? other (entries.filter fun entry => entry.1 ≠ name) =
      if name = other then none else lookup? other entries := by
  induction entries with
  | nil => simp [lookup?]
  | cons head rest ih =>
    obtain ⟨key, old⟩ := head
    by_cases same : key = name
    · subst same
      by_cases hit : key = other <;> simp_all [lookup?]
    · by_cases hit : name = other
      · subst hit
        simp_all [lookup?]
      · simp_all [lookup?]

/-- Put a value in its place, over the one of the same name if there is one. -/
def insertEntry (name : String) (value : α) : List (String × α) → List (String × α)
  | [] => [(name, value)]
  | (key, old) :: rest =>
    if name = key then (name, value) :: rest
    else if name < key then (name, value) :: (key, old) :: rest
    else (key, old) :: insertEntry name value rest

/-- Entries stand in strictly increasing order of their names. -/
abbrev Increasing (entries : List (String × α)) : Prop :=
  entries.Pairwise fun first second => first.1 < second.1

private theorem mem_insertEntry {name : String} {value : α} {entries : List (String × α)}
    {entry : String × α} (member : entry ∈ insertEntry name value entries) :
    entry = (name, value) ∨ entry ∈ entries := by
  induction entries with
  | nil => simpa [insertEntry] using member
  | cons head rest ih =>
    obtain ⟨key, old⟩ := head
    simp only [insertEntry] at member
    split at member
    · rcases List.mem_cons.mp member with same | inside
      · exact .inl same
      · exact .inr (List.mem_cons_of_mem _ inside)
    · split at member
      · rcases List.mem_cons.mp member with same | inside
        · exact .inl same
        · exact .inr inside
      · rcases List.mem_cons.mp member with same | inside
        · exact .inr (by simp [same])
        · rcases ih inside with same | inside
          · exact .inl same
          · exact .inr (List.mem_cons_of_mem _ inside)

theorem Increasing.insertEntry {entries : List (String × α)} (ordered : Increasing entries)
    (name : String) (value : α) : Increasing (insertEntry name value entries) := by
  induction entries with
  | nil => simp [Arcade.insertEntry]
  | cons head rest ih =>
    obtain ⟨key, old⟩ := head
    obtain ⟨first, tail⟩ := List.pairwise_cons.mp ordered
    simp only [Arcade.insertEntry]
    split
    · rename_i same
      subst same
      exact List.pairwise_cons.mpr ⟨first, tail⟩
    · rename_i different
      split
      · rename_i before
        refine List.pairwise_cons.mpr ⟨?_, ordered⟩
        intro entry member
        rcases List.mem_cons.mp member with same | inside
        · subst same; exact before
        · exact String.lt_trans before (first entry inside)
      · rename_i after
        have later : key < name :=
          Std.lt_of_le_of_ne (String.not_lt.mp after) (Ne.symm different)
        refine List.pairwise_cons.mpr ⟨?_, ih tail⟩
        intro entry member
        rcases mem_insertEntry member with same | inside
        · subst same; exact later
        · exact first entry inside

/-- Values under names, at most one under each. -/
structure Index (α : Type u) where
  entries : List (String × α)
  ordered : Increasing entries

namespace Index

def empty : Index α := ⟨[], List.Pairwise.nil⟩

instance : EmptyCollection (Index α) := ⟨empty⟩
instance : Inhabited (Index α) := ⟨empty⟩

def get? (index : Index α) (name : String) : Option α := lookup? name index.entries

def contains (index : Index α) (name : String) : Bool := (index.get? name).isSome

def insert (index : Index α) (name : String) (value : α) : Index α :=
  ⟨insertEntry name value index.entries, index.ordered.insertEntry name value⟩

def erase (index : Index α) (name : String) : Index α :=
  ⟨index.entries.filter fun entry => entry.1 ≠ name, index.ordered.filter _⟩

/-- Replace the value under a name, if there is one. -/
def modify (index : Index α) (name : String) (change : α → α) : Index α :=
  match index.get? name with
  | some value => index.insert name (change value)
  | none => index

/-- The entries whose values pass a test. -/
def filter (index : Index α) (test : α → Bool) : Index α :=
  ⟨index.entries.filter fun entry => test entry.2, index.ordered.filter _⟩

def size (index : Index α) : Nat := index.entries.length

def keys (index : Index α) : List String := index.entries.map (·.1)

/-- Entries inserted one after the other: the last of a name stays. -/
def ofList (entries : List (String × α)) : Index α :=
  entries.foldl (fun index entry => index.insert entry.1 entry.2) empty

private theorem lookup?_insertEntry (name other : String) (value : α)
    (entries : List (String × α)) :
    lookup? other (insertEntry name value entries) =
      if name = other then some value else lookup? other entries := by
  induction entries with
  | nil => simp [insertEntry, lookup?]
  | cons head rest ih =>
    obtain ⟨key, old⟩ := head
    simp only [insertEntry]
    split
    · rename_i same
      subst same
      by_cases hit : name = other <;> simp [lookup?, hit]
    · rename_i different
      split
      · by_cases hit : name = other <;> simp [lookup?, hit]
      · by_cases hit : name = other
        · subst hit
          simp [lookup?, Ne.symm different, ih]
        · simp [lookup?, hit, ih]

@[simp] theorem get?_empty (name : String) : (∅ : Index α).get? name = none := rfl

theorem get?_insert (index : Index α) (name other : String) (value : α) :
    (index.insert name value).get? other =
      if name = other then some value else index.get? other :=
  lookup?_insertEntry name other value index.entries

@[simp] theorem get?_insert_self (index : Index α) (name : String) (value : α) :
    (index.insert name value).get? name = some value := by
  simp [get?_insert]

theorem get?_erase (index : Index α) (name other : String) :
    (index.erase name).get? other = if name = other then none else index.get? other :=
  lookup?_filter name other index.entries

private theorem lookup?_eq_some_of_mem {entries : List (String × α)}
    (ordered : Increasing entries) {name : String} {value : α}
    (member : (name, value) ∈ entries) : lookup? name entries = some value := by
  induction entries with
  | nil => simp at member
  | cons head rest ih =>
    obtain ⟨key, old⟩ := head
    obtain ⟨first, tail⟩ := List.pairwise_cons.mp ordered
    rcases List.mem_cons.mp member with same | inside
    · cases same; simp [lookup?]
    · have different : key ≠ name := by
        intro same
        have before := first _ inside
        simp only [same] at before
        exact String.lt_irrefl _ before
      simp [lookup?, different, ih tail inside]

/-- The entries are exactly the pairs that a look-up finds. -/
theorem mem_entries_iff (index : Index α) (name : String) (value : α) :
    (name, value) ∈ index.entries ↔ index.get? name = some value :=
  ⟨lookup?_eq_some_of_mem index.ordered, mem_of_lookup?⟩

theorem get?_filter (index : Index α) (test : α → Bool) (name : String) :
    (index.filter test).get? name = (index.get? name).filter test := by
  refine Option.ext fun value => ?_
  rw [Option.filter_eq_some_iff, ← mem_entries_iff, ← mem_entries_iff, filter, List.mem_filter]

theorem get?_modify (index : Index α) (name other : String) (change : α → α) :
    (index.modify name change).get? other =
      if name = other then (index.get? name).map change else index.get? other := by
  unfold modify
  split
  · rename_i value found
    by_cases hit : name = other <;> simp [get?_insert, hit]
    subst hit
    simp [found]
  · rename_i missing
    by_cases hit : name = other
    · subst hit; simp [missing]
    · simp [hit]

private theorem increasing_ext : ∀ {first second : List (String × α)},
    Increasing first → Increasing second →
    (∀ name, lookup? name first = lookup? name second) → first = second
  | [], [], _, _, _ => rfl
  | [], (key, value) :: rest, _, _, same => by
    have here := same key
    simp [lookup?] at here
  | (key, value) :: rest, [], _, _, same => by
    have here := same key
    simp [lookup?] at here
  | (key, value) :: rest, (other, content) :: tail, left, right, same => by
    obtain ⟨leftHead, leftTail⟩ := List.pairwise_cons.mp left
    obtain ⟨rightHead, rightTail⟩ := List.pairwise_cons.mp right
    have keys : key = other := by
      by_cases equal : key = other
      · exact equal
      · have atKey := same key
        have atOther := same other
        simp only [lookup?, ↓reduceIte, Ne.symm equal, equal] at atKey atOther
        have late := rightHead _ (mem_of_lookup? atKey.symm)
        have early := leftHead _ (mem_of_lookup? atOther)
        exact absurd (String.lt_trans late early) (String.lt_irrefl _)
    subst keys
    have values := same key
    simp only [lookup?, ↓reduceIte, Option.some.injEq] at values
    subst values
    have tails : rest = tail := by
      apply increasing_ext leftTail rightTail
      intro name
      by_cases hit : key = name
      · subst hit
        have noLeft : lookup? key rest = none := by
          cases found : lookup? key rest with
          | none => rfl
          | some value => exact absurd (leftHead _ (mem_of_lookup? found)) (String.lt_irrefl _)
        have noRight : lookup? key tail = none := by
          cases found : lookup? key tail with
          | none => rfl
          | some value => exact absurd (rightHead _ (mem_of_lookup? found)) (String.lt_irrefl _)
        rw [noLeft, noRight]
      · simpa [lookup?, hit] using same name
    rw [tails]

/-- Indexes with the same look-ups are the same. -/
theorem ext_get? {first second : Index α}
    (same : ∀ name, first.get? name = second.get? name) : first = second := by
  have entries := increasing_ext first.ordered second.ordered same
  cases first; cases second
  simpa using entries

end Index

end Arcade
