import Arcade.Roster
import Mathlib.Data.List.Nodup
import Mathlib.Data.List.Perm.Basic

/-! A roster seen through its handles. The rows and the order in them are of no account here: as long
as no two actors share a handle, each operation is known by what a look-up finds after it. -/

namespace Arcade

/-- What a blueprint shoots, if it shoots. -/
def Spec.Blueprint.weapon? (blueprint : Spec.Blueprint S) : Option (Spec.Blueprint S) :=
  blueprint.controls.bind (·.projectile)

/-- What an actor shoots, if it shoots. -/
def Actor.weapon? (actor : Actor S T) : Option (Spec.Blueprint S) :=
  actor.controls.bind (·.projectile)

/-- What an actor is known by: its id, its group, whether it is a copy, and what it shoots. -/
structure Identity (S : Type) where
  id : String
  group : Option String
  transient : Bool
  weapon : Option (Spec.Blueprint S)

def Actor.identity (actor : Actor S T) : Identity S :=
  ⟨actor.id, actor.group, actor.transient, actor.weapon?⟩

/-- A change after which every actor is known as before. -/
def Actor.Keeps (change : Actor S T → Actor S T) : Prop :=
  ∀ actor, (change actor).handle = actor.handle ∧ (change actor).identity = actor.identity

namespace Roster

variable {S T : Type} {roster : Roster S T}

def handles (roster : Roster S T) : List Handle := roster.actors.map (·.handle)

/-- What is known of the actor of a handle. -/
def who? (roster : Roster S T) (handle : Handle) : Option (Identity S) :=
  (roster.find? handle).map Actor.identity

theorem find?_eq_some_iff (distinct : roster.handles.Nodup) {handle : Handle}
    {actor : Actor S T} :
    roster.find? handle = some actor ↔ actor ∈ roster.actors ∧ actor.handle = handle := by
  constructor
  · intro found
    exact ⟨List.mem_of_find?_eq_some found, by simpa using List.find?_some found⟩
  · rintro ⟨member, rfl⟩
    obtain ⟨other, found⟩ : ∃ other, roster.find? actor.handle = some other := by
      cases missing : roster.find? actor.handle with
      | some other => exact ⟨other, rfl⟩
      | none =>
        have unlike := List.find?_eq_none.mp missing actor member
        simp at unlike
    have present := List.mem_of_find?_eq_some found
    have same : other.handle = actor.handle := by simpa using List.find?_some found
    rw [found, List.inj_on_of_nodup_map distinct present member same]

theorem mem_handles_iff {handle : Handle} :
    handle ∈ roster.handles ↔ roster.contains handle = true := by
  simp [handles, contains, find?]

theorem find?_eq_none_iff {handle : Handle} :
    roster.find? handle = none ↔ handle ∉ roster.handles := by
  rw [mem_handles_iff, contains]
  cases roster.find? handle <;> simp

theorem who?_eq_none_iff {handle : Handle} :
    roster.who? handle = none ↔ handle ∉ roster.handles := by
  rw [who?, Option.map_eq_none_iff, find?_eq_none_iff]

/-- Rosters with the same actors in another order find the same. -/
theorem find?_congr {other : Roster S T} (distinct : roster.handles.Nodup)
    (same : roster.actors.Perm other.actors) (handle : Handle) :
    other.find? handle = roster.find? handle := by
  have apart : other.handles.Nodup := (same.map Actor.handle).nodup_iff.mp distinct
  apply Option.ext
  intro actor
  rw [find?_eq_some_iff apart, find?_eq_some_iff distinct, same.mem_iff]

/-! ### Adding and removing -/

theorem actors_add_perm (roster : Roster S T) (actor : Actor S T) :
    (roster.add actor).actors.Perm (actor :: roster.actors) := by
  obtain ⟨rows⟩ := roster
  simp only [add, actors]
  induction rows with
  | nil => simp [place]
  | cons row rest ih =>
    unfold place
    split
    · simp only [List.flatMap_cons, List.append_assoc, List.singleton_append]
      exact List.perm_middle
    · simp only [List.flatMap_cons]
      exact (ih.append_left row.actors).trans List.perm_middle

/-- Where no two actors share a handle, dropping the first of a handle drops all of it. -/
private theorem eraseP_eq_filter {actors : List (Actor S T)} {handle : Handle}
    (distinct : (actors.map (·.handle)).Nodup) :
    actors.eraseP (·.handle = handle) = actors.filter (·.handle ≠ handle) := by
  induction actors with
  | nil => rfl
  | cons head rest ih =>
    obtain ⟨fresh, tail⟩ := List.nodup_cons.mp distinct
    by_cases hit : head.handle = handle
    · subst hit
      have kept : rest.filter (·.handle ≠ head.handle) = rest := by
        apply List.filter_eq_self.mpr
        intro other member
        have different : other.handle ≠ head.handle :=
          fun same => fresh (List.mem_map.mpr ⟨other, member, same⟩)
        simpa using different
      simpa using kept.symm
    · have ih := ih tail
      simp only [ne_eq, decide_not] at ih
      simp [hit, ih]

theorem actors_remove_perm (distinct : roster.handles.Nodup) (handle : Handle) :
    (roster.remove handle).actors.Perm (roster.actors.filter (·.handle ≠ handle)) := by
  obtain ⟨rows⟩ := roster
  simp only [remove, actors, List.flatMap_map, List.filter_flatMap]
  apply List.Perm.flatMap_left
  intro row member
  have inside : row.actors.Sublist (rows.flatMap (·.actors)) :=
    List.sublist_flatten_of_mem (List.mem_map_of_mem member)
  have apart : (row.actors.map (·.handle)).Nodup := distinct.sublist (inside.map _)
  rw [← eraseP_eq_filter apart]
  exact swapRemove_perm _ _

/-- An actor and the others are all that there are. -/
theorem actors_perm_cons_remove (distinct : roster.handles.Nodup) {actor : Actor S T}
    (member : actor ∈ roster.actors) :
    roster.actors.Perm (actor :: (roster.remove actor.handle).actors) := by
  refine List.Perm.trans ?_ ((actors_remove_perm distinct actor.handle).symm.cons actor)
  rw [← eraseP_eq_filter distinct]
  obtain ⟨before, after, split⟩ := List.append_of_mem member
  have others : ∀ other ∈ before, ¬ other.handle = actor.handle := by
    intro other inside same
    have tidy := distinct
    simp only [handles, split, List.map_append, List.map_cons, List.nodup_append] at tidy
    exact tidy.2.2 other.handle (List.mem_map_of_mem inside) actor.handle List.mem_cons_self same
  rw [split, List.eraseP_append_right _ (by simpa using others), List.eraseP_cons_of_pos (by simp)]
  exact List.perm_middle

/-! ### Changing actors -/

@[simp] theorem actors_map (roster : Roster S T) (change : Actor S T → Actor S T) :
    (roster.map change).actors = roster.actors.map change := by
  simp [map, actors, List.flatMap_map, List.map_flatMap]

theorem actors_modify (roster : Roster S T) (handle : Handle)
    (change : Actor S T → Actor S T) :
    (roster.modify handle change).actors =
      roster.actors.map fun actor => if actor.handle = handle then change actor else actor :=
  actors_map ..

/-- Changing one actor is a change where it stands, but for the order. -/
theorem actors_update_perm (distinct : roster.handles.Nodup) (handle : Handle)
    (change : Actor S T → Actor S T) :
    (roster.update handle change).actors.Perm
      (roster.actors.map fun actor => if actor.handle = handle then change actor else actor) := by
  simp only [update]
  split
  · rename_i missing
    have absent := find?_eq_none_iff.mp missing
    rw [List.map_congr_left (g := id), List.map_id]
    intro actor member
    have different : actor.handle ≠ handle := by
      intro same
      exact absent (same ▸ List.mem_map_of_mem member)
    simp [different]
  · rename_i found hit
    obtain ⟨member, same⟩ := (find?_eq_some_iff distinct).mp hit
    have only : ∀ actor ∈ roster.actors, actor.handle = handle → actor = found := by
      intro actor inside equal
      exact List.inj_on_of_nodup_map distinct inside member (equal.trans same.symm)
    split
    · rw [actors_modify]
      refine List.Perm.of_eq (List.map_congr_left ?_)
      intro actor inside
      by_cases equal : actor.handle = handle
      · simp [only actor inside equal]
      · simp [equal]
    · subst same
      refine (actors_add_perm _ _).trans ?_
      refine List.Perm.trans ?_ ((actors_perm_cons_remove distinct member).map _).symm
      rw [List.map_cons, if_pos rfl]
      refine List.Perm.cons _ (List.Perm.of_eq ?_)
      rw [List.map_congr_left (g := id), List.map_id]
      intro actor inside
      have other := (actors_remove_perm distinct found.handle).mem_iff.mp inside
      have different : actor.handle ≠ found.handle := by simpa using (List.mem_filter.mp other).2
      simp [different]

/-! ### What look-ups find -/

theorem handles_add_perm (roster : Roster S T) (actor : Actor S T) :
    (roster.add actor).handles.Perm (actor.handle :: roster.handles) :=
  (actors_add_perm roster actor).map _

theorem handles_remove_perm (distinct : roster.handles.Nodup) {handle : Handle}
    (present : handle ∈ roster.handles) :
    roster.handles.Perm (handle :: (roster.remove handle).handles) := by
  obtain ⟨actor, member, rfl⟩ := List.mem_map.mp present
  exact (actors_perm_cons_remove distinct member).map _

theorem handles_map {change : Actor S T → Actor S T}
    (keeps : ∀ actor, (change actor).handle = actor.handle) :
    (roster.map change).handles = roster.handles := by
  simp [handles, Function.comp_def, keeps]

theorem handles_modify {change : Actor S T → Actor S T}
    (keeps : ∀ actor, (change actor).handle = actor.handle) (handle : Handle) :
    (roster.modify handle change).handles = roster.handles := by
  apply handles_map
  intro actor
  split
  · exact keeps actor
  · rfl

theorem handles_update_perm (distinct : roster.handles.Nodup)
    {change : Actor S T → Actor S T} (keeps : ∀ actor, (change actor).handle = actor.handle)
    (handle : Handle) : (roster.update handle change).handles.Perm roster.handles := by
  have order := (actors_update_perm distinct handle change).map Actor.handle
  have kept : (roster.modify handle change).handles = roster.handles := handles_modify keeps handle
  rw [handles, actors_modify] at kept
  exact order.trans (List.Perm.of_eq kept)

theorem find?_add (distinct : roster.handles.Nodup) {actor : Actor S T}
    (fresh : actor.handle ∉ roster.handles) (handle : Handle) :
    (roster.add actor).find? handle =
      if actor.handle = handle then some actor else roster.find? handle := by
  have apart : (roster.add actor).handles.Nodup :=
    (handles_add_perm roster actor).nodup_iff.mpr (List.nodup_cons.mpr ⟨fresh, distinct⟩)
  have order : (roster.add actor).actors.Perm (actor :: roster.actors) :=
    actors_add_perm roster actor
  apply Option.ext
  intro other
  rw [find?_eq_some_iff apart, order.mem_iff, List.mem_cons]
  by_cases own : actor.handle = handle
  · subst own
    simp only [↓reduceIte, Option.some.injEq]
    constructor
    · rintro ⟨same | member, equal⟩
      · exact same.symm
      · exact absurd (equal ▸ List.mem_map_of_mem member) fresh
    · rintro rfl
      exact ⟨.inl rfl, rfl⟩
  · simp only [own, ↓reduceIte]
    rw [find?_eq_some_iff distinct]
    constructor
    · rintro ⟨same | member, equal⟩
      · subst same
        exact absurd equal own
      · exact ⟨member, equal⟩
    · rintro ⟨member, equal⟩
      exact ⟨.inr member, equal⟩

theorem find?_remove (distinct : roster.handles.Nodup) (handle other : Handle) :
    (roster.remove handle).find? other =
      if handle = other then none else roster.find? other := by
  have order := actors_remove_perm distinct handle
  have apart : (roster.remove handle).handles.Nodup :=
    (order.map Actor.handle).nodup_iff.mpr (distinct.sublist (List.filter_sublist.map _))
  apply Option.ext
  intro actor
  rw [find?_eq_some_iff apart, order.mem_iff, List.mem_filter]
  by_cases hit : handle = other
  · subst hit
    simp only [↓reduceIte, reduceCtorEq, iff_false]
    rintro ⟨⟨-, different⟩, same⟩
    simp [same] at different
  · simp only [hit, ↓reduceIte]
    rw [find?_eq_some_iff distinct]
    constructor
    · rintro ⟨⟨member, -⟩, same⟩
      exact ⟨member, same⟩
    · rintro ⟨member, same⟩
      refine ⟨⟨member, ?_⟩, same⟩
      simpa [same] using Ne.symm hit

theorem find?_map {change : Actor S T → Actor S T}
    (keeps : ∀ actor, (change actor).handle = actor.handle) (handle : Handle) :
    (roster.map change).find? handle = (roster.find? handle).map change := by
  have sought : ((fun actor : Actor S T => decide (actor.handle = handle)) ∘ change) =
      fun actor => decide (actor.handle = handle) := by
    funext actor
    simp only [Function.comp_apply, keeps]
  rw [find?, find?, actors_map, List.find?_map, sought]

theorem find?_modify {change : Actor S T → Actor S T}
    (keeps : ∀ actor, (change actor).handle = actor.handle) (handle other : Handle) :
    (roster.modify handle change).find? other =
      if handle = other then (roster.find? other).map change else roster.find? other := by
  rw [modify, find?_map]
  · cases found : roster.find? other with
    | none => simp
    | some actor =>
      have same : actor.handle = other := by simpa using List.find?_some found
      by_cases hit : handle = other
      · simp [same, hit]
      · simp [same, hit, Ne.symm hit]
  · intro actor
    split
    · exact keeps actor
    · rfl

theorem find?_update (distinct : roster.handles.Nodup) {change : Actor S T → Actor S T}
    (keeps : ∀ actor, (change actor).handle = actor.handle) (handle other : Handle) :
    (roster.update handle change).find? other =
      if handle = other then (roster.find? other).map change else roster.find? other := by
  rw [← find?_modify keeps]
  refine find?_congr ?_ ?_ other
  · rw [handles_modify keeps]
    exact distinct
  · rw [actors_modify]
    exact (actors_update_perm distinct handle change).symm

theorem who?_map {change : Actor S T → Actor S T} (keeps : Actor.Keeps change) :
    (roster.map change).who? = roster.who? := by
  funext handle
  rw [who?, find?_map (fun actor => (keeps actor).1), who?, Option.map_map]
  congr 1
  funext actor
  exact (keeps actor).2

theorem who?_modify {change : Actor S T → Actor S T} (keeps : Actor.Keeps change)
    (handle : Handle) : (roster.modify handle change).who? = roster.who? := by
  apply who?_map
  intro actor
  by_cases hit : actor.handle = handle
  · simp only [hit, ↓reduceIte]
    exact ⟨(keeps actor).1.trans hit, (keeps actor).2⟩
  · simp only [hit, ↓reduceIte, and_self]

theorem who?_update (distinct : roster.handles.Nodup) {change : Actor S T → Actor S T}
    (keeps : Actor.Keeps change) (handle : Handle) :
    (roster.update handle change).who? = roster.who? := by
  have kept : (roster.modify handle change).who? = roster.who? := who?_modify keeps handle
  rw [← kept]
  funext other
  rw [who?, who?, find?_update distinct (fun actor => (keeps actor).1),
    find?_modify fun actor => (keeps actor).1]

/-- Another roster in which every actor is known as before. -/
structure Alike (roster other : Roster S T) : Prop where
  handles : other.handles = roster.handles
  who : other.who? = roster.who?

theorem Alike.refl (roster : Roster S T) : Alike roster roster := ⟨rfl, rfl⟩

theorem Alike.trans {middle other : Roster S T} (first : Alike roster middle)
    (second : Alike middle other) : Alike roster other :=
  ⟨second.handles.trans first.handles, second.who.trans first.who⟩

theorem alike_map {change : Actor S T → Actor S T} (keeps : Actor.Keeps change) :
    Alike roster (roster.map change) :=
  ⟨handles_map fun actor => (keeps actor).1, who?_map keeps⟩

theorem alike_modify {change : Actor S T → Actor S T} (keeps : Actor.Keeps change)
    (handle : Handle) : Alike roster (roster.modify handle change) :=
  ⟨handles_modify (fun actor => (keeps actor).1) handle, who?_modify keeps handle⟩

end Roster

end Arcade
