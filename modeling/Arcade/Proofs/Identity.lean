import Arcade.Handle
import Mathlib.Data.List.Nodup

/-! No identity is given out twice. A handle stands at a place; a place holds one thing at a time or
is free, and what comes to stand at it later has a later generation. So a handle that was given
back, a spent one, is never taken again. -/

namespace Arcade.Handles

/-- Things are held under handles that were given out, and no two handles, held or freed, stand at
one place. -/
structure Sound (handles : Handles) (held : List Handle) : Prop where
  apart : ((held ++ handles.freed).map (·.index)).Nodup
  given : ∀ handle ∈ held ++ handles.freed, handle.index < handles.fresh

/-- A handle was given back: what stands at its place now is of a later generation. -/
structure Spent (handles : Handles) (held : List Handle) (handle : Handle) : Prop where
  given : handle.index < handles.fresh
  later : ∀ other ∈ held ++ handles.freed, other.index = handle.index →
    handle.generation < other.generation

variable {handles : Handles} {held others : List Handle} {handle spent : Handle}

theorem sound_start : Sound .start [] :=
  ⟨List.nodup_nil, fun _ member => absurd member List.not_mem_nil⟩

theorem Sound.perm (sound : handles.Sound held) (same : held.Perm others) :
    handles.Sound others where
  apart := ((same.append_right handles.freed).map _).nodup_iff.mp sound.apart
  given other member := sound.given other ((same.append_right handles.freed).mem_iff.mpr member)

theorem Spent.perm (gone : handles.Spent held spent) (same : held.Perm others) :
    handles.Spent others spent where
  given := gone.given
  later other member := gone.later other ((same.append_right handles.freed).mem_iff.mpr member)

theorem Sound.nodup (sound : handles.Sound held) : held.Nodup := by
  have places := sound.apart
  rw [List.map_append, List.nodup_append] at places
  exact places.1.of_map _

/-- A spent handle is not held. -/
theorem Spent.not_mem (gone : handles.Spent held spent) : spent ∉ held := by
  intro member
  exact absurd (gone.later spent (List.mem_append_left _ member) rfl) (Nat.lt_irrefl _)

/-- What is held after a handle was taken stands at places of their own again. -/
theorem Sound.take (sound : handles.Sound held) :
    handles.take.2.Sound (handles.take.1 :: held) := by
  obtain ⟨freed, fresh⟩ := handles
  obtain ⟨apart, given⟩ := sound
  cases freed with
  | nil =>
    simp only [List.append_nil] at apart given
    refine ⟨?_, ?_⟩
    · simp only [Handles.take, List.append_nil, List.map_cons]
      refine List.nodup_cons.mpr ⟨?_, apart⟩
      intro member
      obtain ⟨other, inside, same⟩ := List.mem_map.mp member
      have bound := given other inside
      omega
    · intro other member
      simp only [Handles.take, List.append_nil, List.mem_cons] at member ⊢
      rcases member with same | inside
      · subst same
        exact Nat.lt_succ_self fresh
      · have bound := given other inside
        omega
  | cons first rest =>
    have shuffled : (held ++ first :: rest).Perm ((first :: held) ++ rest) := List.perm_middle
    exact ⟨(shuffled.map _).nodup_iff.mp apart,
      fun other member => given other (shuffled.mem_iff.mpr member)⟩

theorem Spent.take (gone : handles.Spent held spent) :
    handles.take.2.Spent (handles.take.1 :: held) spent := by
  obtain ⟨freed, fresh⟩ := handles
  obtain ⟨given, later⟩ := gone
  cases freed with
  | nil =>
    refine ⟨Nat.lt_succ_of_lt given, ?_⟩
    intro other member same
    simp only [Handles.take, List.append_nil, List.mem_cons] at member
    rcases member with new | inside
    · subst new
      simp only at same given
      omega
    · exact later other (by simpa using inside) same
  | cons first rest =>
    refine ⟨given, ?_⟩
    intro other member same
    exact later other (List.perm_middle.mem_iff.mpr member) same

/-- The handle that is taken was never given back before. -/
theorem Spent.ne_take (gone : handles.Spent held spent) : spent ≠ handles.take.1 := by
  intro same
  exact gone.take.not_mem (same ▸ List.mem_cons_self)

theorem Sound.take_not_mem (sound : handles.Sound held) : handles.take.1 ∉ held :=
  (List.nodup_cons.mp sound.take.nodup).1

theorem Sound.release (sound : handles.Sound (handle :: held)) :
    (handles.release handle).Sound held := by
  have shuffled : ((handle :: held) ++ handles.freed).Perm (held ++ handle :: handles.freed) :=
    List.perm_middle.symm
  have apart := (shuffled.map (·.index)).nodup_iff.mp sound.apart
  refine ⟨by simpa [Handles.release] using apart, ?_⟩
  intro other member
  rcases List.mem_append.mp member with inside | freed
  · exact sound.given other (by simp [inside])
  · rcases List.mem_cons.mp freed with same | inside
    · subst same
      exact sound.given handle (by simp)
    · exact sound.given other (by simp [inside])

theorem Spent.release (gone : handles.Spent (handle :: held) spent) :
    (handles.release handle).Spent held spent := by
  refine ⟨gone.given, ?_⟩
  intro other member same
  rcases List.mem_append.mp member with inside | freed
  · exact gone.later other (by simp [inside]) same
  · rcases List.mem_cons.mp freed with new | inside
    · subst new
      exact Nat.lt_succ_of_lt (gone.later handle (by simp) same)
    · exact gone.later other (by simp [inside]) same

/-- A handle that is given back is spent. -/
theorem Sound.spent_release (sound : handles.Sound (handle :: held)) :
    (handles.release handle).Spent held handle := by
  refine ⟨sound.given handle (by simp), ?_⟩
  intro other member same
  have apart := sound.apart
  simp only [List.cons_append, List.map_cons, List.nodup_cons] at apart
  have unseen : ∀ rest ∈ held ++ handles.freed, rest.index ≠ handle.index := by
    intro rest inside equal
    exact apart.1 (equal ▸ List.mem_map_of_mem inside)
  rcases List.mem_append.mp member with inside | freed
  · exact absurd same (unseen other (List.mem_append_left _ inside))
  · rcases List.mem_cons.mp freed with new | inside
    · subst new
      exact Nat.lt_succ_self _
    · exact absurd same (unseen other (List.mem_append_right _ inside))

end Arcade.Handles
