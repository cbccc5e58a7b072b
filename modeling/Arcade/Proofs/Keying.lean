import Arcade.Keyboard
import Arcade.Proofs.Reordering
import Mathlib.Data.Finset.Card

/-! Key names that are looked up through a cache. Whatever was looked up before, the answer is the one that
a look-up without the cache gives, and the cache holds the names that were asked for and have no
conventional meaning: each once, and also those that stand for no key. -/

namespace Arcade

/-- An index holds as many values as there are names under which it holds one. -/
theorem Index.size_eq_card {index : Index α} {names : Finset String}
    (known : ∀ name, (index.get? name).isSome = true ↔ name ∈ names) : index.size = names.card := by
  have listed : index.keys.toFinset = names := by
    ext name
    rw [List.mem_toFinset, ← known, Option.isSome_iff_exists, keys, List.mem_map]
    simp only [← mem_entries_iff]
    constructor
    · rintro ⟨⟨_, value⟩, member, rfl⟩
      exact ⟨value, member⟩
    · rintro ⟨value, member⟩
      exact ⟨(name, value), member, rfl⟩
  calc index.size = index.keys.length := (List.length_map _).symm
    _ = index.keys.toFinset.card := (List.toFinset_card_of_nodup index.nodup_entries).symm
    _ = names.card := congrArg Finset.card listed

namespace KeyCache

/-- Look names up one after the other. The answers come in the order of the names. -/
def resolveAll (cache : KeyCache) : List String → KeyCache × List (Option Key)
  | [] => (cache, [])
  | name :: rest =>
    let (cache, key) := cache.resolve name
    let (cache, keys) := cache.resolveAll rest
    (cache, key :: keys)

variable {cache : KeyCache}

/-! ### One look-up -/

/-- A look-up enters its name, if that has no conventional meaning, and touches nothing else. -/
theorem Faithful.get?_resolve (faithful : cache.Faithful) (name other : String) :
    (cache.resolve name).1.known.get? other =
      if other = name ∧ Key.conventional? name = none then some (Key.custom? name)
      else cache.known.get? other := by
  unfold KeyCache.resolve
  split
  · rename_i key conventional
    simp [conventional]
  · rename_i unconventional
    split
    · rename_i key remembered
      by_cases same : other = name
      · subst same
        simp [unconventional, remembered, (faithful other key remembered).2]
      · simp [same]
    · simp [Index.get?_insert, unconventional, eq_comm]

/-! ### Many look-ups -/

theorem resolveAll_cons (cache : KeyCache) (name : String) (rest : List String) :
    cache.resolveAll (name :: rest) = (((cache.resolve name).1.resolveAll rest).1,
      (cache.resolve name).2 :: ((cache.resolve name).1.resolveAll rest).2) := by
  rw [resolveAll]

theorem Faithful.resolveAll (faithful : cache.Faithful) (names : List String) :
    (cache.resolveAll names).1.Faithful := by
  induction names generalizing cache with
  | nil => exact faithful
  | cons name rest ih =>
    rw [resolveAll_cons]
    exact ih (faithful.resolve name)

theorem Faithful.answers_resolveAll (faithful : cache.Faithful) (names : List String) :
    (cache.resolveAll names).2 = names.map Key.parse? := by
  induction names generalizing cache with
  | nil => rfl
  | cons name rest ih =>
    rw [resolveAll_cons, List.map_cons, ih (faithful.resolve name), faithful.resolve_eq_parse? name]

/-- What was asked for and has no conventional meaning is held, and what was held before. -/
theorem Faithful.get?_resolveAll (faithful : cache.Faithful) (names : List String) (name : String) :
    (cache.resolveAll names).1.known.get? name =
      if name ∈ names ∧ Key.conventional? name = none then some (Key.custom? name)
      else cache.known.get? name := by
  induction names generalizing cache with
  | nil => simp [KeyCache.resolveAll]
  | cons first rest ih =>
    rw [resolveAll_cons, ih (faithful.resolve first), faithful.get?_resolve]
    by_cases same : name = first
    · subst same
      by_cases unconventional : Key.conventional? name = none <;> simp [unconventional]
    · simp [same]

/-- A cache that was empty holds what was asked for and has no conventional meaning. -/
theorem get?_resolveAll_empty (names : List String) (name : String) :
    (empty.resolveAll names).1.known.get? name =
      if name ∈ names ∧ Key.conventional? name = none then some (Key.custom? name) else none :=
  faithful_empty.get?_resolveAll names name

/-- However many names were looked up through a cache, each got the answer that a look-up without the cache
gives, and the next one will. The cache holds the answers to the names without conventional meaning, and
its size is the number of different ones among them. -/
theorem answers_plainly (names : List String) :
    (empty.resolveAll names).2 =
        names.map (fun name => (Key.conventional? name).or (Key.custom? name)) ∧
      (∀ name, ((empty.resolveAll names).1.resolve name).2 =
        (Key.conventional? name).or (Key.custom? name)) ∧
      (empty.resolveAll names).1.size =
        (names.filter fun name => (Key.conventional? name).isNone).toFinset.card ∧
      ∀ name answer, (empty.resolveAll names).1.known.get? name = some answer ↔
        name ∈ names ∧ Key.conventional? name = none ∧ Key.custom? name = answer := by
  refine ⟨faithful_empty.answers_resolveAll names, fun name => ?_, ?_, fun name answer => ?_⟩
  · exact (faithful_empty.resolveAll names).resolve_eq_parse? name
  · refine Index.size_eq_card fun name => ?_
    rw [get?_resolveAll_empty, List.mem_toFinset, List.mem_filter, Option.isNone_iff_eq_none]
    split <;> simp_all
  · rw [get?_resolveAll_empty, ite_eq_iff]
    simp [and_assoc]

/-- Spaces and capitals make a name of its own, and so do names that stand for no key; names with
conventional meaning are not counted. -/
example : (empty.resolveAll ["w", " W", "SPACE", "hyperdrive", "w"]).1.size = 3 := by decide +kernel

end KeyCache

end Arcade
