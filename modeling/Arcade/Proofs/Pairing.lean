import Arcade.Proofs.Contacts
import Mathlib.Data.Finset.Prod

/-! The pairs that a rule about contacts checks. Between two sides these are all pairs of different actors,
side by side in the order of the lists. Of one side with itself they are the pairs whose first comes before
its second, so that each two members meet once, in whatever order they joined. -/

namespace Arcade

/-- One pair stands before another by its place in the first list, and then by its place in the second. -/
def Ahead (firsts seconds : List Handle) (pair other : Handle × Handle) : Prop :=
  firsts.idxOf pair.1 < firsts.idxOf other.1 ∨
    pair.1 = other.1 ∧ seconds.idxOf pair.2 < seconds.idxOf other.2

/-- The pairs of different actors from two sides, each once, and in the order of the sides. -/
structure Crosses (firsts seconds : List Handle) (pairs : List (Handle × Handle)) : Prop where
  mem_iff : ∀ first second,
    (first, second) ∈ pairs ↔ first ∈ firsts ∧ second ∈ seconds ∧ first ≠ second
  nodup : pairs.Nodup
  ordered : pairs.Pairwise (Ahead firsts seconds)

/-- The pairs of different actors from one side, each once and one way round. -/
structure Matches (members : List Handle) (pairs : List (Handle × Handle)) : Prop where
  mem_iff : ∀ first second,
    (first, second) ∈ pairs ↔ first ∈ members ∧ second ∈ members ∧ first.before second = true
  meet : ∀ one ∈ members, ∀ other ∈ members, one ≠ other →
    pairs.count (one, other) + pairs.count (other, one) = 1
  mirrorless : ∀ first second, (first, second) ∈ pairs → (second, first) ∉ pairs
  length_eq : pairs.length = members.length * (members.length - 1) / 2

variable {firsts seconds members : List Handle} {first second : Handle}

/-! ### Two sides -/

theorem mem_candidatePairs_apart : (first, second) ∈ candidatePairs firsts seconds false ↔
    first ∈ firsts ∧ second ∈ seconds ∧ first ≠ second := by
  simp [mem_candidatePairs]

/-- The members of a list without repetitions stand in the order of their places. -/
theorem pairwise_idxOf (distinct : members.Nodup) :
    members.Pairwise fun one other => members.idxOf one < members.idxOf other := by
  refine List.pairwise_iff_getElem.mpr fun place later inside within before => ?_
  rwa [distinct.idxOf_getElem place inside, distinct.idxOf_getElem later within]

theorem ordered_candidatePairs (distinct : firsts.Nodup) (different : seconds.Nodup) (same : Bool) :
    (candidatePairs firsts seconds same).Pairwise (Ahead firsts seconds) := by
  refine List.pairwise_flatMap.mpr ⟨fun first _ => ?_, (pairwise_idxOf distinct).imp ?_⟩
  · refine List.pairwise_map.mpr (((pairwise_idxOf different).filter _).imp ?_)
    exact fun before => .inr ⟨rfl, before⟩
  · intro first other before pair member next following
    obtain ⟨_, -, rfl⟩ := List.mem_map.mp member
    obtain ⟨_, -, rfl⟩ := List.mem_map.mp following
    exact .inl before

theorem crosses_candidatePairs (distinct : firsts.Nodup) (different : seconds.Nodup) :
    Crosses firsts seconds (candidatePairs firsts seconds false) where
  mem_iff _ _ := mem_candidatePairs_apart
  nodup := nodup_candidatePairs distinct different false
  ordered := ordered_candidatePairs distinct different false

/-! ### One side -/

theorem Handle.before_eq_true_iff : first.before second = true ↔
    first ≠ second ∧ second.before first = false := by
  constructor
  · intro before
    refine ⟨?_, Handle.before_asymm before⟩
    rintro rfl
    rw [Handle.before_irrefl] at before
    cases before
  · rintro ⟨different, behind⟩
    refine (Handle.before_or_before different).resolve_right fun ahead => ?_
    rw [behind] at ahead
    cases ahead

theorem mem_candidatePairs_together : (first, second) ∈ candidatePairs members members true ↔
    first ∈ members ∧ second ∈ members ∧ first.before second = true := by
  rw [mem_candidatePairs, Handle.before_eq_true_iff]
  simp

theorem swap_not_mem_candidatePairs (member : (first, second) ∈ candidatePairs members members true) :
    (second, first) ∉ candidatePairs members members true := by
  intro swapped
  have before := (mem_candidatePairs_together.mp member).2.2
  have behind := (mem_candidatePairs_together.mp swapped).2.2
  rw [Handle.before_asymm before] at behind
  cases behind

/-- Which pairs are checked does not depend on the order in which members joined. -/
theorem perm_candidatePairs {listed : List Handle} (distinct : members.Nodup)
    (reordered : listed.Perm members) :
    (candidatePairs listed listed true).Perm (candidatePairs members members true) := by
  have single := reordered.nodup_iff.mpr distinct
  refine (List.perm_ext_iff_of_nodup (nodup_candidatePairs single single true)
    (nodup_candidatePairs distinct distinct true)).mpr ?_
  rintro ⟨first, second⟩
  simp only [mem_candidatePairs_together, reordered.mem_iff]

/-- All pairs of different members are those that are checked and the same ones the other way round. -/
theorem perm_candidatePairs_append_swap (distinct : members.Nodup) :
    (candidatePairs members members false).Perm
      (candidatePairs members members true ++ (candidatePairs members members true).map Prod.swap) := by
  have once := nodup_candidatePairs distinct distinct true
  have mirrored : ∀ first second, (first, second) ∈ (candidatePairs members members true).map Prod.swap ↔
      (second, first) ∈ candidatePairs members members true := by
    simp
  have both : (candidatePairs members members true ++
      (candidatePairs members members true).map Prod.swap).Nodup := by
    refine once.append (once.map Prod.swap_injective) ?_
    rintro ⟨first, second⟩ member swapped
    exact swap_not_mem_candidatePairs member ((mirrored first second).mp swapped)
  refine (List.perm_ext_iff_of_nodup (nodup_candidatePairs distinct distinct false) both).mpr ?_
  rintro ⟨first, second⟩
  rw [mem_candidatePairs_apart, List.mem_append, mirrored, mem_candidatePairs_together,
    mem_candidatePairs_together]
  constructor
  · rintro ⟨left, right, different⟩
    exact (Handle.before_or_before different).imp (⟨left, right, ·⟩) (⟨right, left, ·⟩)
  · rintro (⟨left, right, before⟩ | ⟨right, left, before⟩)
    · exact ⟨left, right, (Handle.before_eq_true_iff.mp before).1⟩
    · exact ⟨left, right, (Handle.before_eq_true_iff.mp before).1.symm⟩

/-- Each member is paired with all the others. -/
theorem length_candidatePairs_apart (distinct : members.Nodup) :
    (candidatePairs members members false).length = members.length * (members.length - 1) := by
  have listed : (candidatePairs members members false).toFinset = members.toFinset.offDiag := by
    ext ⟨first, second⟩
    rw [List.mem_toFinset, mem_candidatePairs_apart, Finset.mem_offDiag, List.mem_toFinset,
      List.mem_toFinset]
  rw [← List.toFinset_card_of_nodup (nodup_candidatePairs distinct distinct false), listed,
    Finset.offDiag_card, List.toFinset_card_of_nodup distinct, Nat.mul_sub_one]

theorem length_candidatePairs_together (distinct : members.Nodup) :
    (candidatePairs members members true).length = members.length * (members.length - 1) / 2 := by
  have halves := (perm_candidatePairs_append_swap distinct).length_eq
  rw [length_candidatePairs_apart distinct, List.length_append, List.length_map] at halves
  omega

theorem matches_candidatePairs (distinct : members.Nodup) :
    Matches members (candidatePairs members members true) where
  mem_iff _ _ := mem_candidatePairs_together
  meet one here other there different := by
    have once := nodup_candidatePairs distinct distinct true
    rw [once.count, once.count]
    rcases Handle.before_or_before different with before | behind
    · have member := mem_candidatePairs_together.mpr ⟨here, there, before⟩
      rw [if_pos member, if_neg (swap_not_mem_candidatePairs member)]
    · have member := mem_candidatePairs_together.mpr ⟨there, here, behind⟩
      rw [if_pos member, if_neg (swap_not_mem_candidatePairs member)]
  mirrorless _ _ := swap_not_mem_candidatePairs
  length_eq := length_candidatePairs_together distinct

/-- Between two sides all pairs of different actors are checked, each once and in the order of the sides.
Of a side with itself each two members are checked once, the one that comes first being the first; the
order in which they joined does not matter. -/
theorem pairs_each_once (distinct : firsts.Nodup) (different : seconds.Nodup) (single : members.Nodup) :
    Crosses firsts seconds (candidatePairs firsts seconds false) ∧
      Matches members (candidatePairs members members true) ∧
      ∀ listed, listed.Perm members →
        (candidatePairs listed listed true).Perm (candidatePairs members members true) :=
  ⟨crosses_candidatePairs distinct different, matches_candidatePairs single,
    fun _ => perm_candidatePairs single⟩

/-- A member whose place in the world was somebody else's before has joined first and still comes last. -/
theorem pairs_each_once_newcomer :
    Crosses [⟨1, 0⟩] [⟨0, 2⟩, ⟨1, 0⟩, ⟨0, 1⟩] [(⟨1, 0⟩, ⟨0, 2⟩), (⟨1, 0⟩, ⟨0, 1⟩)] ∧
      Matches [⟨1, 0⟩, ⟨0, 2⟩, ⟨0, 1⟩] [(⟨0, 2⟩, ⟨1, 0⟩), (⟨0, 1⟩, ⟨1, 0⟩), (⟨0, 1⟩, ⟨0, 2⟩)] ∧
      (candidatePairs [⟨0, 1⟩, ⟨0, 2⟩, ⟨1, 0⟩] [⟨0, 1⟩, ⟨0, 2⟩, ⟨1, 0⟩] true).Perm
        [(⟨0, 2⟩, ⟨1, 0⟩), (⟨0, 1⟩, ⟨1, 0⟩), (⟨0, 1⟩, ⟨0, 2⟩)] := by
  have distinct : ([⟨1, 0⟩] : List Handle).Nodup := by decide
  have different : ([⟨0, 2⟩, ⟨1, 0⟩, ⟨0, 1⟩] : List Handle).Nodup := by decide
  have single : ([⟨1, 0⟩, ⟨0, 2⟩, ⟨0, 1⟩] : List Handle).Nodup := by decide
  obtain ⟨crosses, meets, reordered⟩ := pairs_each_once distinct different single
  exact ⟨crosses, meets, reordered _ (by decide)⟩

end Arcade
