import Arcade.Proofs.Naming
import Mathlib.Data.List.Sort

/-! The contacts of a frame. Under one binding two actors meet at most once, whichever of them comes
first: members of a group are different, no actor is of two groups, and a group that meets itself
is paired in the order of its handles. -/

namespace Arcade

variable {S T : Type}

/-- Two contacts of one binding between other actors, or contacts of different bindings. -/
def Contact.Apart (one other : Contact) : Prop :=
  one.binding = other.binding →
    ¬ (one.first = other.first ∧ one.second = other.second) ∧
      ¬ (one.first = other.second ∧ one.second = other.first)

theorem Contact.Apart.symm {one other : Contact} (apart : one.Apart other) : other.Apart one := by
  intro same
  obtain ⟨straight, crossed⟩ := apart same.symm
  constructor
  · rintro ⟨first, second⟩
    exact straight ⟨first.symm, second.symm⟩
  · rintro ⟨first, second⟩
    exact crossed ⟨second.symm, first.symm⟩

/-! ### Pairs -/

theorem nodup_candidatePairs {firsts seconds : List Handle} (distinct : firsts.Nodup)
    (different : seconds.Nodup) (same : Bool) : (candidatePairs firsts seconds same).Nodup := by
  refine List.nodup_flatMap.mpr ⟨?_, ?_⟩
  · intro first _
    refine (different.filter _).map ?_
    intro second other equal
    exact congrArg Prod.snd equal
  · refine distinct.imp ?_
    intro first other unlike
    rintro ⟨left, right⟩ member again
    obtain ⟨_, _, here⟩ := List.mem_map.mp member
    obtain ⟨_, _, there⟩ := List.mem_map.mp again
    exact unlike ((congrArg Prod.fst here).trans (congrArg Prod.fst there).symm)

namespace Registry

variable {registry : Registry S T}

/-- A registry whose groups list every member once, and no member under two names. -/
structure Partitioned (registry : Registry S T) : Prop where
  single : ∀ name, (registry.members name).Nodup
  disjoint : ∀ name other handle, handle ∈ registry.members name →
    handle ∈ registry.members other → name = other

theorem Partitioned.nodup_sideMembers (partitioned : registry.Partitioned) (target : Target) :
    (registry.sideMembers target).Nodup := by
  cases target with
  | actor handle => exact List.nodup_singleton handle
  | group name => exact partitioned.single name

/-- Two different actors that are both on two sides are on the same side. -/
theorem Partitioned.eq_of_shared (partitioned : registry.Partitioned) {target other : Target}
    {first second : Handle} (different : first ≠ second)
    (firstHere : first ∈ registry.sideMembers target)
    (secondHere : second ∈ registry.sideMembers target)
    (firstThere : first ∈ registry.sideMembers other)
    (secondThere : second ∈ registry.sideMembers other) : target = other := by
  cases target with
  | actor handle =>
    have one := List.mem_singleton.mp firstHere
    have two := List.mem_singleton.mp secondHere
    exact absurd (one.trans two.symm) different
  | group name =>
    cases other with
    | actor handle =>
      have one := List.mem_singleton.mp firstThere
      have two := List.mem_singleton.mp secondThere
      exact absurd (one.trans two.symm) different
    | group name' => exact congrArg Target.group (partitioned.disjoint _ _ _ firstHere firstThere)

/-- The pairs that a binding checks. -/
def pairs (registry : Registry S T) (binding : Binding) : List (Handle × Handle) :=
  candidatePairs (registry.sideMembers binding.first) (registry.sideMembers binding.second)
    (binding.first = binding.second)

/-- No pair of a binding is checked the other way round, too. -/
theorem Partitioned.not_mem_swap (partitioned : registry.Partitioned) {binding : Binding}
    {first second : Handle} (member : (first, second) ∈ registry.pairs binding) :
    (second, first) ∉ registry.pairs binding := by
  intro swapped
  obtain ⟨firstLeft, secondRight, different, ahead⟩ := mem_candidatePairs.mp member
  obtain ⟨secondLeft, firstRight, -, behind⟩ := mem_candidatePairs.mp swapped
  have same := partitioned.eq_of_shared different firstLeft secondLeft firstRight secondRight
  rcases Handle.before_or_before different with earlier | later
  · rw [behind (decide_eq_true same)] at earlier
    cases earlier
  · rw [ahead (decide_eq_true same)] at later
    cases later

/-- Contacts of a binding for its pairs are apart. -/
theorem Partitioned.apart_pairs (partitioned : registry.Partitioned) (binding : Binding)
    (index : Nat) :
    ((registry.pairs binding).map fun pair => Contact.mk index pair.1 pair.2).Pairwise
      Contact.Apart := by
  have once : (registry.pairs binding).Nodup :=
    nodup_candidatePairs (partitioned.nodup_sideMembers _) (partitioned.nodup_sideMembers _) _
  refine List.pairwise_map.mpr (once.imp_of_mem ?_)
  rintro ⟨first, second⟩ ⟨left, right⟩ member other different -
  constructor
  · rintro ⟨rfl, rfl⟩
    exact different rfl
  · rintro ⟨rfl, rfl⟩
    exact partitioned.not_mem_swap member other

end Registry

/-- Names that are true part the actors into groups. -/
theorem World.Named.partitioned {world : World S T} {others : List Handle}
    {registry : Registry S T} (named : world.Named others registry) : registry.Partitioned where
  single := named.single
  disjoint name other handle here there := by
    obtain ⟨who, known, own⟩ := (named.grouped name handle).mp here
    obtain ⟨again, found, same⟩ := (named.grouped other handle).mp there
    rw [known] at found
    cases found
    exact Option.some.inj (own.symm.trans same)

/-! ### The search -/

namespace World

variable [Scalar S] {registry : Registry S T} {world : World S T} {others : List Handle}

/-- A pair that is checked is noted or not. -/
theorem meet_found (kind : Contact.Kind) (index : Nat) (state : Roster S T × List Contact)
    (pair : Handle × Handle) :
    (meet kind index state pair).2 = state.2 ∨
      (meet kind index state pair).2 = state.2 ++ [⟨index, pair.1, pair.2⟩] := by
  simp only [meet]
  split
  · split
    · exact .inr rfl
    · exact .inl rfl
  · exact .inl rfl

/-- Of the pairs that are checked one after the other some are noted, in their order. -/
theorem foldl_meet_found (kind : Contact.Kind) (index : Nat) (state : Roster S T × List Contact)
    (pairs : List (Handle × Handle)) :
    ∃ found : List (Handle × Handle), found.Sublist pairs ∧
      (pairs.foldl (meet kind index) state).2 =
        state.2 ++ found.map fun pair => ⟨index, pair.1, pair.2⟩ := by
  induction pairs generalizing state with
  | nil => exact ⟨[], List.Sublist.refl [], (List.append_nil state.2).symm⟩
  | cons pair rest ih =>
    obtain ⟨found, among, result⟩ := ih (meet kind index state pair)
    rw [List.foldl_cons, result]
    rcases meet_found kind index state pair with missed | noted
    · rw [missed]
      exact ⟨found, among.cons pair, rfl⟩
    · rw [noted, List.append_assoc]
      exact ⟨pair :: found, among.cons_cons pair, rfl⟩

/-- The contacts that are found under a binding are new, apart from each other, and its own. -/
theorem detectBinding_found (partitioned : registry.Partitioned)
    (state : Roster S T × List Contact) (binding : Binding) (index : Nat) :
    ∃ found : List Contact, (detectBinding registry state (binding, index)).2 = state.2 ++ found ∧
      found.Pairwise Contact.Apart ∧ ∀ contact ∈ found, contact.binding = index := by
  obtain ⟨found, among, result⟩ :=
    foldl_meet_found binding.kind index state (registry.pairs binding)
  refine ⟨_, result, (partitioned.apart_pairs binding index).sublist (among.map _), ?_⟩
  intro contact member
  obtain ⟨pair, -, rfl⟩ := List.mem_map.mp member
  rfl

/-- Contacts that are apart stay so while the search goes through later bindings. -/
theorem apart_foldl_detectBinding (partitioned : registry.Partitioned)
    (state : Roster S T × List Contact) (bindings : List Binding) (index : Nat)
    (apart : state.2.Pairwise Contact.Apart)
    (earlier : ∀ contact ∈ state.2, contact.binding < index) :
    ((bindings.zipIdx index).foldl (detectBinding registry) state).2.Pairwise Contact.Apart := by
  induction bindings generalizing state index with
  | nil => exact apart
  | cons binding rest ih =>
    obtain ⟨found, result, fresh, own⟩ := detectBinding_found partitioned state binding index
    rw [List.zipIdx_cons, List.foldl_cons]
    apply ih
    · rw [result]
      refine List.pairwise_append.mpr ⟨apart, fresh, ?_⟩
      intro old member new addition same
      have before := earlier old member
      have now := own new addition
      omega
    · intro contact member
      rw [result] at member
      rcases List.mem_append.mp member with old | new
      · have before := earlier contact old
        omega
      · have now := own contact new
        omega

/-- No contact waits. -/
def Settled (world : World S T) : Prop := world.contacts.getD [] = []

/-- When no contact waits, those that are found are apart. -/
theorem apart_detect (settled : world.Settled)
    (partitioned : ∀ registry, world.registry = some registry → registry.Partitioned) :
    (world.detect.contacts.getD []).Pairwise Contact.Apart := by
  have still : (world.contacts.getD []).Pairwise Contact.Apart := by
    rw [settled]
    exact List.Pairwise.nil
  unfold detect
  split
  · rename_i arena registry bindings contacts _ named _ waiting
    rw [Settled, waiting] at settled
    split
    · apply apart_foldl_detectBinding (partitioned registry named)
      · rw [waiting] at still
        exact still
      · intro contact member
        rw [show contacts = [] from settled] at member
        cases member
    · exact still
  · exact still

/-! ### The order of dispatch -/

/-- Contacts are put in order by insertion. -/
theorem byBinding_eq_insertionSort (contacts : List Contact) :
    byBinding contacts =
      contacts.insertionSort fun first second => first.binding ≤ second.binding := by
  have inserts (contact : Contact) (sorted : List Contact) : insertContact contact sorted =
      sorted.orderedInsert (fun first second => first.binding ≤ second.binding) contact := by
    induction sorted with
    | nil => rfl
    | cons first rest ih =>
      rw [insertContact, List.orderedInsert_cons, ih]
  induction contacts with
  | nil => rfl
  | cons contact rest ih =>
    rw [List.insertionSort_cons, ← ih, ← inserts]
    rfl

theorem perm_byBinding (contacts : List Contact) : (byBinding contacts).Perm contacts := by
  rw [byBinding_eq_insertionSort]
  exact List.perm_insertionSort _ contacts

theorem sorted_byBinding (contacts : List Contact) :
    (byBinding contacts).Pairwise fun first second => first.binding ≤ second.binding := by
  have total : Std.Total fun first second : Contact => first.binding ≤ second.binding :=
    ⟨fun first second => Nat.le_total first.binding second.binding⟩
  have transitive : IsTrans Contact fun first second => first.binding ≤ second.binding :=
    ⟨fun _ _ _ => Nat.le_trans⟩
  rw [byBinding_eq_insertionSort]
  exact List.pairwise_insertionSort _ contacts

theorem apart_byBinding {contacts : List Contact} (apart : contacts.Pairwise Contact.Apart) :
    (byBinding contacts).Pairwise Contact.Apart :=
  (List.Perm.pairwise_iff Contact.Apart.symm (perm_byBinding contacts)).mpr apart

end World

end Arcade
