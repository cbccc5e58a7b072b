import Arcade.Registry
import Arcade.Rule.Grammar

/-! Rules whose names have been looked up. A name means an object before it means a group; a group is
read again at every look, so that later members take part. -/

namespace Arcade

/-- One side of an interaction. -/
inductive Target where
  | actor (handle : Handle)
  | group (name : String)
  deriving DecidableEq

/-- Whether meeting bodies are pushed apart. -/
inductive Contact.Kind where
  | collision
  | overlap
  deriving DecidableEq

/-- An interaction rule with its two sides. -/
structure Binding where
  kind : Contact.Kind
  first : Target
  second : Target
  callback : String
  line : String
  /-- Its callback was found to mean nothing. -/
  warned : Bool
  deriving DecidableEq

namespace Registry

variable {S T : Type}

def target? (registry : Registry S T) (id : String) : Option Target :=
  match registry.handle? id with
  | some handle => some (.actor handle)
  | none => if registry.hasGroup id then some (.group id) else none

/-- The actors that a side means now. -/
def sideMembers (registry : Registry S T) : Target → List Handle
  | .actor handle => [handle]
  | .group name => registry.members name

/-- Read an interaction rule and look up its sides, the first one first. -/
def bind (registry : Registry S T) (kind : Contact.Kind) (line : String) :
    Except BuildError Binding := do
  let rule ← Rule.Interaction.parse line
  let side (id : String) : Except BuildError Target :=
    match registry.target? id with
    | some target => .ok target
    | none => .error (.unresolvedTarget line id)
  let first ← side rule.first
  let second ← side rule.second
  .ok ⟨kind, first, second, rule.callback, line, false⟩

end Registry

/-- The pairs of actors that an interaction checks, in order. No actor meets itself, and when both
sides are the same each pair is checked once. -/
def candidatePairs (firsts seconds : List Handle) (same : Bool) : List (Handle × Handle) :=
  firsts.flatMap fun first =>
    (seconds.filter fun second => !(first = second || (same && second.before first))).map
      fun second => (first, second)

theorem mem_candidatePairs {firsts seconds : List Handle} {same : Bool} {pair : Handle × Handle} :
    pair ∈ candidatePairs firsts seconds same ↔
      pair.1 ∈ firsts ∧ pair.2 ∈ seconds ∧ pair.1 ≠ pair.2 ∧
        (same = true → pair.2.before pair.1 = false) := by
  obtain ⟨first, second⟩ := pair
  simp only [candidatePairs, List.mem_flatMap, List.mem_map, List.mem_filter, Bool.not_eq_true',
    Bool.or_eq_false_iff, decide_eq_false_iff_not, Bool.and_eq_false_iff, Prod.mk.injEq]
  constructor
  · rintro ⟨_, left, _, ⟨right, different, order⟩, rfl, rfl⟩
    refine ⟨left, right, different, ?_⟩
    rintro rfl
    simpa using order
  · rintro ⟨left, right, different, order⟩
    refine ⟨first, left, second, ⟨right, different, ?_⟩, rfl, rfl⟩
    cases same
    · exact .inl rfl
    · exact .inr (order rfl)

end Arcade
