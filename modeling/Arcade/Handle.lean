/-! Identities of the things in a world. The place of a thing that is gone is given to the next one,
under a later generation, so that no identity is given out twice. -/

namespace Arcade

structure Handle where
  generation : Nat
  index : Nat
  deriving DecidableEq

namespace Handle

/-- Handles are ordered by generation first. -/
def before (a b : Handle) : Bool :=
  a.generation < b.generation || (a.generation == b.generation && a.index < b.index)

theorem before_irrefl (a : Handle) : a.before a = false := by
  simp [before]

/-- Of two handles one comes first. -/
theorem before_or_before {a b : Handle} (different : a ≠ b) :
    a.before b = true ∨ b.before a = true := by
  obtain ⟨aGeneration, aIndex⟩ := a
  obtain ⟨bGeneration, bIndex⟩ := b
  simp only [ne_eq, Handle.mk.injEq] at different
  simp only [before, Bool.or_eq_true, Bool.and_eq_true, decide_eq_true_eq, beq_iff_eq]
  omega

theorem before_asymm {a b : Handle} (first : a.before b = true) : b.before a = false := by
  simp only [before, Bool.or_eq_true, Bool.and_eq_true, decide_eq_true_eq, beq_iff_eq] at first
  simp only [before, Bool.or_eq_false_iff, Bool.and_eq_false_iff, decide_eq_false_iff_not,
    beq_eq_false_iff_ne]
  omega

end Handle

/-- The handles that were never given out: those freed, latest first, and all from a fresh index
on. -/
structure Handles where
  freed : List Handle
  fresh : Nat

namespace Handles

def start : Handles := ⟨[], 0⟩

/-- Take the handle that was freed last, or a fresh one. -/
def take (handles : Handles) : Handle × Handles :=
  match handles.freed with
  | handle :: rest => (handle, { handles with freed := rest })
  | [] => (⟨0, handles.fresh⟩, { handles with fresh := handles.fresh + 1 })

/-- Give a handle back. Its place will have a new generation. -/
def release (handles : Handles) (handle : Handle) : Handles :=
  { handles with freed := ⟨handle.generation + 1, handle.index⟩ :: handles.freed }

end Handles

end Arcade
