import Arcade.Text.Split

/-! Addresses of pictures: a path, perhaps with the name of a source and `://` in front of it, and
perhaps with `#` and a label behind it. -/

namespace Arcade.Address

/-- What stands between a source and a path. -/
def sourceMark : List Char := "://".toList

/-- What precedes the first mark of a source. -/
def source? (address : List Char) : Option (List Char) :=
  (Text.splitOnce? sourceMark address).map (·.1)

/-- What follows the last `#`. -/
def label? (address : List Char) : Option (List Char) :=
  (Text.splitWhere? (· = '#') address.reverse).map (·.1.reverse)

/-- Whether an address can be taken apart: a source has a name without `#`, and a label has a name
in which no other source begins. -/
def readable (address : List Char) : Bool :=
  (source? address).all (fun source => !source.isEmpty && !source.contains '#') &&
    (label? address).all fun label => !label.isEmpty && (source? label).isNone

/-- A label is all that follows the last sign that announces one. -/
theorem label?_eq_some_iff {address label : List Char} :
    label? address = some label ↔ '#' ∉ label ∧ ∃ front, address = front ++ '#' :: label := by
  constructor
  · intro found
    obtain ⟨⟨before, after⟩, split, rfl⟩ := Option.map_eq_some_iff.mp found
    obtain ⟨c, hit, whole, clean⟩ := Text.splitWhere?_eq_some split
    have sign : c = '#' := by simpa using hit
    refine ⟨?_, after.reverse, ?_⟩
    · intro member
      simpa using clean '#' (List.mem_reverse.mp member)
    · simpa [sign] using congrArg List.reverse whole
  · rintro ⟨free, front, rfl⟩
    have clean : ∀ x ∈ label.reverse, decide (x = '#') = false := by
      intro x member
      have differs : x ≠ '#' := fun same => free (same ▸ List.mem_reverse.mp member)
      simpa using differs
    have split := Text.splitWhere?_append (c := '#') rfl label.reverse front.reverse clean
    have turned : (front ++ '#' :: label).reverse = label.reverse ++ '#' :: front.reverse := by simp
    rw [label?, turned, split]
    simp

end Arcade.Address
