/-! Cutting a text at the first place where a mark stands, and taking marks off its ends. -/

namespace Arcade.Text

/-- The two sides of the first occurrence of `mark`. -/
def splitOnce? (mark : List Char) : List Char → Option (List Char × List Char)
  | [] => if mark.isEmpty then some ([], []) else none
  | c :: rest =>
    if mark.isPrefixOf (c :: rest) then some ([], (c :: rest).drop mark.length)
    else (splitOnce? mark rest).map fun (before, after) => (c :: before, after)

/-- The two sides of the first character that `test` accepts; that character is dropped. -/
def splitWhere? (test : Char → Bool) : List Char → Option (List Char × List Char)
  | [] => none
  | c :: rest =>
    if test c then some ([], rest)
    else (splitWhere? test rest).map fun (before, after) => (c :: before, after)

/-- What follows `mark` at the start of the text. -/
def afterStart? (mark text : List Char) : Option (List Char) :=
  if mark.isPrefixOf text then some (text.drop mark.length) else none

/-- What precedes `mark` at the end of the text. -/
def beforeEnd? (mark text : List Char) : Option (List Char) :=
  (afterStart? mark.reverse text.reverse).map List.reverse

theorem splitWhere?_eq_some {test : Char → Bool} {text before after : List Char}
    (found : splitWhere? test text = some (before, after)) :
    ∃ c, test c = true ∧ text = before ++ c :: after ∧ ∀ x ∈ before, test x = false := by
  induction text generalizing before with
  | nil => simp [splitWhere?] at found
  | cons c rest ih =>
    by_cases hit : test c = true
    · simp only [splitWhere?, hit, ↓reduceIte, Option.some.injEq, Prod.mk.injEq] at found
      obtain ⟨rfl, rfl⟩ := found
      exact ⟨c, hit, rfl, by simp⟩
    · simp only [splitWhere?, hit, Bool.false_eq_true, ↓reduceIte, Option.map_eq_some_iff] at found
      obtain ⟨⟨first, second⟩, tail, same⟩ := found
      simp only [Prod.mk.injEq] at same
      obtain ⟨rfl, rfl⟩ := same
      obtain ⟨x, accepted, whole, clean⟩ := ih tail
      refine ⟨x, accepted, by simp [whole], ?_⟩
      intro y member
      rcases List.mem_cons.mp member with same | inside
      · subst same; simpa using hit
      · exact clean y inside

theorem splitWhere?_append {test : Char → Bool} {c : Char} (hit : test c = true)
    (before after : List Char) (clean : ∀ x ∈ before, test x = false) :
    splitWhere? test (before ++ c :: after) = some (before, after) := by
  induction before with
  | nil => simp [splitWhere?, hit]
  | cons x rest ih =>
    have miss := clean x List.mem_cons_self
    have tail := ih fun y inside => clean y (List.mem_cons_of_mem x inside)
    simp [splitWhere?, miss, tail]

end Arcade.Text
