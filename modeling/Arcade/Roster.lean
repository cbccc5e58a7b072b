import Arcade.Actor

/-! The actors of a world. They stand in rows, one for each set of parts that was ever seen, in the
order in which these sets appeared. An actor that leaves its row, or changes to another one,
leaves its place to the last of the row; an actor that comes to a row stands at its end. -/

namespace Arcade

/-- The list without the first element that a test accepts; the last element takes its place. -/
def swapRemove (test : α → Bool) (items : List α) : List α :=
  let before := items.takeWhile fun item => !test item
  match items.dropWhile fun item => !test item with
  | [] => before
  | _ :: after =>
    match after.getLast? with
    | none => before
    | some last => before ++ last :: after.dropLast

/-- Up to order, one accepted element is missing. -/
theorem swapRemove_perm (test : α → Bool) (items : List α) :
    (swapRemove test items).Perm (items.eraseP test) := by
  induction items with
  | nil => simp [swapRemove]
  | cons head rest ih =>
    cases hit : test head with
    | true =>
      simp only [swapRemove, hit, Bool.not_true, Bool.false_eq_true, not_false_eq_true,
        List.takeWhile_cons_of_neg, List.dropWhile_cons_of_neg, List.eraseP_cons_of_pos,
        List.nil_append]
      split
      · rename_i nothing
        simp [List.getLast?_eq_none_iff.mp nothing]
      · rename_i last ends
        obtain ⟨front, rfl⟩ := List.getLast?_eq_some_iff.mp ends
        rw [List.dropLast_concat]
        exact (List.perm_append_comm : ([last] ++ front).Perm (front ++ [last]))
    | false =>
      have step : swapRemove test (head :: rest) = head :: swapRemove test rest := by
        simp only [swapRemove, hit, Bool.not_false, List.takeWhile_cons_of_pos,
          List.dropWhile_cons_of_pos, List.cons_append]
        split
        · rfl
        · split <;> rfl
      rw [step, List.eraseP_cons_of_neg (by simp [hit])]
      exact ih.cons head

structure Row (S T : Type) where
  parts : Parts
  actors : List (Actor S T)

structure Roster (S T : Type) where
  rows : List (Row S T)

namespace Roster

variable {S T : Type}

def empty : Roster S T := ⟨[]⟩

/-- All actors, row by row. -/
def actors (roster : Roster S T) : List (Actor S T) := roster.rows.flatMap (·.actors)

def find? (roster : Roster S T) (handle : Handle) : Option (Actor S T) :=
  roster.actors.find? (·.handle = handle)

def contains (roster : Roster S T) (handle : Handle) : Bool := (roster.find? handle).isSome

/-- Put an actor at the end of the row of its parts. -/
def place (actor : Actor S T) : List (Row S T) → List (Row S T)
  | [] => [⟨actor.parts, [actor]⟩]
  | row :: rest =>
    if row.parts = actor.parts then { row with actors := row.actors ++ [actor] } :: rest
    else row :: place actor rest

def add (roster : Roster S T) (actor : Actor S T) : Roster S T := ⟨place actor roster.rows⟩

/-- Take an actor out of its row. -/
def remove (roster : Roster S T) (handle : Handle) : Roster S T :=
  ⟨roster.rows.map fun row => { row with actors := swapRemove (·.handle = handle) row.actors }⟩

/-- Change every actor where it stands. Such a change keeps the parts. -/
def map (roster : Roster S T) (change : Actor S T → Actor S T) : Roster S T :=
  ⟨roster.rows.map fun row => { row with actors := row.actors.map change }⟩

/-- Change one actor where it stands. Such a change keeps the parts. -/
def modify (roster : Roster S T) (handle : Handle) (change : Actor S T → Actor S T) :
    Roster S T :=
  roster.map fun actor => if actor.handle = handle then change actor else actor

/-- Change one actor, which goes to another row when it has other parts then. -/
def update (roster : Roster S T) (handle : Handle) (change : Actor S T → Actor S T) :
    Roster S T :=
  match roster.find? handle with
  | none => roster
  | some actor =>
    let changed := change actor
    if changed.parts = actor.parts then roster.modify handle fun _ => changed
    else (roster.remove handle).add changed

end Roster

end Arcade
