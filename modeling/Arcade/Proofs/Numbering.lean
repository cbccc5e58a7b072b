import Arcade.Proofs.Bookkeeping
import Arcade.Proofs.Grouping
import Mathlib.Data.List.Basic

/-! The ids of what is made while a game is played: copies and shots are numbered, each under the name
of its spawner or its owner. Whatever these names are, no id is given twice. -/

namespace Arcade

variable {S T : Type}

/-! ### Names with numbers -/

/-- A number at the end of a text, after a bar, can be read off. -/
theorem stem_number_inj {stem other : List Char} {number again : Nat}
    (same : stem ++ '_' :: Nat.toDigits 10 number = other ++ '_' :: Nat.toDigits 10 again) :
    stem = other ∧ number = again := by
  have read (number : Nat) (stem : List Char) :
      (stem ++ '_' :: Nat.toDigits 10 number).reverse.takeWhile (· ≠ '_') =
        (Nat.toDigits 10 number).reverse := by
    rw [List.reverse_append, List.reverse_cons, List.append_assoc, List.singleton_append,
      List.takeWhile_append_of_pos, List.takeWhile_cons_of_neg (by simp), List.append_nil]
    intro letter member
    rw [List.mem_reverse] at member
    refine decide_eq_true fun bar => ?_
    exact Nat.underscore_not_in_toDigits (bar ▸ member)
  have digits : Nat.toDigits 10 number = Nat.toDigits 10 again := by
    apply List.reverse_injective
    rw [← read number stem, ← read again other, same]
  have value (number : Nat) : Nat.ofDigitChars 10 (Nat.toDigits 10 number) 0 = number :=
    Nat.ofDigitChars_toDigits (by decide) (by decide)
  rw [digits] at same
  refine ⟨List.append_cancel_right same, ?_⟩
  rw [← value number, ← value again, digits]

namespace World

theorem toList_copyId (spawner : String) (number : Nat) :
    (copyId spawner number).toList =
      (spawner.toList ++ "_spawned".toList) ++ '_' :: Nat.toDigits 10 number := by
  have mark : "_spawned_".toList = "_spawned".toList ++ ['_'] := rfl
  rw [copyId, String.toList_append, String.toList_append, mark, Nat.toString_eq_repr,
    Nat.toList_repr]
  simp only [List.append_assoc, List.singleton_append]

theorem toList_shotId (owner : String) (number : Nat) :
    (shotId owner number).toList =
      (owner.toList ++ "_projectile".toList) ++ '_' :: Nat.toDigits 10 number := by
  have mark : "_projectile_".toList = "_projectile".toList ++ ['_'] := rfl
  rw [shotId, String.toList_append, String.toList_append, mark, Nat.toString_eq_repr,
    Nat.toList_repr]
  simp only [List.append_assoc, List.singleton_append]

theorem copyId_inj {spawner other : String} {number again : Nat}
    (same : copyId spawner number = copyId other again) : spawner = other ∧ number = again := by
  have letters := congrArg String.toList same
  rw [toList_copyId, toList_copyId] at letters
  obtain ⟨stems, numbers⟩ := stem_number_inj letters
  exact ⟨String.toList_inj.mp (List.append_cancel_right stems), numbers⟩

theorem shotId_inj {owner other : String} {number again : Nat}
    (same : shotId owner number = shotId other again) : owner = other ∧ number = again := by
  have letters := congrArg String.toList same
  rw [toList_shotId, toList_shotId] at letters
  obtain ⟨stems, numbers⟩ := stem_number_inj letters
  exact ⟨String.toList_inj.mp (List.append_cancel_right stems), numbers⟩

/-- The names of copies and of shots differ in the last letter of their mark. -/
theorem copyId_ne_shotId (spawner owner : String) (number again : Nat) :
    copyId spawner number ≠ shotId owner again := by
  intro same
  have letters := congrArg String.toList same
  rw [toList_copyId, toList_shotId] at letters
  obtain ⟨stems, -⟩ := stem_number_inj letters
  have last := congrArg List.getLast? stems
  rw [List.getLast?_append, List.getLast?_append] at last
  cases last

/-- The name of the banner has no number. -/
theorem copyId_ne_banner (spawner : String) (number : Nat) :
    copyId spawner number ≠ gameOverTextId := by
  intro same
  have bar : '_' ∈ gameOverTextId.toList := by
    rw [← same, toList_copyId]
    exact List.mem_append_right _ List.mem_cons_self
  revert bar
  decide

theorem shotId_ne_banner (owner : String) (number : Nat) :
    shotId owner number ≠ gameOverTextId := by
  intro same
  have bar : '_' ∈ gameOverTextId.toList := by
    rw [← same, toList_shotId]
    exact List.mem_append_right _ List.mem_cons_self
  revert bar
  decide

end World

/-! ### Ids that were given -/

namespace Books

/-- An id was given while the game was played: to a copy or a shot, whose number is below the next
one, or to the banner. -/
def Given (books : Books S T) (id : String) : Prop :=
  (∃ spawner number, id = World.copyId spawner number ∧ number < books.copyCount spawner) ∨
    (∃ owner number, id = World.shotId owner number ∧ number < books.shotCount owner) ∨
    (id = World.gameOverTextId ∧ books.ended = true)

variable {books : Books S T} {id : String}

theorem Given.grown {later : Books S T} (given : books.Given id) (grown : Grown books later) :
    later.Given id := by
  rcases given with ⟨spawner, number, rfl, below⟩ | ⟨owner, number, rfl, below⟩ | ⟨rfl, finished⟩
  · exact .inl ⟨spawner, number, rfl, Nat.lt_of_lt_of_le below (grown.copies spawner)⟩
  · exact .inr (.inl ⟨owner, number, rfl, Nat.lt_of_lt_of_le below (grown.shots owner)⟩)
  · exact .inr (.inr ⟨rfl, grown.ended finished⟩)

/-- The next number of a spawner makes a new id. -/
theorem not_given_copyId (books : Books S T) (spawner : String) :
    ¬ books.Given (World.copyId spawner (books.copyCount spawner)) := by
  rintro (⟨other, number, same, below⟩ | ⟨owner, number, same, -⟩ | ⟨same, -⟩)
  · obtain ⟨rfl, rfl⟩ := World.copyId_inj same
    exact Nat.lt_irrefl _ below
  · exact World.copyId_ne_shotId _ _ _ _ same
  · exact World.copyId_ne_banner _ _ same

/-- The next number of an owner makes a new id. -/
theorem not_given_shotId (books : Books S T) (owner : String) :
    ¬ books.Given (World.shotId owner (books.shotCount owner)) := by
  rintro (⟨spawner, number, same, -⟩ | ⟨other, number, same, below⟩ | ⟨same, -⟩)
  · exact World.copyId_ne_shotId _ _ _ _ same.symm
  · obtain ⟨rfl, rfl⟩ := World.shotId_inj same
    exact Nat.lt_irrefl _ below
  · exact World.shotId_ne_banner _ _ same

theorem not_given_banner (going : books.ended = false) : ¬ books.Given World.gameOverTextId := by
  rintro (⟨spawner, number, same, -⟩ | ⟨owner, number, same, -⟩ | ⟨-, finished⟩)
  · exact World.copyId_ne_banner _ _ same.symm
  · exact World.shotId_ne_banner _ _ same.symm
  · rw [going] at finished
    cases finished

/-- Who was made since some birth has an id of its own. -/
def Distinct (first : List (Birth S)) (books : Books S T) : Prop :=
  ∃ made, books.births = made ++ first ∧ (made.map (·.id)).Nodup ∧
    ∀ birth ∈ made, books.Given birth.id

variable {first : List (Birth S)}

/-- Whoever comes under a new id is told apart from all others. -/
theorem Distinct.birth {later : Books S T} (distinct : books.Distinct first)
    (grown : Grown books later) {birth : Birth S} (born : later.births = birth :: books.births)
    (new : ¬ books.Given birth.id) (given : later.Given birth.id) : later.Distinct first := by
  obtain ⟨made, since, different, known⟩ := distinct
  refine ⟨birth :: made, by rw [born, since, List.cons_append], ?_, ?_⟩
  · refine List.nodup_cons.mpr ⟨?_, different⟩
    intro again
    obtain ⟨other, member, same⟩ := List.mem_map.mp again
    have old := known other member
    rw [same] at old
    exact new old
  · intro other member
    rcases List.mem_cons.mp member with rfl | old
    · exact given
    · exact (known other old).grown grown

/-- Every entry gives a new id to whoever is made. -/
theorem Distinct.enter (distinct : books.Distinct first) {entry : Entry S T}
    (framed : entry.OfFrame) (admitted : books.Admits entry) :
    (books.enter entry).Distinct first := by
  have grown := grown_enter books entry
  have unborn (same : (books.enter entry).births = books.births) :
      (books.enter entry).Distinct first := by
    obtain ⟨made, since, different, known⟩ := distinct
    exact ⟨made, same.trans since, different, fun birth member => (known birth member).grown grown⟩
  cases entry with
  | copy handle spawner =>
    refine distinct.birth grown rfl (books.not_given_copyId spawner.id) (.inl ⟨_, _, rfl, ?_⟩)
    rw [copyCount_copy, if_pos rfl]
    exact Nat.lt_succ_self _
  | shot handle owner template =>
    refine distinct.birth grown rfl (books.not_given_shotId owner) (.inr (.inl ⟨_, _, rfl, ?_⟩))
    rw [shotCount_shot, if_pos rfl]
    exact Nat.lt_succ_self _
  | ending handle center =>
    exact distinct.birth grown rfl (not_given_banner admitted) (.inr (.inr ⟨rfl, rfl⟩))
  | object handle object => exact absurd framed (Entry.not_ofFrame_object handle object)
  | _ => exact unborn (by simp only [Books.enter])

end Books

namespace World

variable [Scalar S] [Scalar T] [Circular S] [Sampling S] [Rounding T S]

/-- All that was made since a game was started and as long as it is played, by spawners, by shots or
as it ended, whether it is still there or not: no two of these were made under one id. -/
theorem Lived.ids_distinct {others₀ others : List Handle} {world₀ started world : World S T}
    {spec : Spec S} {options : StartOptions} {session : Session}
    (lived : world₀.Lived others₀)
    (start : world₀.tryStart spec options = (started, .ok session))
    (since : Later others₀ started others world) (playing : world.playing = some session) :
    ∃ made, world.births = made ++ started.births ∧ (made.map (·.id)).Nodup := by
  have law : Law fun (_ : List Handle) (world : World S T) => world.books.Distinct started.births :=
    law_books fun books entry framed admitted distinct => distinct.enter framed admitted
  have begun := lived.start start
  have first : started.books.Distinct started.births :=
    ⟨[], rfl, List.Pairwise.nil, fun _ member => absurd member List.not_mem_nil⟩
  obtain ⟨made, born, different, -⟩ :=
    law.later begun (active_of_tryStart lived.sound start) first since playing
  exact ⟨made, born, different⟩

/-- An object that is called as the first copy will be shoots, and so does the copy. -/
theorem Lived.ids_distinct_namesake :
    ∃ (started world : World Float32 Float) (session : Session),
      (World.empty Sample.entropy).tryStart (Sample.shooting [Sample.gunner "nest_spawned_0"]) .default =
          (started, .ok session) ∧
        started.play [(some [.space], 25), (some [.space], 25)] = .ok world ∧
        world.playing = some session ∧
        ∃ made, world.births = made ++ started.births ∧ (made.map (·.id)).Nodup := by
  have shot : Sample.volleyed [Sample.gunner "nest_spawned_0"] = true := by decide +kernel
  obtain ⟨started, world, session, -, start, played, playing, -⟩ := Sample.volleyed_cases shot
  have begun : started.Lived [] := (lived_empty Sample.entropy).start start
  have since := Later.refl.play begun.sound played
  exact ⟨started, world, session, start, played, playing,
    Lived.ids_distinct (lived_empty Sample.entropy) start since playing⟩

end World

end Arcade
