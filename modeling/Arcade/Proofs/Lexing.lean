import Mathlib.Data.List.Infix
import Arcade.Text.Blank
import Arcade.Text.Numeral
import Arcade.Text.Split

/-! What the pieces of a written line are, said of the texts and not of how they are read. Trimming
finds the one text with no blank at its ends that stands between blanks. A cut is made at the first
place of its mark. A numeral is a run of decimal digits, perhaps with a plus sign in front. -/

namespace Arcade.Text

variable {text core front back before after mark : List Char} {c : Char}

/-! ### White space -/

@[simp]
theorem allBlank_cons (c : Char) (rest : List Char) :
    allBlank (c :: rest) = (isBlank c && allBlank rest) := by
  simp [allBlank]

@[simp]
theorem allBlank_append (front back : List Char) :
    allBlank (front ++ back) = (allBlank front && allBlank back) := by
  simp [allBlank]

theorem allBlank_iff : allBlank text = true ↔ ∀ c ∈ text, isBlank c = true := by
  simp [allBlank]

theorem allBlank_reverse : allBlank text.reverse = allBlank text := by
  simp [allBlank]

theorem isBlank_of_isDigit (digit : c.isDigit = true) : isBlank c = false := by
  have bounds : 48 ≤ c.toNat ∧ c.toNat ≤ 57 := by
    simpa [Char.isDigit, UInt32.le_iff_toNat_le] using digit
  simp [isBlank]
  omega

/-- The core with any white space, or none, on both sides. -/
def Padded (core text : List Char) : Prop :=
  ∃ front back, allBlank front = true ∧ allBlank back = true ∧ text = front ++ core ++ back

theorem Padded.refl (text : List Char) : Padded text text := ⟨[], [], rfl, rfl, by simp⟩

theorem Padded.trans {inner : List Char} (first : Padded inner core) (second : Padded core text) :
    Padded inner text := by
  obtain ⟨front, back, lead, trail, rfl⟩ := first
  obtain ⟨start, stop, before, after, rfl⟩ := second
  exact ⟨start ++ front, back ++ stop, by simp [lead, before], by simp [trail, after], by simp⟩

theorem Padded.mem_iff (padded : Padded core text) (dark : isBlank c = false) :
    c ∈ text ↔ c ∈ core := by
  obtain ⟨front, back, lead, trail, rfl⟩ := padded
  have notLead : c ∉ front := fun inside => by simp [allBlank_iff.mp lead c inside] at dark
  have notTrail : c ∉ back := fun inside => by simp [allBlank_iff.mp trail c inside] at dark
  simp [notLead, notTrail]

theorem Padded.allBlank (padded : Padded core text) : allBlank text = Text.allBlank core := by
  obtain ⟨front, back, lead, trail, rfl⟩ := padded
  simp [lead, trail]

/-- A mark that lacks some character of the text stands on one side of that character. -/
theorem infix_around (absent : c ∉ mark) :
    mark <:+: before ++ c :: after ↔ mark <:+: before ∨ mark <:+: after := by
  constructor
  · rintro ⟨front, back, same⟩
    rw [List.append_assoc, List.append_eq_append_iff] at same
    rcases same with ⟨middle, rfl, split⟩ | ⟨middle, rfl, split⟩
    · rw [List.append_eq_append_iff] at split
      rcases split with ⟨rest, rfl, -⟩ | ⟨rest, rfl, tail⟩
      · exact .inl ⟨front, rest, by simp⟩
      · cases rest with
        | nil => exact .inl ⟨front, [], by simp⟩
        | cons x rest =>
          obtain ⟨rfl, -⟩ := List.cons.inj tail
          simp at absent
    · cases middle with
      | nil =>
        cases mark with
        | nil => exact .inl (List.nil_infix)
        | cons x rest =>
          obtain ⟨rfl, -⟩ := List.cons.inj split
          simp at absent
      | cons x middle =>
        obtain ⟨-, rfl⟩ := List.cons.inj split
        exact .inr ⟨middle, back, by simp⟩
  · rintro (inside | inside)
    · exact inside.trans ⟨[], c :: after, by simp⟩
    · exact inside.trans ⟨before ++ [c], [], by simp⟩

/-- No blank of the padding takes part in a mark without blanks. -/
theorem Padded.infix_iff (padded : Padded core text) (written : mark ≠ [])
    (dark : ∀ c ∈ mark, isBlank c = false) : mark <:+: text ↔ mark <:+: core := by
  have absent : ∀ c, isBlank c = true → c ∉ mark := by
    intro c blank inside
    simp [dark c inside] at blank
  have nowhere : ∀ space : List Char, Text.allBlank space = true → ¬ mark <:+: space := by
    intro space blank inside
    obtain ⟨first, member⟩ := List.exists_mem_of_ne_nil mark written
    exact absent first (allBlank_iff.mp blank first (inside.subset member)) member
  obtain ⟨front, back, lead, trail, rfl⟩ := padded
  have leading : mark <:+: front ++ core ↔ mark <:+: core := by
    cases front using List.reverseRecOn with
    | nil => simp
    | append_singleton front c =>
      simp only [allBlank_append, allBlank_cons, Bool.and_eq_true] at lead
      rw [List.append_assoc, List.singleton_append, infix_around (absent c lead.2.1)]
      exact or_iff_right (nowhere front lead.1)
  rw [← leading]
  cases back with
  | nil => simp
  | cons c back =>
    simp only [allBlank_cons, Bool.and_eq_true] at trail
    rw [infix_around (absent c trail.1)]
    exact or_iff_left (nowhere back trail.2)

/-! ### Trimming -/

theorem trimEnd_eq (text : List Char) : trimEnd text = (trimStart text.reverse).reverse := rfl

theorem exists_trimStart (text : List Char) :
    ∃ front, allBlank front = true ∧ text = front ++ trimStart text := by
  refine ⟨text.takeWhile isBlank, ?_, List.takeWhile_append_dropWhile.symm⟩
  exact List.all_takeWhile

theorem exists_trimEnd (text : List Char) :
    ∃ back, allBlank back = true ∧ text = trimEnd text ++ back := by
  obtain ⟨front, blank, whole⟩ := exists_trimStart text.reverse
  refine ⟨front.reverse, by rw [allBlank_reverse, blank], ?_⟩
  rw [trimEnd_eq, ← List.reverse_append, ← whole, List.reverse_reverse]

theorem padded_trim (text : List Char) : Padded (trim text) text := by
  obtain ⟨front, lead, start⟩ := exists_trimStart text
  obtain ⟨back, trail, stop⟩ := exists_trimEnd (trimStart text)
  refine ⟨front, back, lead, trail, ?_⟩
  rw [List.append_assoc, trim, ← stop, ← start]

theorem isBlank_head_trimStart (begins : (trimStart text).head? = some c) : isBlank c = false := by
  have stops := List.head?_dropWhile_not isBlank text
  rw [trimStart] at begins
  simpa [begins] using stops

theorem isBlank_last_trimEnd (ends : (trimEnd text).getLast? = some c) : isBlank c = false := by
  rw [trimEnd_eq, List.getLast?_reverse] at ends
  exact isBlank_head_trimStart ends

theorem isBlank_head_trim (begins : (trim text).head? = some c) : isBlank c = false := by
  obtain ⟨back, -, stop⟩ := exists_trimEnd (trimStart text)
  have head : (trimStart text).head? = some c := by
    rw [stop, ← trim, List.head?_append, begins]
    rfl
  exact isBlank_head_trimStart head

theorem trimStart_of_head (dark : ∀ c, text.head? = some c → isBlank c = false) :
    trimStart text = text := by
  cases text with
  | nil => rfl
  | cons c rest => simp [trimStart, dark c rfl]

theorem trimEnd_of_last (dark : ∀ c, text.getLast? = some c → isBlank c = false) :
    trimEnd text = text := by
  rw [trimEnd_eq, trimStart_of_head (fun c begins => dark c (by simpa using begins)),
    List.reverse_reverse]

/-- A text is trimmed when neither its first nor its last character is a blank. -/
theorem trimmed_iff : Trimmed text ↔ (∀ c, text.head? = some c → isBlank c = false) ∧
    ∀ c, text.getLast? = some c → isBlank c = false := by
  constructor
  · intro trimmed
    have same : trim text = text := trimmed
    refine ⟨fun c begins => ?_, fun c ends => ?_⟩
    · rw [← same] at begins
      exact isBlank_head_trim begins
    · rw [← same, trim] at ends
      exact isBlank_last_trimEnd ends
  · rintro ⟨start, stop⟩
    rw [Trimmed, trim, trimStart_of_head start, trimEnd_of_last stop]

theorem trimmed_trim (text : List Char) : Trimmed (trim text) :=
  trimmed_iff.mpr ⟨fun _ begins => isBlank_head_trim begins, fun _ ends => isBlank_last_trimEnd ends⟩

/-- No blanks stand at the end of a trimmed text. -/
theorem Trimmed.nil_of_blank_end (trimmed : Trimmed (front ++ back))
    (blank : allBlank back = true) : back = [] := by
  cases back using List.reverseRecOn with
  | nil => rfl
  | append_singleton rest c =>
    have dark := (trimmed_iff.mp trimmed).2 c (by simp)
    simp [dark] at blank

/-- Trimming finds the one trimmed text that the blanks enclose. -/
theorem trim_eq_iff : trim text = core ↔ Trimmed core ∧ Padded core text := by
  constructor
  · rintro rfl
    exact ⟨trimmed_trim text, padded_trim text⟩
  · rintro ⟨trimmed, front, back, lead, trail, rfl⟩
    obtain ⟨start, stop⟩ := trimmed_iff.mp trimmed
    have skipped : trimStart (front ++ core ++ back) = trimStart (core ++ back) := by
      rw [List.append_assoc]
      exact List.dropWhile_append_of_pos (allBlank_iff.mp lead)
    rw [trim, skipped]
    cases core with
    | nil =>
      have gone : trimStart back = [] := (trimStart_eq_nil_iff back).mpr trail
      rw [List.nil_append, gone]
      rfl
    | cons c rest =>
      have kept : trimStart (c :: rest ++ back) = c :: rest ++ back :=
        trimStart_of_head fun x begins => start x (by simpa using begins)
      have dropped : trimStart (c :: rest ++ back).reverse = trimStart (c :: rest).reverse := by
        rw [List.reverse_append]
        refine List.dropWhile_append_of_pos (allBlank_iff.mp ?_)
        rw [allBlank_reverse, trail]
      rw [kept, trimEnd_eq, dropped, ← trimEnd_eq, trimEnd_of_last stop]

theorem Padded.trim_eq (padded : Padded core text) : trim text = trim core :=
  trim_eq_iff.mpr ⟨trimmed_trim core, (padded_trim core).trans padded⟩

/-- Trimming around a character that is no blank trims the outer side of what is on both sides. -/
theorem trim_around (dark : isBlank c = false) :
    trim (before ++ c :: after) = trimStart before ++ c :: trimEnd after := by
  obtain ⟨front, lead, start⟩ := exists_trimStart before
  obtain ⟨back, trail, stop⟩ := exists_trimEnd after
  refine trim_eq_iff.mpr ⟨trimmed_iff.mpr ⟨fun x begins => ?_, fun x ends => ?_⟩,
    front, back, lead, trail, ?_⟩
  · rw [List.head?_append, List.head?_cons] at begins
    cases head : (trimStart before).head? with
    | none =>
      obtain rfl : c = x := by simpa [head] using begins
      exact dark
    | some y =>
      obtain rfl : y = x := by simpa [head] using begins
      exact isBlank_head_trimStart head
  · rw [List.getLast?_append, List.getLast?_cons] at ends
    cases last : (trimEnd after).getLast? with
    | none =>
      obtain rfl : c = x := by simpa [last] using ends
      exact dark
    | some y =>
      obtain rfl : y = x := by simpa [last] using ends
      exact isBlank_last_trimEnd last
  · calc before ++ c :: after
        = (front ++ trimStart before) ++ c :: (trimEnd after ++ back) := by rw [← start, ← stop]
      _ = front ++ (trimStart before ++ c :: trimEnd after) ++ back := by simp

theorem padded_trimStart (text : List Char) : Padded (trimStart text) text := by
  obtain ⟨front, lead, start⟩ := exists_trimStart text
  exact ⟨front, [], lead, rfl, by rw [← start, List.append_nil]⟩

theorem padded_trimEnd (text : List Char) : Padded (trimEnd text) text := by
  obtain ⟨back, trail, stop⟩ := exists_trimEnd text
  exact ⟨[], back, rfl, trail, by rw [List.nil_append, ← stop]⟩

theorem trim_eq_nil_iff : trim text = [] ↔ allBlank text = true := by
  rw [trim, trimEnd_eq_nil_iff]
  constructor
  · intro blank
    obtain ⟨front, lead, whole⟩ := exists_trimStart text
    rw [whole, allBlank_append, lead, blank]
    rfl
  · intro blank
    rw [(trimStart_eq_nil_iff text).mpr blank]
    rfl

theorem Trimmed.eq_nil_iff (trimmed : Trimmed text) : text = [] ↔ allBlank text = true := by
  rw [← trim_eq_nil_iff, trimmed]

/-! ### Cuts -/

/-- The text is cut at the first place where the mark stands. -/
structure FirstCut (mark text before after : List Char) : Prop where
  whole : text = before ++ mark ++ after
  first : ∀ front back, text = front ++ mark ++ back → before.length ≤ front.length

theorem splitOnce?_eq_some_iff :
    splitOnce? mark text = some (before, after) ↔ FirstCut mark text before after := by
  induction text generalizing before with
  | nil =>
    cases mark with
    | nil =>
      constructor
      · rintro ⟨⟩
        exact ⟨rfl, by simp⟩
      · rintro ⟨whole, -⟩
        simp_all [splitOnce?]
    | cons c rest =>
      refine ⟨by simp [splitOnce?], ?_⟩
      rintro ⟨whole, -⟩
      simp at whole
  | cons c rest ih =>
    by_cases starts : mark <+: c :: rest
    · obtain ⟨tail, same⟩ := starts
      have found : splitOnce? mark (c :: rest) = some ([], tail) := by
        rw [splitOnce?, if_pos (List.isPrefixOf_iff_prefix.mpr ⟨tail, same⟩), ← same,
          List.drop_left]
      rw [found]
      constructor
      · rintro ⟨⟩
        exact ⟨same.symm, by simp⟩
      · rintro ⟨whole, first⟩
        obtain rfl : before = [] := List.length_eq_zero_iff.mp
          (Nat.le_zero.mp (first [] tail same.symm))
        rw [List.nil_append, ← same] at whole
        rw [List.append_cancel_left whole]
    · have later : ∀ {back}, c :: rest ≠ [] ++ mark ++ back := fun same => starts ⟨_, same.symm⟩
      rw [splitOnce?, if_neg (mt List.isPrefixOf_iff_prefix.mp starts), Option.map_eq_some_iff]
      constructor
      · rintro ⟨⟨head, tail⟩, found, ⟨⟩⟩
        obtain ⟨whole, first⟩ := ih.mp found
        refine ⟨by rw [whole]; simp, ?_⟩
        intro front back same
        cases front with
        | nil => exact absurd same later
        | cons x front => simpa using first front back (List.cons.inj same).2
      · rintro ⟨whole, first⟩
        cases before with
        | nil => exact absurd whole later
        | cons x before =>
          obtain ⟨rfl, tail⟩ := List.cons.inj whole
          refine ⟨(before, after), ih.mpr ⟨tail, ?_⟩, rfl⟩
          intro front back same
          simpa using first (c :: front) back (by rw [same]; simp)

/-- Where the first character of a mark does not come back in it, places of the mark do not run into
each other, and the first place is the one with none before it. -/
theorem firstCut_iff {rest : List Char} (once : c ∉ rest) :
    FirstCut (c :: rest) text before after ↔
      text = before ++ c :: rest ++ after ∧ ¬ c :: rest <:+: before := by
  constructor
  · rintro ⟨whole, first⟩
    refine ⟨whole, ?_⟩
    rintro ⟨front, back, rfl⟩
    have early := first front (back ++ c :: rest ++ after) (by rw [whole]; simp)
    simp only [List.length_append, List.length_cons] at early
    omega
  · rintro ⟨rfl, none⟩
    refine ⟨rfl, ?_⟩
    intro front back same
    by_contra! early
    rw [List.append_assoc, List.append_assoc, List.append_eq_append_iff] at same
    rcases same with ⟨middle, rfl, -⟩ | ⟨middle, rfl, split⟩
    · simp only [List.length_append] at early
      omega
    · -- The early place lies before the cut, or the mark begins anew inside it.
      rw [List.append_eq_append_iff] at split
      rcases split with ⟨inner, rfl, -⟩ | ⟨inner, again, tail⟩
      · exact none ⟨front, inner, by simp⟩
      · cases inner with
        | nil => exact none ⟨front, [], by simpa using again⟩
        | cons x inner =>
          obtain rfl : c = x := (List.cons.inj tail).1
          cases middle with
          | nil => simp at early
          | cons y middle =>
            obtain ⟨-, rfl⟩ := List.cons.inj again
            simp at once

theorem beforeEnd?_eq_some_iff : beforeEnd? mark text = some before ↔ text = before ++ mark := by
  rw [beforeEnd?, afterStart?]
  constructor
  · intro found
    split at found
    · rename_i starts
      obtain ⟨tail, same⟩ := List.isPrefixOf_iff_prefix.mp starts
      rw [← same, List.drop_left] at found
      obtain rfl : tail.reverse = before := by simpa using found
      simpa using (congrArg List.reverse same).symm
    · simp at found
  · rintro rfl
    have starts : mark.reverse.isPrefixOf (before ++ mark).reverse = true :=
      List.isPrefixOf_iff_prefix.mpr ⟨before.reverse, by simp⟩
    rw [if_pos starts]
    simp

/-! ### Numerals -/

/-- The text writes the number: decimal digits, at least one of them, perhaps with a plus sign in
front. -/
def Numeral (text : List Char) (value : Nat) : Prop :=
  ∃ digits, (text = digits ∨ text = '+' :: digits) ∧ digits ≠ [] ∧
    (∀ c ∈ digits, c.isDigit = true) ∧ value = Nat.ofDigitChars 10 digits 0

theorem natural?_eq_some_iff {value : Nat} : natural? text = some value ↔ Numeral text value := by
  have read : ∀ digits : List Char,
      (if (!digits.isEmpty && digits.all Char.isDigit) = true then some (digitsValue digits)
        else none) = some value ↔
      digits ≠ [] ∧ (∀ c ∈ digits, c.isDigit = true) ∧ value = Nat.ofDigitChars 10 digits 0 := by
    intro digits
    rw [Nat.ofDigitChars_eq_foldl, ← digitsValue]
    simp [and_assoc, eq_comm (a := value)]
  constructor
  · intro found
    unfold natural? at found
    split at found
    · exact ⟨_, .inr rfl, (read _).mp found⟩
    · exact ⟨_, .inl rfl, (read _).mp found⟩
  · rintro ⟨digits, rfl | rfl, told⟩
    · have unsigned : ∀ rest, text ≠ '+' :: rest := by
        rintro rest rfl
        simpa using told.2.1 '+' List.mem_cons_self
      unfold natural?
      split
      · exact absurd rfl (unsigned _)
      · exact (read _).mpr told
    · exact (read digits).mpr told

theorem naturalUpTo?_eq_some_iff {largest value : Nat} :
    naturalUpTo? largest text = some value ↔ Numeral text value ∧ value ≤ largest := by
  rw [naturalUpTo?, Option.filter_eq_some_iff, natural?_eq_some_iff, decide_eq_true_eq]

theorem Numeral.ne_nil {value : Nat} (numeral : Numeral text value) : text ≠ [] := by
  obtain ⟨digits, rfl | rfl, written, -⟩ := numeral
  · exact written
  · simp

theorem Numeral.digit_or_plus {value : Nat} (numeral : Numeral text value) :
    ∀ c ∈ text, c.isDigit = true ∨ c = '+' := by
  obtain ⟨digits, rfl | rfl, -, decimal, -⟩ := numeral
  · exact fun c inside => .inl (decimal c inside)
  · intro c inside
    exact (List.mem_cons.mp inside).symm.imp_left (decimal c)

theorem Numeral.isBlank {value : Nat} (numeral : Numeral text value) :
    ∀ c ∈ text, isBlank c = false := by
  intro c inside
  rcases numeral.digit_or_plus c inside with digit | rfl
  · exact isBlank_of_isDigit digit
  · rfl

/-- Text without blanks is trimmed. -/
theorem trimmed_of_dark (dark : ∀ c ∈ text, isBlank c = false) : Trimmed text :=
  trimmed_iff.mpr ⟨fun c begins => dark c (List.mem_of_head? begins),
    fun c ends => dark c (List.mem_of_getLast? ends)⟩

/-- The usual decimal digits of a number write it. -/
theorem numeral_toString (value : Nat) : Numeral (toString value).toList value := by
  refine ⟨_, .inl rfl, ?_, ?_, ?_⟩
  · simp
  · intro c inside
    rw [Nat.toString_eq_repr, Nat.toList_repr] at inside
    exact Nat.isDigit_of_mem_toDigits (by decide) (by decide) inside
  · rw [Nat.toString_eq_repr, Nat.toList_repr, Nat.ofDigitChars_toDigits (by decide) (by decide)]

end Arcade.Text
