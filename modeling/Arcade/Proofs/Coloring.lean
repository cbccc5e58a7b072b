import Mathlib.Data.List.Forall2
import Mathlib.Data.Nat.Digits.Lemmas
import Mathlib.Tactic.IntervalCases
import Mathlib.Tactic.Ring
import Arcade.Color
import Arcade.Proofs.Lexing
import Arcade.Proofs.Reordering

/-! The notations of colors, and that they do not get in each other's way: what a text means is the
color that it writes, in whatever case its letters are and whatever white space is around it, and no
color has more than its three bytes. -/

namespace Arcade

namespace Text

variable {text other digits : List Char} {values : List Nat} {c : Char} {value : Nat}

/-! ### Letters of either case -/

theorem toLower_cases (c : Char) :
    (¬ (65 ≤ c.toNat ∧ c.toNat ≤ 90) ∧ c.toLower = c) ∨
      (65 ≤ c.toNat ∧ c.toNat ≤ 90) ∧ c.toLower.toNat = c.toNat + 32 := by
  unfold Char.toLower
  split
  · rename_i upper
    simp only [ge_iff_le, UInt32.le_iff_toNat_le] at upper
    have bounds : 65 ≤ c.toNat ∧ c.toNat ≤ 90 := upper
    have shifted : (c.val + 32).toNat = c.toNat + 32 := by
      have small : c.toNat + 32 < 2 ^ 32 := by omega
      rw [UInt32.toNat_add]
      exact Nat.mod_eq_of_lt small
    exact .inr ⟨bounds, shifted⟩
  · rename_i lower
    simp only [ge_iff_le, UInt32.le_iff_toNat_le] at lower
    exact .inl ⟨lower, rfl⟩

/-- Only letters have another case. -/
theorem eq_of_toLower {d : Char} (same : c.toLower = d) (mark : d.toNat < 97 ∨ 122 < d.toNat) :
    c = d := by
  rcases toLower_cases c with ⟨-, kept⟩ | ⟨upper, shifted⟩
  · rw [← same, kept]
  · rw [same] at shifted
    omega

/-- Digits and letters are no white space. -/
theorem isBlank_of_toLower (low : 48 ≤ c.toLower.toNat) (high : c.toLower.toNat ≤ 122) :
    isBlank c = false := by
  have bounds : 48 ≤ c.toNat ∧ c.toNat ≤ 122 := by
    rcases toLower_cases c with ⟨-, kept⟩ | ⟨upper, -⟩
    · rw [kept] at low high
      exact ⟨low, high⟩
    · omega
  simp [Text.isBlank]
  omega

/-- The texts differ in the case of their letters at most. -/
def Recased (text other : List Char) : Prop := other.map Char.toLower = text.map Char.toLower

theorem Recased.cons {rest : List Char} (recased : Recased (c :: rest) other) :
    ∃ d tail, other = d :: tail ∧ d.toLower = c.toLower ∧ Recased rest tail := by
  obtain ⟨d, tail, rfl, same, recased⟩ := List.map_eq_cons_iff.mp recased
  exact ⟨d, tail, rfl, same, recased⟩

/-- A text without letters is written in one way. -/
theorem Recased.eq (recased : Recased text other)
    (marks : ∀ c ∈ text, c.toLower = c ∧ (c.toNat < 97 ∨ 122 < c.toNat)) : other = text := by
  induction text generalizing other with
  | nil => exact List.map_eq_nil_iff.mp recased
  | cons c rest ih =>
    obtain ⟨d, tail, rfl, same, recased⟩ := recased.cons
    obtain ⟨kept, mark⟩ := marks c List.mem_cons_self
    rw [eq_of_toLower (same.trans kept) mark,
      ih recased fun x inside => marks x (List.mem_cons_of_mem c inside)]

theorem Numeral.marks (numeral : Numeral text value) :
    ∀ c ∈ text, c.toLower = c ∧ (c.toNat < 97 ∨ 122 < c.toNat) := by
  intro c inside
  rcases numeral.digit_or_plus c inside with digit | rfl
  · have bounds : 48 ≤ c.toNat ∧ c.toNat ≤ 57 := by
      simpa [Char.isDigit, UInt32.le_iff_toNat_le] using digit
    refine ⟨?_, by omega⟩
    rcases toLower_cases c with ⟨-, kept⟩ | ⟨upper, -⟩
    · exact kept
    · omega
  · decide

/-! ### Hexadecimal digits -/

/-- The sixteen digits in the order of their values. -/
def hexDigits : List Char := "0123456789abcdef".toList

/-- The character is the digit of a value, in either case. -/
def HexDigit (c : Char) (value : Nat) : Prop := hexDigits[value]? = some c.toLower

theorem getElem?_hexDigits : hexDigits[value]? = some c ↔
    (value < 10 ∧ c.toNat = 48 + value) ∨ (10 ≤ value ∧ value < 16 ∧ c.toNat = 87 + value) := by
  constructor
  · intro found
    have small : value < 16 := (List.getElem?_eq_some_iff.mp found).1
    interval_cases value <;> cases found <;> decide
  · intro named
    have small : value < 16 := by omega
    have same : c = Char.ofNat (if value < 10 then 48 + value else 87 + value) := by
      rw [← Char.ofNat_toNat c]
      congr 1
      split <;> omega
    subst same
    clear named
    interval_cases value <;> rfl

theorem HexDigit.lt (digit : HexDigit c value) : value < 16 :=
  (List.getElem?_eq_some_iff.mp digit).1

theorem HexDigit.isBlank (digit : HexDigit c value) : isBlank c = false := by
  have named := getElem?_hexDigits.mp digit
  exact isBlank_of_toLower (by omega) (by omega)

theorem hexDigit?_eq_some_iff : hexDigit? c = some value ↔ HexDigit c value := by
  rw [HexDigit, getElem?_hexDigits]
  simp only [hexDigit?, Char.reduceToNat, Bool.and_eq_true, decide_eq_true_eq]
  rcases toLower_cases c with ⟨lower, kept⟩ | ⟨upper, shifted⟩
  · rw [kept]
    split_ifs <;> simp only [Option.some.injEq, false_iff] <;> omega
  · rw [shifted]
    split_ifs <;> simp only [Option.some.injEq, false_iff] <;> omega

/-- Reading on from a number appends digits to it. -/
theorem foldlM_hexDigit? (start : Nat) :
    digits.foldlM (fun value c => (hexDigit? c).map (16 * value + ·)) start = some value ↔
      ∃ values, List.Forall₂ HexDigit digits values ∧
        value = start * 16 ^ values.length + Nat.ofDigits 16 values.reverse := by
  induction digits generalizing start with
  | nil => simp [eq_comm]
  | cons c rest ih =>
    simp only [List.foldlM_cons, Option.bind_eq_bind, Option.bind_eq_some_iff,
      Option.map_eq_some_iff, hexDigit?_eq_some_iff, ih, List.forall₂_cons_left_iff]
    constructor
    · rintro ⟨-, ⟨first, digit, rfl⟩, values, read, rfl⟩
      refine ⟨first :: values, ⟨first, values, digit, read, rfl⟩, ?_⟩
      rw [Nat.ofDigits_reverse_cons, List.length_cons]
      ring
    · rintro ⟨-, ⟨first, values, digit, read, rfl⟩, rfl⟩
      refine ⟨_, ⟨first, digit, rfl⟩, values, read, ?_⟩
      rw [Nat.ofDigits_reverse_cons, List.length_cons]
      ring

/-- A run of digits writes the number that has them to base sixteen, the highest one first. -/
theorem hex?_eq_some_iff : hex? digits = some value ↔
    ∃ values, List.Forall₂ HexDigit digits values ∧ value = Nat.ofDigits 16 values.reverse := by
  rw [hex?, foldlM_hexDigit?]
  simp

theorem mapM_hexDigit? : digits.mapM hexDigit? = some values ↔
    List.Forall₂ HexDigit digits values := by
  induction digits generalizing values with
  | nil => simp [eq_comm]
  | cons c rest ih =>
    simp only [List.mapM_cons, Option.bind_eq_bind, Option.bind_eq_some_iff, ih,
      hexDigit?_eq_some_iff, List.forall₂_cons_left_iff, Option.pure_def, Option.some.injEq]
    constructor
    · rintro ⟨first, digit, values, read, rfl⟩
      exact ⟨first, values, digit, read, rfl⟩
    · rintro ⟨first, values, digit, read, rfl⟩
      exact ⟨first, digit, values, read, rfl⟩

theorem hexDigits_recased (read : List.Forall₂ HexDigit digits values)
    (recased : Recased digits other) : List.Forall₂ HexDigit other values := by
  let Low (c : Char) (value : Nat) : Prop := hexDigits[value]? = some c
  have lowered (run : List Char) :
      List.Forall₂ Low (run.map Char.toLower) values ↔ List.Forall₂ HexDigit run values :=
    List.forall₂_map_left_iff
  rw [← lowered, recased, lowered]
  exact read

theorem hexDigits_dark (read : List.Forall₂ HexDigit digits values) :
    ∀ c ∈ digits, isBlank c = false := by
  induction read with
  | nil => simp
  | cons digit _ ih => exact List.forall_mem_cons.mpr ⟨digit.isBlank, ih⟩

theorem hexDigits_lt (read : List.Forall₂ HexDigit digits values) : ∀ value ∈ values, value < 16 := by
  induction read with
  | nil => simp
  | cons digit _ ih => exact List.forall_mem_cons.mpr ⟨digit.lt, ih⟩

end Text

namespace Color

variable {text other digits : List Char} {values : List Nat} {c : Char} {color : Color}

/-- The number whose digits to base sixteen are these, the highest one first. -/
def ofDigits (values : List Nat) : Color := Nat.ofDigits 16 values.reverse

/-- The text writes the color, in one of the five notations. -/
inductive Writes : List Char → Color → Prop where
  | long {digits : List Char} {values : List Nat} (read : List.Forall₂ Text.HexDigit digits values)
      (six : values.length = 6) : Writes ('#' :: digits) (ofDigits values)
  /-- Each digit stands for two of its kind. -/
  | short {digits : List Char} {values : List Nat} (read : List.Forall₂ Text.HexDigit digits values)
      (three : values.length = 3) :
      Writes ('#' :: digits) (ofDigits (values.flatMap fun value => [value, value]))
  | marked {mark : Char} {digits : List Char} {values : List Nat} (cross : mark.toLower = 'x')
      (read : List.Forall₂ Text.HexDigit digits values) (six : values.length = 6) :
      Writes ('0' :: mark :: digits) (ofDigits values)
  | decimal {text : List Char} {color : Color} (numeral : Text.Numeral text color)
      (small : color ≤ 0xFFFFFF) : Writes text color
  | name {text : List Char} {color : Color}
      (listed : (String.ofList (text.map Char.toLower), color) ∈ names) : Writes text color

/-! ### What is read -/

theorem ofLongHex?_eq_some_iff : ofLongHex? digits = some color ↔
    ∃ values, List.Forall₂ Text.HexDigit digits values ∧ values.length = 6 ∧
      color = ofDigits values := by
  rw [ofLongHex?, Option.ite_none_right_eq_some, Text.hex?_eq_some_iff]
  constructor
  · rintro ⟨six, values, read, rfl⟩
    exact ⟨values, read, read.length_eq.symm.trans six, rfl⟩
  · rintro ⟨values, read, six, rfl⟩
    exact ⟨read.length_eq.trans six, values, read, rfl⟩

theorem ofShortHex?_eq_some_iff : ofShortHex? digits = some color ↔
    ∃ values, List.Forall₂ Text.HexDigit digits values ∧ values.length = 3 ∧
      color = ofDigits (values.flatMap fun value => [value, value]) := by
  have doubled (red green blue : Nat) : ofChannels (17 * red) (17 * green) (17 * blue) =
      ofDigits ([red, green, blue].flatMap fun value => [value, value]) := by
    simp [ofChannels, ofDigits, Nat.ofDigits_cons]
    ring
  unfold ofShortHex?
  constructor
  · intro found
    split at found
    · rename_i red green blue read
      cases found
      exact ⟨_, Text.mapM_hexDigit?.mp read, rfl, doubled red green blue⟩
    · cases found
  · rintro ⟨values, read, three, rfl⟩
    obtain ⟨red, green, blue, rfl⟩ := List.length_eq_three.mp three
    rw [Text.mapM_hexDigit?.mpr read]
    exact congrArg some (doubled red green blue)

theorem letters_of_listed (listed : (String.ofList (text.map Char.toLower), color) ∈ names) :
    ∀ c ∈ text, 97 ≤ c.toLower.toNat ∧ c.toLower.toNat ≤ 122 := by
  -- by `all`: a quantifier over characters would be decided by going through every character
  have lower : (names.all fun entry =>
      entry.1.toList.all fun c => 97 ≤ c.toNat ∧ c.toNat ≤ 122) = true := by decide
  intro c inside
  have letters := List.all_eq_true.mp (List.all_eq_true.mp lower _ listed)
  refine of_decide_eq_true (letters c.toLower ?_)
  rw [String.toList_ofList]
  exact List.mem_map_of_mem inside

/-- No name is a number. -/
theorem not_numeral_of_listed (listed : (String.ofList (text.map Char.toLower), color) ∈ names)
    (value : Nat) : ¬ Text.Numeral text value := by
  intro numeral
  obtain ⟨c, inside⟩ := List.exists_mem_of_ne_nil _ numeral.ne_nil
  have letter := letters_of_listed listed c inside
  obtain ⟨kept, mark⟩ := numeral.marks c inside
  rw [kept] at letter
  omega

theorem ofWord?_eq_some_iff : ofWord? text = some color ↔
    (Text.Numeral text color ∧ color ≤ 0xFFFFFF) ∨
      (String.ofList (text.map Char.toLower), color) ∈ names := by
  have distinct : (names.map (·.1)).Nodup := by decide
  unfold ofWord?
  split
  · rename_i value number
    have numeral := Text.natural?_eq_some_iff.mp number
    have only : Text.Numeral text color ↔ value = color := by
      rw [← Text.natural?_eq_some_iff, number, Option.some.injEq]
    rw [or_iff_left fun listed => not_numeral_of_listed listed value numeral, only,
      Option.ite_none_right_eq_some, Option.some.injEq, largest]
    constructor
    · rintro ⟨small, rfl⟩
      exact ⟨rfl, small⟩
    · rintro ⟨rfl, small⟩
      exact ⟨small, rfl⟩
  · rename_i wordy
    rw [lookup?_eq_some_iff distinct, or_iff_right]
    rintro ⟨numeral, -⟩
    rw [Text.natural?_eq_some_iff.mpr numeral] at wordy
    cases wordy

/-- A text in which something is in no number, and something in no name, is neither. -/
theorem ofWord?_ne_some {d : Char} (strange : c ∈ text) (mark : ¬ (c.isDigit = true ∨ c = '+'))
    (foreign : d ∈ text) (sign : d.toLower.toNat < 97) : ofWord? text ≠ some color := by
  rw [ne_eq, ofWord?_eq_some_iff]
  rintro (⟨numeral, -⟩ | listed)
  · exact mark (numeral.digit_or_plus c strange)
  · exact absurd (letters_of_listed listed d foreign).1 (Nat.not_le.mpr sign)

theorem ofHash?_eq_some_iff : ofHash? digits = some color ↔ Writes ('#' :: digits) color := by
  rw [ofHash?, Option.or_eq_some_iff]
  have wordless : ofWord? ('#' :: digits) ≠ some color :=
    ofWord?_ne_some List.mem_cons_self (by decide) List.mem_cons_self (by decide)
  constructor
  · rintro (long | ⟨-, short⟩)
    · obtain ⟨values, read, six, rfl⟩ := ofLongHex?_eq_some_iff.mp long
      exact .long read six
    · obtain ⟨values, read, three, rfl⟩ := ofShortHex?_eq_some_iff.mp short
      exact .short read three
  · intro writes
    cases writes with
    | long read six => exact .inl (ofLongHex?_eq_some_iff.mpr ⟨_, read, six, rfl⟩)
    | short read three =>
      have few : digits.length ≠ 6 := by
        rw [read.length_eq, three]
        decide
      exact .inr ⟨if_neg few, ofShortHex?_eq_some_iff.mpr ⟨_, read, three, rfl⟩⟩
    | decimal numeral small =>
      exact absurd (ofWord?_eq_some_iff.mpr (.inl ⟨numeral, small⟩)) wordless
    | name listed => exact absurd (ofWord?_eq_some_iff.mpr (.inr listed)) wordless

theorem toLower_eq_x {mark : Char} : mark.toLower = 'x' ↔ mark = 'x' ∨ mark = 'X' := by
  constructor
  · intro cross
    rcases Text.toLower_cases mark with ⟨-, kept⟩ | ⟨-, shifted⟩
    · exact .inl (kept.symm.trans cross)
    · right
      rw [cross] at shifted
      have code : mark.toNat = 'X'.toNat := Nat.add_right_cancel (m := 32) shifted.symm
      rw [← Char.ofNat_toNat mark, code]
      rfl
  · rintro (rfl | rfl) <;> decide

theorem writes_marked_iff {mark : Char} (cross : mark = 'x' ∨ mark = 'X') :
    ofLongHex? digits = some color ↔ Writes ('0' :: mark :: digits) color := by
  have wordless : ofWord? ('0' :: mark :: digits) ≠ some color := by
    refine ofWord?_ne_some (c := mark) (by simp) ?_ (d := '0') (by simp) (by decide)
    rcases cross with rfl | rfl <;> decide
  rw [ofLongHex?_eq_some_iff]
  constructor
  · rintro ⟨values, read, six, rfl⟩
    exact .marked (toLower_eq_x.mpr cross) read six
  · intro writes
    cases writes with
    | marked _ read six => exact ⟨_, read, six, rfl⟩
    | decimal numeral small =>
      exact absurd (ofWord?_eq_some_iff.mpr (.inl ⟨numeral, small⟩)) wordless
    | name listed => exact absurd (ofWord?_eq_some_iff.mpr (.inr listed)) wordless

/-- What is read is what is written, and one text writes one color. -/
theorem ofTrimmed?_eq_some_iff : ofTrimmed? text = some color ↔ Writes text color := by
  unfold ofTrimmed?
  split
  · exact ofHash?_eq_some_iff
  · exact writes_marked_iff (.inl rfl)
  · exact writes_marked_iff (.inr rfl)
  · rename_i noHash noSmall noLarge
    rw [ofWord?_eq_some_iff]
    constructor
    · rintro (⟨numeral, small⟩ | listed)
      · exact .decimal numeral small
      · exact .name listed
    · intro writes
      cases writes with
      | long => exact absurd rfl (noHash _)
      | short => exact absurd rfl (noHash _)
      | marked cross =>
        rcases toLower_eq_x.mp cross with rfl | rfl
        · exact absurd rfl (noSmall _)
        · exact absurd rfl (noLarge _)
      | decimal numeral small => exact .inl ⟨numeral, small⟩
      | name listed => exact .inr listed

/-! ### What is written -/

/-- The case of letters says nothing about a color. -/
theorem Writes.recased (writes : Writes text color) (recased : Text.Recased text other) :
    Writes other color := by
  cases writes with
  | long read six =>
    obtain ⟨d, tail, rfl, same, rest⟩ := recased.cons
    obtain rfl : d = '#' := Text.eq_of_toLower same (by decide)
    exact .long (Text.hexDigits_recased read rest) six
  | short read three =>
    obtain ⟨d, tail, rfl, same, rest⟩ := recased.cons
    obtain rfl : d = '#' := Text.eq_of_toLower same (by decide)
    exact .short (Text.hexDigits_recased read rest) three
  | marked cross read six =>
    obtain ⟨d, tail, rfl, same, rest⟩ := recased.cons
    obtain rfl : d = '0' := Text.eq_of_toLower same (by decide)
    obtain ⟨mark, tail, rfl, same, rest⟩ := rest.cons
    exact .marked (same.trans cross) (Text.hexDigits_recased read rest) six
  | decimal numeral small =>
    rw [recased.eq numeral.marks]
    exact .decimal numeral small
  | name listed =>
    rw [← recased] at listed
    exact .name listed

theorem Writes.dark (writes : Writes text color) : ∀ c ∈ text, Text.isBlank c = false := by
  cases writes with
  | long read _ => exact List.forall_mem_cons.mpr ⟨rfl, Text.hexDigits_dark read⟩
  | short read _ => exact List.forall_mem_cons.mpr ⟨rfl, Text.hexDigits_dark read⟩
  | marked cross read _ =>
    refine List.forall_mem_cons.mpr ⟨rfl, List.forall_mem_cons.mpr ⟨?_, Text.hexDigits_dark read⟩⟩
    rcases toLower_eq_x.mp cross with rfl | rfl <;> rfl
  | decimal numeral _ => exact numeral.isBlank
  | name listed =>
    intro c inside
    obtain ⟨low, high⟩ := letters_of_listed listed c inside
    exact Text.isBlank_of_toLower (by omega) high

theorem ofDigits_lt (small : ∀ value ∈ values, value < 16) :
    ofDigits values < 16 ^ values.length := by
  have bound := Nat.ofDigits_lt_base_pow_length (b := 16) (by decide)
    (l := values.reverse) fun value inside => small value (List.mem_reverse.mp inside)
  rwa [List.length_reverse] at bound

/-- Six digits make three bytes. -/
theorem ofDigits_le (small : ∀ value ∈ values, value < 16) (six : values.length = 6) :
    ofDigits values ≤ 0xFFFFFF := by
  have bound := ofDigits_lt small
  rw [six] at bound
  exact Nat.le_of_lt_succ bound

/-- Whatever is written has no more than three bytes. -/
theorem Writes.le (writes : Writes text color) : color ≤ 0xFFFFFF := by
  cases writes with
  | long read six => exact ofDigits_le (Text.hexDigits_lt read) six
  | @short digits values read three =>
    have small := Text.hexDigits_lt read
    obtain ⟨red, green, blue, rfl⟩ := List.length_eq_three.mp three
    have doubled : ∀ value ∈ [red, green, blue].flatMap fun value => [value, value], value < 16 := by
      simpa using small
    exact ofDigits_le doubled rfl
  | marked _ read six => exact ofDigits_le (Text.hexDigits_lt read) six
  | decimal _ small => exact small
  | name listed =>
    have all : ∀ entry ∈ names, entry.2 ≤ 0xFFFFFF := by decide
    exact all _ listed

/-- A text means the color that it writes but for the white space around it. -/
theorem parse?_eq_some_iff {text : String} :
    parse? text = some color ↔ Writes (Text.trim text.toList) color :=
  ofTrimmed?_eq_some_iff

theorem parse?_of_padded {word core : List Char} {text : String} (writes : Writes word color)
    (recased : Text.Recased word core) (padded : Text.Padded core text.toList) :
    parse? text = some color := by
  have written := writes.recased recased
  have trimmed : Text.trim text.toList = core :=
    Text.trim_eq_iff.mpr ⟨Text.trimmed_of_dark written.dark, padded⟩
  rw [parse?_eq_some_iff, trimmed]
  exact written

/-! ### The three bytes -/

theorem ofChannels_eq_iff : ofChannels color.red color.green color.blue = color ↔
    color ≤ 0xFFFFFF := by
  have bytes (n : Nat) : (n / 65536 % 256 * 256 + n / 256 % 256) * 256 + n % 256 = n ↔
      n ≤ 0xFFFFFF := by omega
  exact bytes color

/-- The color of a text has three bytes, and so has the one that stands in for it unless that has
more. -/
theorem resolve_cases (given : Option String) (fallback : Color) :
    resolve given fallback = fallback ∧ given.bind parse? = none ∨
      resolve given fallback ≤ 0xFFFFFF ∧ given.bind parse? = some (resolve given fallback) := by
  unfold resolve
  cases found : given.bind parse? with
  | none => exact .inl ⟨rfl, rfl⟩
  | some color =>
    obtain ⟨text, -, read⟩ := Option.bind_eq_some_iff.mp found
    exact .inr ⟨(parse?_eq_some_iff.mp read).le, rfl⟩

/-- A text means a color exactly if it writes it, in one of the five notations, with white space
around it or without; and it means the same color in whatever case its letters are. No color that a
text means has more than three bytes, so that what is shown in place of a text is made of its three
bytes whenever the stand-in is. -/
theorem reads_notations :
    (∀ (text : String) (color : Color),
      parse? text = some color ↔ Writes (Text.trim text.toList) color) ∧
    (∀ (word core : List Char) (text : String) (color : Color), Writes word color →
      Text.Recased word core → Text.Padded core text.toList → parse? text = some color) ∧
    (∀ (text : String) (color : Color), parse? text = some color → color ≤ 0xFFFFFF) ∧
    ∀ (given : Option String) (fallback : Color),
      let shown := resolve given fallback
      shown ≤ max fallback 0xFFFFFF ∧ (shown.red < 256 ∧ shown.green < 256 ∧ shown.blue < 256) ∧
        (ofChannels shown.red shown.green shown.blue = shown ↔
          (given.bind parse?).isSome = true ∨ fallback ≤ 0xFFFFFF) := by
  refine ⟨fun text color => parse?_eq_some_iff, fun word core text color writes recased padded =>
    parse?_of_padded writes recased padded, fun text color read =>
    (parse?_eq_some_iff.mp read).le, fun given fallback => ?_⟩
  have byte (n : Nat) : n % 256 < 256 := Nat.mod_lt n (by decide)
  refine ⟨?_, ⟨byte _, byte _, byte _⟩, ?_⟩
  · rcases resolve_cases given fallback with ⟨same, -⟩ | ⟨small, -⟩
    · rw [same]
      exact Nat.le_max_left _ _
    · exact small.trans (Nat.le_max_right _ _)
  · rw [ofChannels_eq_iff]
    rcases resolve_cases given fallback with ⟨same, wordless⟩ | ⟨small, found⟩
    · rw [same, wordless]
      simp
    · rw [found]
      simp [small]

/-- Gold is written in many ways. -/
theorem reads_notations_gold :
    parse? " GoLd\t" = some 0xFFD700 ∧ parse? "0Xffd700" = some 0xFFD700 ∧
      parse? "+16766720 " = some 0xFFD700 ∧ parse? "#Fd0" = some 0xFFDD00 := by
  have read := reads_notations.2.1
  have six : List.Forall₂ Text.HexDigit ['F', 'F', 'D', '7', '0', '0'] [15, 15, 13, 7, 0, 0] :=
    .cons rfl (.cons rfl (.cons rfl (.cons rfl (.cons rfl (.cons rfl .nil)))))
  have three : List.Forall₂ Text.HexDigit ['f', 'd', '0'] [15, 13, 0] :=
    .cons rfl (.cons rfl (.cons rfl .nil))
  have marked : Writes ['0', 'x', 'F', 'F', 'D', '7', '0', '0'] 0xFFD700 := .marked rfl six rfl
  have decimal : Writes "+16766720".toList 0xFFD700 :=
    .decimal ⟨"16766720".toList, .inr rfl, by decide, List.all_eq_true.mp (by decide), by decide⟩
      (by decide)
  have short : Writes ['#', 'f', 'd', '0'] 0xFFDD00 := .short three rfl
  refine ⟨?_, ?_, ?_, ?_⟩
  · exact read "gold".toList "GoLd".toList _ _ (.name (by decide)) rfl
      ⟨[' '], ['\t'], rfl, rfl, by decide⟩
  · exact read _ ['0', 'X', 'f', 'f', 'd', '7', '0', '0'] _ _ marked rfl (.refl _)
  · exact read _ "+16766720".toList _ _ decimal rfl ⟨[], [' '], rfl, rfl, by decide⟩
  · exact read _ ['#', 'F', 'd', '0'] _ _ short rfl (.refl _)

end Color

end Arcade
