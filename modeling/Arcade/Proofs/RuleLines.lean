import Arcade.Proofs.Lexing
import Arcade.Rule.Grammar

/-! The grammar of the lines in which a scene writes its rules, and that it has no surprises: what is
read from a line is what the line says, every rule that can be said can be written with any white
space between its pieces, and reading gives it back. -/

namespace Arcade.Rule

variable {line before after names time callback word : List Char}

/-! ### The arrow -/

theorem firstCut_arrow_iff : Text.FirstCut arrow line before after ↔
    line = before ++ arrow ++ after ∧ ¬ arrow <:+: before :=
  Text.firstCut_iff (by decide)

theorem dark_arrow : ∀ c ∈ arrow, Text.isBlank c = false := by
  simp [arrow, Text.isBlank]

theorem not_arrow_infix (absent : '>' ∉ before) : ¬ arrow <:+: before :=
  fun inside => absent (inside.subset (by decide))

theorem sides?_eq_some_iff : sides? line = some (names, callback) ↔
    ∃ before after, Text.FirstCut arrow line before after ∧ Text.allBlank after = false ∧
      names = Text.trim before ∧ callback = Text.trim after := by
  have told : ∀ after, (Text.trim after).isEmpty = true ↔ Text.allBlank after = true := by
    intro after
    rw [List.isEmpty_iff, Text.trim_eq_nil_iff]
  constructor
  · intro found
    unfold sides? at found
    split at found
    · rename_i before after cut
      dsimp only at found
      split at found
      · simp at found
      · rename_i something
        obtain ⟨rfl, rfl⟩ := Prod.mk.inj (Option.some.inj found)
        refine ⟨before, after, Text.splitOnce?_eq_some_iff.mp cut, ?_, rfl, rfl⟩
        simpa [told] using something
    · simp at found
  · rintro ⟨before, after, cut, something, rfl, rfl⟩
    have whole : ¬ (Text.trim after).isEmpty = true := by simp [told, something]
    rw [sides?, Text.splitOnce?_eq_some_iff.mpr cut]
    exact if_neg whole

/-! ### What happens between objects -/

namespace Interaction

variable {left right : List Char} {rule : Interaction}

/-- The three texts of a line about a meeting: what stands before the only comma in front of the
first arrow, what stands between the two, and what stands after that arrow. None of them is blank. -/
structure Texts (line left right after : List Char) : Prop where
  cut : Text.FirstCut arrow line (left ++ ',' :: right) after
  comma : ',' ∉ left ∧ ',' ∉ right
  said : Text.allBlank left = false ∧ Text.allBlank right = false ∧ Text.allBlank after = false

/-- The rule of three texts. -/
def ofTexts (left right after : List Char) : Interaction :=
  ⟨.ofList (Text.trim left), .ofList (Text.trim right), .ofList (Text.trim after)⟩

/-- A line can say the rule: its texts are trimmed and not empty, and neither name has a comma or an
arrow in it. -/
structure Sayable (rule : Interaction) : Prop where
  trimmed : Text.Trimmed rule.first.toList ∧ Text.Trimmed rule.second.toList ∧
    Text.Trimmed rule.callback.toList
  written : rule.first ≠ "" ∧ rule.second ≠ "" ∧ rule.callback ≠ ""
  comma : ',' ∉ rule.first.toList ∧ ',' ∉ rule.second.toList
  arrow : ¬ Rule.arrow <:+: rule.first.toList ∧ ¬ Rule.arrow <:+: rule.second.toList

/-- The line has the pieces of the rule in their order, with any white space around each. -/
def Prints (rule : Interaction) (line : List Char) : Prop :=
  ∃ left right after, Text.Padded rule.first.toList left ∧ Text.Padded rule.second.toList right ∧
    Text.Padded rule.callback.toList after ∧ line = left ++ ',' :: right ++ Rule.arrow ++ after

/-- The plainest line of a rule. -/
def text (rule : Interaction) : String :=
  rule.first ++ "," ++ rule.second ++ "->" ++ rule.callback

theorem prints_text (rule : Interaction) : rule.Prints rule.text.toList :=
  ⟨_, _, _, .refl _, .refl _, .refl _, by simp [text, Rule.arrow]⟩

/-- Two names that are not blank, with the only comma between them. -/
def Pair (names first second : List Char) : Prop :=
  ∃ left right, names = left ++ ',' :: right ∧ (',' ∉ left ∧ ',' ∉ right) ∧
    Text.allBlank left = false ∧ Text.allBlank right = false ∧
    first = Text.trim left ∧ second = Text.trim right

theorem pair?_eq_some_iff {first second : List Char} :
    pair? names = some (first, second) ↔ Pair names first second := by
  have cut : ∀ left right, Text.splitOnce? [','] names = some (left, right) ↔
      names = left ++ ',' :: right ∧ ',' ∉ left := by
    intro left right
    rw [Text.splitOnce?_eq_some_iff, Text.firstCut_iff List.not_mem_nil, List.singleton_infix_iff,
      List.append_assoc, List.singleton_append]
  have fine : ∀ left right : List Char, ((Text.trim left).isEmpty || (Text.trim right).isEmpty ||
      (Text.trim right).contains ',') = false ↔
      Text.allBlank left = false ∧ Text.allBlank right = false ∧ ',' ∉ right := by
    intro left right
    rw [(Text.padded_trim right).mem_iff (c := ',') (by decide)]
    simp [← Bool.not_eq_true, Text.trim_eq_nil_iff, and_assoc]
  constructor
  · intro found
    unfold pair? at found
    split at found
    · rename_i left right halves
      obtain ⟨whole, single⟩ := (cut left right).mp halves
      dsimp only at found
      split at found
      · simp at found
      · rename_i good
        obtain ⟨leftSaid, rightSaid, alone⟩ := (fine left right).mp (by simpa using good)
        obtain ⟨rfl, rfl⟩ := Prod.mk.inj (Option.some.inj found)
        exact ⟨left, right, whole, ⟨single, alone⟩, leftSaid, rightSaid, rfl, rfl⟩
    · simp at found
  · rintro ⟨left, right, whole, ⟨single, alone⟩, leftSaid, rightSaid, rfl, rfl⟩
    have good := (fine left right).mpr ⟨leftSaid, rightSaid, alone⟩
    rw [pair?, (cut left right).mpr ⟨whole, single⟩]
    exact if_neg (by rw [good]; exact Bool.false_ne_true)

/-- The blanks around two names say nothing. -/
theorem pair_trim {first second : List Char} :
    Pair (Text.trim names) first second ↔ Pair names first second := by
  constructor
  · rintro ⟨left, right, whole, ⟨single, alone⟩, leftSaid, rightSaid, rfl, rfl⟩
    obtain ⟨front, back, lead, trail, same⟩ := Text.padded_trim names
    have wider : Text.Padded left (front ++ left) := ⟨front, [], lead, rfl, by simp⟩
    have longer : Text.Padded right (right ++ back) := ⟨[], back, rfl, trail, by simp⟩
    refine ⟨front ++ left, right ++ back, ?_, ⟨?_, ?_⟩, ?_, ?_, ?_, ?_⟩
    · rw [same, whole]
      simp
    · rwa [wider.mem_iff (by decide)]
    · rwa [longer.mem_iff (by decide)]
    · rwa [wider.allBlank]
    · rwa [longer.allBlank]
    · rw [wider.trim_eq]
    · rw [longer.trim_eq]
  · rintro ⟨left, right, rfl, ⟨single, alone⟩, leftSaid, rightSaid, rfl, rfl⟩
    have start := Text.padded_trimStart left
    have stop := Text.padded_trimEnd right
    refine ⟨Text.trimStart left, Text.trimEnd right, Text.trim_around (by decide), ⟨?_, ?_⟩,
      ?_, ?_, ?_, ?_⟩
    · rwa [← start.mem_iff (by decide)]
    · rwa [← stop.mem_iff (by decide)]
    · rwa [← start.allBlank]
    · rwa [← stop.allBlank]
    · rw [start.trim_eq]
    · rw [stop.trim_eq]

theorem interaction?_eq_some_iff : interaction? line = some rule ↔
    ∃ left right after, Texts line left right after ∧ rule = ofTexts left right after := by
  constructor
  · intro found
    obtain ⟨⟨names, callback⟩, halves, found⟩ := Option.bind_eq_some_iff.mp found
    obtain ⟨⟨first, second⟩, pair, ⟨⟩⟩ := Option.bind_eq_some_iff.mp found
    obtain ⟨before, after, cut, told, rfl, rfl⟩ := sides?_eq_some_iff.mp halves
    obtain ⟨left, right, rfl, comma, leftSaid, rightSaid, rfl, rfl⟩ :=
      pair_trim.mp (pair?_eq_some_iff.mp pair)
    exact ⟨left, right, after, ⟨cut, comma, leftSaid, rightSaid, told⟩, rfl⟩
  · rintro ⟨left, right, after, ⟨cut, comma, leftSaid, rightSaid, told⟩, rfl⟩
    refine Option.bind_eq_some_iff.mpr
      ⟨_, sides?_eq_some_iff.mpr ⟨_, after, cut, told, rfl, rfl⟩, ?_⟩
    refine Option.bind_eq_some_iff.mpr ⟨(Text.trim left, Text.trim right), ?_, rfl⟩
    exact pair?_eq_some_iff.mpr
      (pair_trim.mpr ⟨left, right, rfl, comma, leftSaid, rightSaid, rfl, rfl⟩)

/-- What a line says can be said. -/
theorem Texts.sayable {left right after : List Char} (texts : Texts line left right after) :
    (ofTexts left right after).Sayable := by
  obtain ⟨cut, ⟨single, alone⟩, leftSaid, rightSaid, told⟩ := texts
  have clear := (firstCut_arrow_iff.mp cut).2
  have written : ∀ text, Text.allBlank text = false → String.ofList (Text.trim text) ≠ "" := by
    intro text said empty
    have gone : Text.trim text = [] := by simpa using congrArg String.toList empty
    rw [Text.trim_eq_nil_iff, said] at gone
    exact Bool.false_ne_true gone
  have comma : ∀ text, ',' ∉ text → ',' ∉ (String.ofList (Text.trim text)).toList := by
    intro text absent
    rwa [String.toList_ofList, ← (Text.padded_trim text).mem_iff (by decide)]
  have arrow : ∀ text, ¬ Rule.arrow <:+: text →
      ¬ Rule.arrow <:+: (String.ofList (Text.trim text)).toList := by
    intro text absent
    rwa [String.toList_ofList, ← (Text.padded_trim text).infix_iff (by decide) dark_arrow]
  rw [Text.infix_around (by decide), not_or] at clear
  refine ⟨⟨?_, ?_, ?_⟩, ⟨written left leftSaid, written right rightSaid, written after told⟩,
    ⟨comma left single, comma right alone⟩, arrow left clear.1, arrow right clear.2⟩ <;>
  · rw [ofTexts, String.toList_ofList]
    exact Text.trimmed_trim _

/-- A line that prints a rule that can be said says it. -/
theorem Prints.texts (prints : rule.Prints line) (sayable : rule.Sayable) :
    ∃ left right after, Texts line left right after ∧ rule = ofTexts left right after := by
  obtain ⟨left, right, after, first, second, callback, rfl⟩ := prints
  obtain ⟨⟨firstTrimmed, secondTrimmed, callbackTrimmed⟩, ⟨firstSaid, secondSaid, told⟩,
    ⟨single, alone⟩, firstClear, secondClear⟩ := sayable
  have said : ∀ {name : String} {text}, Text.Trimmed name.toList → name ≠ "" →
      Text.Padded name.toList text → Text.allBlank text = false := by
    intro name text trimmed written padded
    rw [padded.allBlank, Bool.eq_false_iff, ne_eq, ← trimmed.eq_nil_iff]
    exact mt String.toList_eq_nil_iff.mp written
  have read : ∀ {name : String} {text}, Text.Trimmed name.toList → Text.Padded name.toList text →
      name = String.ofList (Text.trim text) := by
    intro name text trimmed padded
    rw [Text.trim_eq_iff.mpr ⟨trimmed, padded⟩, String.ofList_toList]
  refine ⟨left, right, after, ⟨firstCut_arrow_iff.mpr ⟨rfl, ?_⟩, ⟨?_, ?_⟩, ?_, ?_, ?_⟩, ?_⟩
  · rw [Text.infix_around (by decide), first.infix_iff (by decide) dark_arrow,
      second.infix_iff (by decide) dark_arrow, not_or]
    exact ⟨firstClear, secondClear⟩
  · rwa [first.mem_iff (by decide)]
  · rwa [second.mem_iff (by decide)]
  · exact said firstTrimmed firstSaid first
  · exact said secondTrimmed secondSaid second
  · exact said callbackTrimmed told callback
  · rw [ofTexts, ← read firstTrimmed first, ← read secondTrimmed second,
      ← read callbackTrimmed callback]

theorem parse_eq_ok_iff {line : String} : parse line = .ok rule ↔
    ∃ left right after, Texts line.toList left right after ∧ rule = ofTexts left right after := by
  rw [← interaction?_eq_some_iff, parse]
  split
  · rename_i read found
    rw [found, Except.ok.injEq, Option.some.injEq]
  · rename_i none
    rw [none]
    simp

theorem parse_eq_error_iff {line : String} {error : BuildError} : parse line = .error error ↔
    (¬ ∃ rule, parse line = .ok rule) ∧ error = .malformedRule line := by
  unfold parse
  split <;> simp [eq_comm]

theorem Texts.prints {left right after : List Char} (texts : Texts line left right after) :
    (ofTexts left right after).Prints line := by
  refine ⟨left, right, after, ?_, ?_, ?_, texts.cut.whole⟩ <;>
  · rw [ofTexts, String.toList_ofList]
    exact Text.padded_trim _

/-- What is read from a line is the rule that the line prints. -/
theorem parse_eq_ok_iff_prints {line : String} :
    parse line = .ok rule ↔ rule.Sayable ∧ rule.Prints line.toList := by
  rw [parse_eq_ok_iff]
  constructor
  · rintro ⟨left, right, after, texts, rfl⟩
    exact ⟨texts.sayable, texts.prints⟩
  · rintro ⟨sayable, prints⟩
    exact prints.texts sayable

/-- A line about a meeting has three texts, none of them blank: two names with the only comma
between them in front of the first arrow, and a callback after it. Its rule is these three, trimmed,
and any other line is malformed. So every rule with trimmed texts, and with no comma and no arrow in
its names, is read from each line that prints it, whatever white space stands between the pieces,
and only such rules are read. -/
theorem parses_exactly (line : String) :
    (∀ rule, parse line = .ok rule ↔
      ∃ left right after, Texts line.toList left right after ∧ rule = ofTexts left right after) ∧
    (∀ error, parse line = .error error ↔
      (¬ ∃ left right after, Texts line.toList left right after) ∧ error = .malformedRule line) ∧
    (∀ rule : Interaction, rule.Sayable → rule.Prints line.toList → parse line = .ok rule) ∧
    ∀ rule, parse line = .ok rule →
      rule.Sayable ∧ rule.Prints line.toList ∧ parse rule.text = .ok rule := by
  refine ⟨fun rule => parse_eq_ok_iff, fun error => ?_, fun rule sayable prints => ?_,
    fun rule read => ?_⟩
  · rw [parse_eq_error_iff, and_congr_left_iff]
    rintro -
    refine not_congr ⟨?_, ?_⟩
    · rintro ⟨rule, read⟩
      obtain ⟨left, right, after, texts, -⟩ := parse_eq_ok_iff.mp read
      exact ⟨left, right, after, texts⟩
    · rintro ⟨left, right, after, texts⟩
      exact ⟨_, parse_eq_ok_iff.mpr ⟨left, right, after, texts, rfl⟩⟩
  · exact parse_eq_ok_iff_prints.mpr ⟨sayable, prints⟩
  · obtain ⟨sayable, prints⟩ := parse_eq_ok_iff_prints.mp read
    exact ⟨sayable, prints, parse_eq_ok_iff_prints.mpr ⟨sayable, prints_text rule⟩⟩

theorem parses_exactly_dashes :
    parse " a- ,>b->go -> on, x " = .ok ⟨"a-", ">b", "go -> on, x"⟩ ∧
      parse "a-,>b->go -> on, x" = .ok ⟨"a-", ">b", "go -> on, x"⟩ := by
  have read : parse " a- ,>b->go -> on, x " = .ok ⟨"a-", ">b", "go -> on, x"⟩ := by
    refine (parses_exactly _).2.2.1 ⟨"a-", ">b", "go -> on, x"⟩
      ⟨by decide, by decide, by decide, by decide⟩
      ⟨" a- ".toList, ">b".toList, "go -> on, x ".toList, ?_, .refl _, ?_, by decide⟩
    · exact ⟨[' '], [' '], rfl, rfl, by decide⟩
    · exact ⟨[], [' '], rfl, rfl, by decide⟩
  exact ⟨read, ((parses_exactly _).2.2.2 _ read).2.2⟩

end Interaction

/-! ### What happens in time -/

namespace Schedule

variable {rule : Schedule} {cadence : Cadence} {interval : Nat}

/-- The time of a rule as a line gives it: a cadence, at least one blank, a number and its unit, with
or without blanks before the unit. -/
def Times (time : List Char) (cadence : Cadence) (interval : Nat) : Prop :=
  ∃ gap number space, gap ≠ [] ∧ Text.allBlank gap = true ∧ Text.Numeral number interval ∧
    Text.allBlank space = true ∧ time = cadence.name.toList ++ gap ++ number ++ space ++ unit

/-- The two texts of a line about time, in front of its first arrow and after it, and the rule they
give. The number of milliseconds fits a word. -/
structure Texts (line before after : List Char) (rule : Schedule) : Prop where
  cut : Text.FirstCut arrow line before after
  time : Times (Text.trim before) rule.cadence rule.interval
  bound : rule.interval ≤ 0xFFFFFFFF
  said : Text.allBlank after = false
  callback : rule.callback = .ofList (Text.trim after)

/-- A line can say the rule: its interval fits a word, and its callback is trimmed and not empty. -/
structure Sayable (rule : Schedule) : Prop where
  bound : rule.interval ≤ 0xFFFFFFFF
  trimmed : Text.Trimmed rule.callback.toList
  written : rule.callback ≠ ""

/-- The line has the pieces of the rule in their order, with white space where it may stand. -/
def Prints (rule : Schedule) (line : List Char) : Prop :=
  ∃ time before after, Times time rule.cadence rule.interval ∧ Text.Padded time before ∧
    Text.Padded rule.callback.toList after ∧ line = before ++ arrow ++ after

/-- The plainest line of a rule. -/
def text (rule : Schedule) : String :=
  rule.cadence.name ++ " " ++ toString rule.interval ++ "ms->" ++ rule.callback

theorem prints_text (rule : Schedule) : rule.Prints rule.text.toList := by
  refine ⟨_, _, _, ⟨[' '], _, [], by simp, by decide, Text.numeral_toString rule.interval, rfl, rfl⟩,
    .refl _, .refl _, ?_⟩
  simp [text, arrow, unit]

theorem cadence?_eq_some_iff : cadence? word = some cadence ↔ word = cadence.name.toList := by
  constructor
  · intro found
    have named := List.find?_some found
    exact (of_decide_eq_true named).symm
  · rintro rfl
    cases cadence <;> rfl

theorem interval?_eq_some_iff {amount : List Char} : interval? amount = some interval ↔
    ∃ number, Text.trim amount = number ++ unit ∧ Text.Numeral (Text.trim number) interval ∧
      interval ≤ 0xFFFFFFFF := by
  simp only [interval?, Option.bind_eq_bind, Option.bind_eq_some_iff, Text.beforeEnd?_eq_some_iff,
    Text.naturalUpTo?_eq_some_iff]
  rfl

theorem Times.trimmed (times : Times time cadence interval) : Text.Trimmed time := by
  obtain ⟨gap, number, space, -, -, -, -, rfl⟩ := times
  refine Text.trimmed_iff.mpr ⟨fun c begins => ?_, fun c ends => ?_⟩
  · cases cadence <;>
    · simp [Cadence.name] at begins
      subst begins
      decide
  · simp [unit] at ends
    subst ends
    decide

/-- The number of a time stands at the end of it, so that blanks may stand before the number and
before the unit and nowhere else. -/
theorem times_of_read {amount number : List Char} {c : Char} (gap : Text.isBlank c = true)
    (trimmed : Text.Trimmed (cadence.name.toList ++ c :: amount))
    (ends : Text.trim amount = number ++ unit)
    (numeral : Text.Numeral (Text.trim number) interval) :
    Times (cadence.name.toList ++ c :: amount) cadence interval := by
  obtain ⟨lead, trail, leading, trailing, whole⟩ := Text.padded_trim amount
  obtain ⟨front, space, blank, loose, digits⟩ := Text.padded_trim number
  have close : trail = [] := by
    have parts : cadence.name.toList ++ c :: amount =
        (cadence.name.toList ++ c :: (lead ++ Text.trim amount)) ++ trail := by
      rw [List.append_assoc, List.cons_append, ← whole]
    rw [parts] at trimmed
    exact trimmed.nil_of_blank_end trailing
  refine ⟨c :: (lead ++ front), Text.trim number, space, by simp, ?_, numeral, loose, ?_⟩
  · simp [gap, leading, blank]
  · calc cadence.name.toList ++ c :: amount
        = cadence.name.toList ++ c :: (lead ++ (number ++ unit) ++ trail) := by rw [whole, ends]
      _ = cadence.name.toList ++ c :: (lead ++ (front ++ Text.trim number ++ space ++ unit)) := by
        rw [close, ← digits]
        simp
      _ = _ := by simp

theorem amount_of_times {number space lead : List Char} (leading : Text.allBlank lead = true)
    (numeral : Text.Numeral number interval) (loose : Text.allBlank space = true) :
    Text.trim (lead ++ number ++ space ++ unit) = (number ++ space) ++ unit ∧
      Text.trim (number ++ space) = number := by
  have digits : Text.Trimmed number := Text.trimmed_of_dark numeral.isBlank
  refine ⟨Text.trim_eq_iff.mpr ⟨?_, lead, [], leading, rfl, by simp⟩,
    Text.trim_eq_iff.mpr ⟨digits, [], space, rfl, loose, rfl⟩⟩
  refine Text.trimmed_iff.mpr ⟨fun c begins => ?_, fun c ends => ?_⟩
  · refine (Text.trimmed_iff.mp digits).1 c ?_
    rwa [List.append_assoc, List.head?_append_of_ne_nil _ numeral.ne_nil] at begins
  · obtain rfl : 's' = c := by simpa [unit] using ends
    decide

theorem schedule?_eq_some_iff :
    schedule? line = some rule ↔ ∃ before after, Texts line before after rule := by
  constructor
  · intro found
    obtain ⟨⟨time, callback⟩, halves, found⟩ := Option.bind_eq_some_iff.mp found
    obtain ⟨⟨word, amount⟩, words, found⟩ := Option.bind_eq_some_iff.mp found
    obtain ⟨cadence, named, found⟩ := Option.bind_eq_some_iff.mp found
    obtain ⟨interval, counted, ⟨⟩⟩ := Option.bind_eq_some_iff.mp found
    obtain ⟨before, after, cut, said, rfl, rfl⟩ := sides?_eq_some_iff.mp halves
    obtain ⟨c, gap, whole, -⟩ := Text.splitWhere?_eq_some words
    obtain rfl := cadence?_eq_some_iff.mp named
    obtain ⟨number, ends, numeral, bound⟩ := interval?_eq_some_iff.mp counted
    have trimmed := Text.trimmed_trim before
    rw [whole] at trimmed
    have times := times_of_read gap trimmed ends numeral
    rw [← whole] at times
    exact ⟨before, after, cut, times, bound, said, rfl⟩
  · rintro ⟨before, after, cut, ⟨gap, number, space, apart, blank, numeral, loose, whole⟩, bound,
      said, callback⟩
    cases gap with
    | nil => exact absurd rfl apart
    | cons c lead =>
      simp only [Text.allBlank_cons, Bool.and_eq_true] at blank
      obtain ⟨trimmed, digits⟩ := amount_of_times blank.2 numeral loose
      have clean : ∀ x ∈ rule.cadence.name.toList, Text.isBlank x = false := by
        cases rule.cadence <;> simp [Cadence.name, Text.isBlank]
      have words : Text.splitWhere? Text.isBlank (Text.trim before) =
          some (rule.cadence.name.toList, lead ++ number ++ space ++ unit) := by
        rw [whole]
        simpa using Text.splitWhere?_append blank.1 rule.cadence.name.toList
          (lead ++ number ++ space ++ unit) clean
      refine Option.bind_eq_some_iff.mpr
        ⟨_, sides?_eq_some_iff.mpr ⟨before, after, cut, said, rfl, rfl⟩, ?_⟩
      refine Option.bind_eq_some_iff.mpr ⟨_, words, ?_⟩
      refine Option.bind_eq_some_iff.mpr ⟨_, cadence?_eq_some_iff.mpr rfl, ?_⟩
      refine Option.bind_eq_some_iff.mpr
        ⟨_, interval?_eq_some_iff.mpr ⟨_, trimmed, by rwa [digits], bound⟩, ?_⟩
      rw [← callback]

theorem parse_eq_ok_iff {line : String} :
    parse line = .ok rule ↔ ∃ before after, Texts line.toList before after rule := by
  rw [← schedule?_eq_some_iff, parse]
  split
  · rename_i read found
    rw [found, Except.ok.injEq, Option.some.injEq]
  · rename_i none
    rw [none]
    simp

theorem parse_eq_error_iff {line : String} {error : BuildError} : parse line = .error error ↔
    (¬ ∃ rule, parse line = .ok rule) ∧ error = .malformedTimer line := by
  unfold parse
  split <;> simp [eq_comm]

/-- No character of a time can end an arrow. -/
theorem Times.no_arrow (times : Times time cadence interval) : '>' ∉ time := by
  obtain ⟨gap, number, space, -, blank, numeral, loose, rfl⟩ := times
  have name : '>' ∉ cadence.name.toList := by cases cadence <;> decide
  have wide : '>' ∉ gap := fun inside => absurd (Text.allBlank_iff.mp blank _ inside) (by decide)
  have digits : '>' ∉ number := fun inside =>
    absurd (numeral.digit_or_plus _ inside) (by decide)
  have slack : '>' ∉ space := fun inside => absurd (Text.allBlank_iff.mp loose _ inside) (by decide)
  simp [name, wide, digits, slack, unit]

/-- What is read from a line is the rule that the line prints. -/
theorem parse_eq_ok_iff_prints {line : String} :
    parse line = .ok rule ↔ rule.Sayable ∧ rule.Prints line.toList := by
  rw [parse_eq_ok_iff]
  constructor
  · rintro ⟨before, after, cut, time, bound, said, callback⟩
    have told : rule.callback.toList = Text.trim after := by rw [callback, String.toList_ofList]
    refine ⟨⟨bound, ?_, ?_⟩, Text.trim before, before, after, time, Text.padded_trim before, ?_,
      cut.whole⟩
    · rw [told]
      exact Text.trimmed_trim after
    · rw [ne_eq, ← String.toList_eq_nil_iff, told, Text.trim_eq_nil_iff, said]
      exact Bool.false_ne_true
    · rw [told]
      exact Text.padded_trim after
  · rintro ⟨⟨bound, trimmed, written⟩, time, before, after, times, around, callback, whole⟩
    refine ⟨before, after, firstCut_arrow_iff.mpr ⟨whole, not_arrow_infix ?_⟩, ?_, bound, ?_, ?_⟩
    · rw [around.mem_iff (by decide)]
      exact times.no_arrow
    · rwa [Text.trim_eq_iff.mpr ⟨times.trimmed, around⟩]
    · rw [callback.allBlank, Bool.eq_false_iff, ne_eq, ← trimmed.eq_nil_iff,
        String.toList_eq_nil_iff]
      exact written
    · rw [Text.trim_eq_iff.mpr ⟨trimmed, callback⟩, String.ofList_toList]

/-- A line about time has two texts: in front of its first arrow, but for blanks around, a cadence,
at least one blank and a number of milliseconds that fits a word, with its unit; after the arrow a
callback that is not blank. Its rule is the cadence, the number and the trimmed callback, and any
other line is malformed. So every rule with an interval that fits a word and with a trimmed callback
is read from each line that prints it, whatever white space stands where it may, and only such rules
are read. -/
theorem parses_timers (line : String) :
    (∀ rule, parse line = .ok rule ↔ ∃ before after, Texts line.toList before after rule) ∧
    (∀ error, parse line = .error error ↔
      (¬ ∃ rule before after, Texts line.toList before after rule) ∧
        error = .malformedTimer line) ∧
    (∀ rule : Schedule, rule.Sayable → rule.Prints line.toList → parse line = .ok rule) ∧
    ∀ rule : Schedule, rule.Sayable → parse rule.text = .ok rule := by
  refine ⟨fun rule => parse_eq_ok_iff, fun error => ?_, fun rule sayable prints => ?_,
    fun rule sayable => ?_⟩
  · rw [parse_eq_error_iff]
    simp only [parse_eq_ok_iff]
  · exact parse_eq_ok_iff_prints.mpr ⟨sayable, prints⟩
  · exact parse_eq_ok_iff_prints.mpr ⟨sayable, prints_text rule⟩

theorem parses_timers_padded :
    parse " every \t +0500 ms->tick " = .ok ⟨.every, 500, "tick"⟩ ∧
      parse "after 4294967295ms->tick" = .ok ⟨.after, 4294967295, "tick"⟩ := by
  constructor
  · refine (parses_timers _).2.2.1 ⟨.every, 500, "tick"⟩ ⟨by decide, by decide, by decide⟩
      ⟨"every \t +0500 ms".toList, " every \t +0500 ms".toList, "tick ".toList, ?_, ?_, ?_, by decide⟩
    · exact ⟨[' ', '\t', ' '], "+0500".toList, [' '], by decide, by decide,
        ⟨"0500".toList, .inr rfl, by decide, by simp, by decide⟩, by decide, by decide⟩
    · exact ⟨[' '], [], rfl, rfl, by decide⟩
    · exact ⟨[], [' '], rfl, rfl, by decide⟩
  · exact (parses_timers "").2.2.2 ⟨.after, 4294967295, "tick"⟩
      ⟨by decide, by decide, by decide⟩

end Schedule

end Arcade.Rule
