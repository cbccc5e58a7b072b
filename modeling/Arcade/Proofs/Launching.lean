import Arcade.Launch
import Arcade.Proofs.Coloring

/-! How launch settings come about. A command line falls into groups: switches, settings with their values,
and the path of a game. It is read from left to right up to the first word that begins no group, or that
is one path too many. Each setting has the value of the highest source that gives one, and the order of
the groups does not matter but for the values of one setting, of which the last one counts. -/

namespace Arcade

namespace CommandLine

/-! ### Groups -/

/-- A flag that stands by itself. -/
inductive Switch where
  | headless
  | watch
  | noApi
  deriving DecidableEq

def Switch.text : Switch → String
  | headless => "--headless"
  | watch => "--watch"
  | noApi => "--no-api"

/-- A flag that a value follows, whatever it looks like. -/
inductive Setting where
  | scene
  | seed
  deriving DecidableEq

def Setting.text : Setting → String
  | scene => sceneFlag
  | seed => seedFlag

/-- A text begins with two dashes. -/
def Dashed (text : String) : Prop := ['-', '-'] <+: text.toList

instance (text : String) : Decidable (Dashed text) := inferInstanceAs (Decidable (_ <+: _))

/-- Words of a command line that belong together. -/
inductive Group where
  | switch (switch : Switch)
  | setting (setting : Setting) (value : String)
  | path (path : String) (plain : ¬ Dashed path)
  deriving DecidableEq

namespace Group

def words : Group → List String
  | .switch flag => [flag.text]
  | .setting flag value => [flag.text, value]
  | .path text _ => [text]

def path? : Group → Option String
  | .path text _ => some text
  | _ => none

def value? (setting : Setting) : Group → Option String
  | .setting other value => if other = setting then some value else none
  | _ => none

/-- What a command line says when one more group is read. -/
def enter (line : CommandLine) : Group → CommandLine
  | .switch .headless => { line with headless := true }
  | .switch .watch => { line with watch := true }
  | .switch .noApi => { line with api := false }
  | .setting .scene value => { line with scene := some value }
  | .setting .seed value => { line with seed := some value }
  | .path text _ => { line with specPath := some text }

end Group

def words (groups : List Group) : List String := groups.flatMap Group.words

def paths (groups : List Group) : List String := groups.filterMap Group.path?

/-- The values of a setting in the order in which they are given. -/
def values (setting : Setting) (groups : List Group) : List String :=
  groups.filterMap (Group.value? setting)

/-- What groups say. -/
def ofGroups (groups : List Group) : CommandLine where
  specPath := (paths groups).getLast?
  headless := decide (.switch .headless ∈ groups)
  watch := decide (.switch .watch ∈ groups)
  api := decide (.switch .noApi ∉ groups)
  scene := (values .scene groups).getLast?
  seed := (values .seed groups).getLast?

/-- Why nothing can be read after some groups. -/
inductive Stops (groups : List Group) : List String → LaunchError → Prop where
  | unknown {flag : String} {rest : List String} (dashed : Dashed flag)
      (noSwitch : ∀ switch : Switch, flag ≠ switch.text)
      (noSetting : ∀ setting : Setting, flag ≠ setting.text) :
      Stops groups (flag :: rest) (.unknownArgument flag)
  | second {path : String} {rest : List String} (plain : ¬ Dashed path) (one : paths groups ≠ []) :
      Stops groups (path :: rest) (.unknownArgument path)
  | missing (setting : Setting) : Stops groups [setting.text] (.missingValue setting.text)

theorem ofGroups_concat (groups : List Group) (group : Group) :
    ofGroups (groups ++ [group]) = group.enter (ofGroups groups) := by
  cases group with
  | switch flag =>
    cases flag <;> simp [ofGroups, paths, values, Group.enter, Group.path?, Group.value?]
  | setting flag value =>
    cases flag <;> simp [ofGroups, paths, values, Group.enter, Group.path?, Group.value?]
  | path path plain => simp [ofGroups, paths, values, Group.enter, Group.path?, Group.value?]

theorem foldl_enter (groups : List Group) : groups.foldl Group.enter start = ofGroups groups := by
  induction groups using List.reverseRecOn with
  | nil => rfl
  | append_singleton groups group ih =>
    rw [List.foldl_append, ih, ofGroups_concat]
    rfl

/-! ### Reading -/

variable {line after : CommandLine} {argument value : String} {rest : List String}

theorem flag?_eq_some_iff :
    line.flag? argument = some after ↔
      ∃ flag : Switch, argument = flag.text ∧ after = Group.enter line (.switch flag) := by
  unfold flag?
  constructor
  · intro found
    split_ifs at found with headless watch noApi
    · exact ⟨.headless, headless, (Option.some.inj found).symm⟩
    · exact ⟨.watch, watch, (Option.some.inj found).symm⟩
    · exact ⟨.noApi, noApi, (Option.some.inj found).symm⟩
  · rintro ⟨_ | _ | _, rfl, rfl⟩ <;> rfl

theorem flag?_eq_none_iff : line.flag? argument = none ↔ ∀ flag : Switch, argument ≠ flag.text := by
  constructor
  · rintro none flag rfl
    rw [flag?_eq_some_iff.mpr ⟨flag, rfl, rfl⟩] at none
    cases none
  · intro other
    cases found : line.flag? argument with
    | none => rfl
    | some after =>
      obtain ⟨flag, same, -⟩ := flag?_eq_some_iff.mp found
      exact absurd same (other flag)

theorem option?_eq_some_iff :
    line.option? argument value = some after ↔
      ∃ flag : Setting, argument = flag.text ∧ after = Group.enter line (.setting flag value) := by
  unfold option?
  constructor
  · intro found
    split_ifs at found with scene seed
    · exact ⟨.scene, scene, (Option.some.inj found).symm⟩
    · exact ⟨.seed, seed, (Option.some.inj found).symm⟩
  · rintro ⟨_ | _, rfl, rfl⟩ <;> rfl

theorem option?_eq_none_iff :
    line.option? argument value = none ↔ ∀ flag : Setting, argument ≠ flag.text := by
  constructor
  · rintro none flag rfl
    rw [option?_eq_some_iff.mpr ⟨flag, rfl, rfl⟩] at none
    cases none
  · intro other
    cases found : line.option? argument value with
    | none => rfl
    | some after =>
      obtain ⟨flag, same, -⟩ := option?_eq_some_iff.mp found
      exact absurd same (other flag)

theorem isOption_iff : isOption argument = true ↔ ∃ flag : Setting, argument = flag.text := by
  rw [isOption, Bool.or_eq_true, decide_eq_true_eq, decide_eq_true_eq]
  constructor
  · rintro (scene | seed)
    · exact ⟨.scene, scene⟩
    · exact ⟨.seed, seed⟩
  · rintro ⟨_ | _, same⟩
    · exact .inl same
    · exact .inr same

theorem looksLikeFlag_iff : looksLikeFlag argument = true ↔ Dashed argument :=
  List.isPrefixOf_iff_prefix

/-- What looks like a path is no flag of any kind. -/
theorem ne_flag_of_plain (plain : ¬ Dashed argument) :
    (∀ flag : Switch, argument ≠ flag.text) ∧ ∀ flag : Setting, argument ≠ flag.text := by
  constructor
  · rintro flag rfl
    cases flag <;> exact plain (by decide)
  · rintro flag rfl
    cases flag <;> exact plain (by decide)

theorem read_switch (flag : Switch) :
    line.read (flag.text :: rest) = (Group.enter line (.switch flag)).read rest := by
  have found : line.flag? flag.text = some (Group.enter line (.switch flag)) :=
    flag?_eq_some_iff.mpr ⟨flag, rfl, rfl⟩
  cases rest <;> simp only [read, found]

theorem flag?_setting (flag : Setting) : line.flag? flag.text = none := by
  cases flag <;> rfl

theorem read_setting (flag : Setting) :
    line.read (flag.text :: value :: rest) = (Group.enter line (.setting flag value)).read rest := by
  have found : line.option? flag.text value = some (Group.enter line (.setting flag value)) :=
    option?_eq_some_iff.mpr ⟨flag, rfl, rfl⟩
  simp only [read, flag?_setting, found]

theorem read_missing (flag : Setting) : line.read [flag.text] = .error (.missingValue flag.text) := by
  have option := isOption_iff.mpr ⟨flag, rfl⟩
  simp only [read, flag?_setting, option, ↓reduceIte]

/-- A word that is none of the known flags is a path, unless it looks like a flag or a path was
read. -/
theorem read_other (noSwitch : ∀ flag : Switch, argument ≠ flag.text)
    (noSetting : ∀ flag : Setting, argument ≠ flag.text) :
    line.read (argument :: rest) =
      if Dashed argument ∨ line.specPath ≠ none then .error (.unknownArgument argument)
      else { line with specPath := some argument }.read rest := by
  have unflagged : line.flag? argument = none := flag?_eq_none_iff.mpr noSwitch
  have unset : isOption argument = false := by
    rw [Bool.eq_false_iff]
    intro option
    obtain ⟨flag, same⟩ := isOption_iff.mp option
    exact noSetting flag same
  have unvalued (value : String) : line.option? argument value = none :=
    option?_eq_none_iff.mpr noSetting
  have looks : ((looksLikeFlag argument || line.specPath.isSome) = true) =
      (Dashed argument ∨ line.specPath ≠ none) := by
    rw [Bool.or_eq_true, looksLikeFlag_iff, Option.isSome_iff_ne_none]
  cases rest <;> simp only [read, unflagged, unset, unvalued, looks, Bool.false_eq_true, ↓reduceIte]

theorem specPath_enter (group : Group) :
    (group.enter line).specPath = group.path?.or line.specPath := by
  rcases group with (_ | _ | _) | ⟨_ | _, _⟩ | _ <;> rfl

theorem paths_cons (group : Group) (groups : List Group) :
    paths (group :: groups) = group.path?.toList ++ paths groups := by
  cases found : group.path? <;> simp [paths, found]

/-- A group is read as a whole, and a second path is not read. -/
theorem read_group (group : Group) :
    line.read (group.words ++ rest) =
      match line.specPath, group.path? with
      | some _, some extra => .error (.unknownArgument extra)
      | _, _ => (group.enter line).read rest := by
  cases group with
  | switch flag =>
    rw [Group.words, List.singleton_append, read_switch]
    cases line.specPath <;> rfl
  | setting flag value =>
    rw [Group.words, List.cons_append, List.singleton_append, read_setting]
    cases line.specPath <;> rfl
  | path text plain =>
    obtain ⟨noSwitch, noSetting⟩ := ne_flag_of_plain plain
    rw [Group.words, List.singleton_append, read_other noSwitch noSetting]
    cases given : line.specPath <;> simp [plain, Group.path?, Group.enter]

/-- Groups are read one after the other, up to the second path. -/
theorem read_words (groups : List Group) :
    line.read (words groups ++ rest) =
      match (line.specPath.toList ++ paths groups)[1]? with
      | some extra => .error (.unknownArgument extra)
      | none => (groups.foldl Group.enter line).read rest := by
  induction groups generalizing line with
  | nil => cases line.specPath <;> rfl
  | cons group others ih =>
    have whole : words (group :: others) ++ rest = group.words ++ (words others ++ rest) := by
      simp [words]
    rw [whole, read_group, List.foldl_cons, ih, specPath_enter, paths_cons]
    cases group.path? <;> cases line.specPath <;> rfl

/-- After its groups a line that stops is not read. -/
theorem Stops.read {groups : List Group} {error : LaunchError} (stops : Stops groups rest error)
    (known : line.specPath = none → paths groups = []) : line.read rest = .error error := by
  cases stops with
  | unknown dashed noSwitch noSetting => rw [read_other noSwitch noSetting, if_pos (.inl dashed)]
  | second plain one =>
    obtain ⟨noSwitch, noSetting⟩ := ne_flag_of_plain plain
    rw [read_other noSwitch noSetting, if_pos (.inr fun none => one (known none))]
  | missing flag => exact read_missing flag

/-- A word begins a group, or nothing can be read from it on. -/
theorem begins_or_stops (before : List Group) (argument : String) (rest : List String) :
    (∃ (group : Group) (more : List String), argument :: rest = group.words ++ more ∧
      (group.path? ≠ none → paths before = [])) ∨
      ∃ error, Stops before (argument :: rest) error := by
  by_cases switched : ∃ flag : Switch, argument = flag.text
  · obtain ⟨flag, rfl⟩ := switched
    exact .inl ⟨.switch flag, rest, rfl, by simp [Group.path?]⟩
  · by_cases set : ∃ flag : Setting, argument = flag.text
    · obtain ⟨flag, rfl⟩ := set
      cases rest with
      | nil => exact .inr ⟨_, .missing flag⟩
      | cons value rest => exact .inl ⟨.setting flag value, rest, rfl, by simp [Group.path?]⟩
    · by_cases dashed : Dashed argument
      · exact .inr ⟨_, .unknown dashed (not_exists.mp switched) (not_exists.mp set)⟩
      · by_cases free : paths before = []
        · exact .inl ⟨.path argument dashed, rest, rfl, fun _ => free⟩
        · exact .inr ⟨_, .second dashed free⟩

/-- A command line falls into groups with one path at most, or it stops after some. -/
theorem groups_or_stops (before : List Group) (few : (paths before).length ≤ 1)
    (arguments : List String) :
    ∃ groups rest, words before ++ arguments = words groups ++ rest ∧ (paths groups).length ≤ 1 ∧
      (rest = [] ∨ ∃ error, Stops groups rest error) := by
  induction shrinks : arguments.length using Nat.strong_induction_on generalizing before arguments with
  | _ length ih =>
    cases arguments with
    | nil => exact ⟨before, [], rfl, few, .inl rfl⟩
    | cons argument rest =>
      rcases begins_or_stops before argument rest with ⟨group, more, split, free⟩ | stops
      · have shorter : more.length < length := by
          have sizes := congrArg List.length split
          have some : 0 < group.words.length := by cases group <;> exact Nat.succ_pos _
          simp only [List.length_append] at sizes
          omega
        have one : (paths (before ++ [group])).length ≤ 1 := by
          cases named : group.path? with
          | none => simpa [paths, named] using few
          | some path =>
            have none := free (by simp [named])
            simp only [paths] at none
            simp [paths, none, named]
        have whole : words (before ++ [group]) ++ more = words before ++ (argument :: rest) := by
          rw [split]
          simp [words]
        rw [← whole]
        exact ih _ shorter _ one _ rfl
      · exact ⟨before, argument :: rest, rfl, few, .inr stops⟩

/-- Either all of a command line is groups, or it stops after some. -/
theorem fits_or_stops (arguments : List String) :
    ∃ groups, (paths groups).length ≤ 1 ∧ (arguments = words groups ∨
      ∃ rest error, arguments = words groups ++ rest ∧ Stops groups rest error) := by
  obtain ⟨groups, rest, split, few, ends⟩ := groups_or_stops [] (Nat.zero_le 1) arguments
  have whole : arguments = words groups ++ rest := split
  refine ⟨groups, few, ?_⟩
  rcases ends with rfl | ⟨error, stops⟩
  · exact .inl (whole.trans (List.append_nil _))
  · exact .inr ⟨rest, error, whole, stops⟩

/-- Groups with one path at most are read whatever follows them. -/
theorem read_fits {groups : List Group} (few : (paths groups).length ≤ 1) (rest : List String) :
    start.read (words groups ++ rest) = (ofGroups groups).read rest := by
  have one : (start.specPath.toList ++ paths groups)[1]? = none := by
    rw [List.getElem?_eq_none_iff]
    simpa [start] using few
  rw [read_words, one, foldl_enter]

theorem read_of_stops {groups : List Group} (few : (paths groups).length ≤ 1) {error : LaunchError}
    (stops : Stops groups rest error) : start.read (words groups ++ rest) = .error error := by
  rw [read_fits few]
  exact stops.read fun none => List.getLast?_eq_none_iff.mp none

theorem read_of_fits {groups : List Group} (few : (paths groups).length ≤ 1) :
    start.read (words groups) = .ok (ofGroups groups) := by
  have whole := read_fits few []
  rw [List.append_nil] at whole
  rw [whole, read]

/-- What is read, if all can be read: groups with one path at most, and what they say. -/
theorem read_eq_ok_iff {arguments : List String} :
    start.read arguments = .ok line ↔
      ∃ groups, arguments = words groups ∧ (paths groups).length ≤ 1 ∧ line = ofGroups groups := by
  constructor
  · intro done
    obtain ⟨groups, few, rfl | ⟨rest, error, rfl, stops⟩⟩ := fits_or_stops arguments
    · rw [read_of_fits few] at done
      exact ⟨groups, rfl, few, (Except.ok.inj done).symm⟩
    · rw [read_of_stops few stops] at done
      cases done
  · rintro ⟨groups, rfl, few, rfl⟩
    exact read_of_fits few

/-- Why a command line cannot be read. -/
theorem read_eq_error_iff {arguments : List String} {error : LaunchError} :
    start.read arguments = .error error ↔
      ∃ groups rest, arguments = words groups ++ rest ∧ (paths groups).length ≤ 1 ∧
        Stops groups rest error := by
  constructor
  · intro failed
    obtain ⟨groups, few, rfl | ⟨rest, other, rfl, stops⟩⟩ := fits_or_stops arguments
    · rw [read_of_fits few] at failed
      cases failed
    · rw [read_of_stops few stops] at failed
      cases failed
      exact ⟨groups, rest, rfl, few, stops⟩
  · rintro ⟨groups, rest, rfl, few, stops⟩
    exact read_of_stops few stops

/-- The same groups, those of one setting in the same order. -/
structure Reorders (first second : List Group) : Prop where
  perm : first.Perm second
  values : ∀ flag : Setting, values flag second = values flag first

theorem Reorders.ofGroups {first second : List Group} (reorders : Reorders first second)
    (same : paths second = paths first) : ofGroups second = ofGroups first := by
  simp only [CommandLine.ofGroups, same, reorders.values, reorders.perm.mem_iff]

/-- What is read does not depend on the order of the groups, nor does what cannot be read if the paths
are in the same order. -/
theorem Reorders.read {first second : List Group} (reorders : Reorders first second)
    (same : paths second = paths first) : start.read (words second) = start.read (words first) := by
  have whole (groups : List Group) : start.read (words groups ++ []) = _ := read_words groups
  simp only [List.append_nil, foldl_enter] at whole
  rw [whole, whole, same, reorders.ofGroups same]

/-- Of one path or none there is one order. -/
theorem Reorders.paths {first second : List Group} (reorders : Reorders first second)
    (few : (paths first).length ≤ 1) : CommandLine.paths second = CommandLine.paths first := by
  have perm : (CommandLine.paths second).Perm (CommandLine.paths first) :=
    (reorders.perm.filterMap Group.path?).symm
  generalize CommandLine.paths first = paths at perm few
  match paths with
  | [] => exact List.perm_nil.mp perm
  | [path] => exact List.perm_singleton.mp perm

end CommandLine

namespace Launch

open CommandLine

variable {startup : Startup} {environment : String → Option String} {launch : Launch}

/-! ### Sources -/

/-- The value of the highest source that gives one. -/
def highest (sources : List (Option α)) : Option α := sources.findSome? id

/-- What a variable of the environment gives, which is nothing when it is blank. -/
def given (environment : String → Option String) (name : String) : Option String :=
  (environment name).filter fun value => value.toList.any fun c => !Text.isBlank c

/-- A text writes a seed: a numeral, perhaps between blanks, that fits a word of 64 bits. -/
def WritesSeed (text : String) (seed : Nat) : Prop :=
  ∃ numeral, Text.Padded numeral text.toList ∧ Text.Numeral numeral seed ∧ seed ≤ Text.maxWord64

/-- The text that has to be a seed. -/
def seedText (groups : List Group) (environment : String → Option String) : Option String :=
  highest [(values .seed groups).getLast?, given environment seedVariable]

/-- Every setting has the value of its highest source. -/
structure Settles (groups : List Group) (startup : Startup)
    (environment : String → Option String) (launch : Launch) : Prop where
  specPath : paths groups = [launch.specPath]
  headless : launch.headless = true ↔ .switch .headless ∈ groups
  watch : launch.watch = true ↔ .switch .watch ∈ groups
  api : launch.api = true ↔ .switch .noApi ∉ groups
  scene : launch.scene = highest [(values .scene groups).getLast?, startup.scene]
  seed : ∀ text, seedText groups environment = some text →
    ∃ seed, launch.seed = some seed ∧ WritesSeed text seed
  otherSeed : seedText groups environment = none → launch.seed = startup.seed
  assetsDir : some launch.assetsDir =
    highest [given environment assetsDirVariable, startup.assetsDir, some defaultAssetsDir]
  apiAddress : some launch.apiAddress =
    highest [given environment apiAddressVariable, startup.apiAddress, some defaultApiAddress]
  nearestFilter : launch.nearestFilter = true ↔ ∃ name,
    highest [given environment textureFilterVariable, startup.textureFilter] = some name ∧
      Text.Recased "nearest".toList name.toList

/-- Why a launch cannot be settled: a word that cannot be read, else a seed that is none, else no path. -/
inductive Fails (arguments : List String) (environment : String → Option String) :
    LaunchError → Prop where
  | word {groups : List Group} {rest : List String} {error : LaunchError}
      (split : arguments = words groups ++ rest) (few : (paths groups).length ≤ 1)
      (stops : Stops groups rest error) : Fails arguments environment error
  | seed {groups : List Group} {text : String} (whole : arguments = words groups)
      (few : (paths groups).length ≤ 1) (asked : seedText groups environment = some text)
      (wrong : ∀ seed, ¬ WritesSeed text seed) : Fails arguments environment (.invalidSeed text)
  | path {groups : List Group} (whole : arguments = words groups) (none : paths groups = [])
      (seeded : ∀ text, seedText groups environment = some text → ∃ seed, WritesSeed text seed) :
      Fails arguments environment .missingSpecPath

theorem nonBlank?_eq_given (environment : String → Option String) (name : String) :
    nonBlank? environment name = given environment name := by
  simp only [nonBlank?, given, Text.allBlank, List.not_all_eq_any_not]

theorem highest_pair (first second : Option α) : highest [first, second] = first.or second := by
  cases first <;> cases second <;> rfl

theorem highest_default (first second : Option α) (default : α) :
    highest [first, second, some default] = some ((first.or second).getD default) := by
  cases first <;> cases second <;> rfl

theorem seed?_eq_some_iff {text : String} {seed : Nat} :
    seed? text = some seed ↔ WritesSeed text seed := by
  rw [seed?, Text.naturalUpTo?_eq_some_iff]
  constructor
  · rintro ⟨numeral, small⟩
    exact ⟨_, Text.padded_trim _, numeral, small⟩
  · rintro ⟨digits, padded, numeral, small⟩
    rw [Text.trim_eq_iff.mpr ⟨Text.trimmed_of_dark numeral.isBlank, padded⟩]
    exact ⟨numeral, small⟩

theorem isNearest_iff {name : String} :
    isNearest name = true ↔ Text.Recased "nearest".toList name.toList := by
  rw [isNearest, decide_eq_true_eq, Text.Recased, ← String.toList_inj, String.toList_ofList]
  rfl

/-! ### Settling -/

theorem chooseSeed_eq_ok_iff {text : Option String} {otherwise seed : Option Nat} :
    chooseSeed text otherwise = .ok seed ↔
      (∀ words, text = some words → ∃ number, seed = some number ∧ WritesSeed words number) ∧
        (text = none → seed = otherwise) := by
  cases text with
  | none => simp [chooseSeed, eq_comm]
  | some words =>
    cases found : seed? words with
    | none =>
      simp only [chooseSeed, found, reduceCtorEq, false_iff, not_and]
      intro written
      obtain ⟨number, -, writes⟩ := written words rfl
      rw [seed?_eq_some_iff.mpr writes] at found
      cases found
    | some number =>
      have writes := seed?_eq_some_iff.mp found
      simp only [chooseSeed, found, Except.ok.injEq]
      constructor
      · rintro rfl
        refine ⟨?_, nofun⟩
        rintro _ ⟨⟩
        exact ⟨number, rfl, writes⟩
      · rintro ⟨written, -⟩
        obtain ⟨other, rfl, also⟩ := written words rfl
        rw [← found, seed?_eq_some_iff.mpr also]

theorem chooseSeed_eq_error_iff {text : Option String} {otherwise : Option Nat}
    {error : LaunchError} :
    chooseSeed text otherwise = .error error ↔
      ∃ words, text = some words ∧ (∀ number, ¬ WritesSeed words number) ∧
        error = .invalidSeed words := by
  cases text with
  | none => simp [chooseSeed]
  | some words =>
    have wrong : (∀ number, ¬ WritesSeed words number) ↔ seed? words = none := by
      simp only [← seed?_eq_some_iff, Option.eq_none_iff_forall_ne_some]
    simp only [Option.some.injEq, exists_eq_left', wrong]
    cases found : seed? words <;> simp [chooseSeed, found, eq_comm]

/-- The settings that groups, environment and file give, but for seed and path. -/
def settled (groups : List Group) (startup : Startup) (environment : String → Option String)
    (seed : Option Nat) (specPath : String) : Launch where
  specPath := specPath
  headless := decide (.switch .headless ∈ groups)
  watch := decide (.switch .watch ∈ groups)
  api := decide (.switch .noApi ∉ groups)
  scene := (values .scene groups).getLast?.or startup.scene
  seed := seed
  assetsDir := ((given environment assetsDirVariable).or startup.assetsDir).getD defaultAssetsDir
  apiAddress := ((given environment apiAddressVariable).or startup.apiAddress).getD defaultApiAddress
  nearestFilter := ((given environment textureFilterVariable).or startup.textureFilter).any isNearest

theorem resolve_words {groups : List Group} (few : (paths groups).length ≤ 1) :
    resolve (words groups) startup environment =
      (chooseSeed (seedText groups environment) startup.seed).bind fun seed =>
        match (paths groups).getLast? with
        | none => .error .missingSpecPath
        | some specPath => .ok (settled groups startup environment seed specPath) := by
  simp only [resolve, read_of_fits few, bind, Except.bind, seedText, highest_pair,
    nonBlank?_eq_given]
  rfl

theorem settles_settled {groups : List Group} {seed : Option Nat} {specPath : String}
    (chosen : chooseSeed (seedText groups environment) startup.seed = .ok seed)
    (one : paths groups = [specPath]) :
    Settles groups startup environment (settled groups startup environment seed specPath) where
  specPath := one
  headless := decide_eq_true_iff
  watch := decide_eq_true_iff
  api := decide_eq_true_iff
  scene := (highest_pair _ _).symm
  seed := (chooseSeed_eq_ok_iff.mp chosen).1
  otherSeed := (chooseSeed_eq_ok_iff.mp chosen).2
  assetsDir := (highest_default _ _ _).symm
  apiAddress := (highest_default _ _ _).symm
  nearestFilter := by
    rw [highest_pair]
    simp only [settled, Option.any_eq_true, isNearest_iff]

/-- The sources settle everything. -/
theorem Settles.eq_settled {groups : List Group} (settles : Settles groups startup environment launch) :
    launch = settled groups startup environment launch.seed launch.specPath := by
  have assetsDir := settles.assetsDir
  have apiAddress := settles.apiAddress
  have nearestFilter := settles.nearestFilter
  rw [highest_default] at assetsDir apiAddress
  rw [highest_pair] at nearestFilter
  have scene := settles.scene
  rw [highest_pair] at scene
  cases launch
  simp only [settled, Launch.mk.injEq, true_and]
  refine ⟨Bool.eq_iff_iff.mpr (settles.headless.trans decide_eq_true_iff.symm),
    Bool.eq_iff_iff.mpr (settles.watch.trans decide_eq_true_iff.symm),
    Bool.eq_iff_iff.mpr (settles.api.trans decide_eq_true_iff.symm), scene,
    Option.some.inj assetsDir, Option.some.inj apiAddress, Bool.eq_iff_iff.mpr ?_⟩
  simp only [Option.any_eq_true, isNearest_iff]
  exact nearestFilter

theorem resolve_eq_ok_iff {arguments : List String} :
    resolve arguments startup environment = .ok launch ↔
      ∃ groups, arguments = words groups ∧ Settles groups startup environment launch := by
  constructor
  · intro done
    obtain ⟨line, scanned, -⟩ := bind_eq_ok done
    obtain ⟨groups, rfl, few, -⟩ := read_eq_ok_iff.mp scanned
    rw [resolve_words few] at done
    obtain ⟨seed, chosen, done⟩ := bind_eq_ok done
    refine ⟨groups, rfl, ?_⟩
    match given : paths groups with
    | [] =>
      rw [given] at done
      cases done
    | [specPath] =>
      rw [given] at done
      cases done
      exact settles_settled chosen given
    | _ :: _ :: _ =>
      rw [given] at few
      simp at few
  · rintro ⟨groups, rfl, settles⟩
    have few : (paths groups).length ≤ 1 := by simp [settles.specPath]
    have chosen : chooseSeed (seedText groups environment) startup.seed = .ok launch.seed :=
      chooseSeed_eq_ok_iff.mpr ⟨settles.seed, settles.otherSeed⟩
    rw [resolve_words few, chosen, settles.specPath]
    exact congrArg Except.ok settles.eq_settled.symm

theorem resolve_eq_error_iff {arguments : List String} {error : LaunchError} :
    resolve arguments startup environment = .error error ↔ Fails arguments environment error := by
  constructor
  · intro failed
    cases scanned : start.read arguments with
    | error other =>
      obtain ⟨groups, rest, rfl, few, stops⟩ := read_eq_error_iff.mp scanned
      have same : resolve (words groups ++ rest) startup environment = .error other := by
        rw [resolve, scanned]
        rfl
      cases same.symm.trans failed
      exact .word rfl few stops
    | ok line =>
      obtain ⟨groups, rfl, few, -⟩ := read_eq_ok_iff.mp scanned
      rw [resolve_words few] at failed
      cases chosen : chooseSeed (seedText groups environment) startup.seed with
      | error other =>
        obtain ⟨text, asked, wrong, rfl⟩ := chooseSeed_eq_error_iff.mp chosen
        rw [chosen] at failed
        cases failed
        exact .seed rfl few asked wrong
      | ok seed =>
        rw [chosen] at failed
        match given : paths groups with
        | [] =>
          rw [given] at failed
          cases failed
          refine .path rfl given fun text asked => ?_
          obtain ⟨number, -, writes⟩ := (chooseSeed_eq_ok_iff.mp chosen).1 text asked
          exact ⟨number, writes⟩
        | path :: rest =>
          obtain ⟨last, ends⟩ := Option.isSome_iff_exists.mp
            (List.getLast?_isSome.mpr (List.cons_ne_nil path rest))
          rw [given, ends] at failed
          cases failed
  · rintro (⟨rfl, few, stops⟩ | ⟨rfl, few, asked, wrong⟩ | ⟨rfl, none, seeded⟩)
    · rw [resolve, read_of_stops few stops]
      rfl
    · rw [resolve_words few, chooseSeed_eq_error_iff.mpr ⟨_, asked, wrong, rfl⟩]
      rfl
    · rw [resolve_words (by simp [none]), none]
      cases chosen : chooseSeed (seedText _ environment) startup.seed with
      | error other =>
        obtain ⟨text, asked, wrong, -⟩ := chooseSeed_eq_error_iff.mp chosen
        obtain ⟨seed, writes⟩ := seeded text asked
        exact absurd writes (wrong seed)
      | ok seed => rfl

/-- The second path is one too many. -/
theorem resolve_of_many {groups : List Group} (many : 1 < (paths groups).length) :
    resolve (words groups) startup environment = .error (.unknownArgument (paths groups)[1]) := by
  have whole : start.read (words groups ++ []) = _ := read_words groups
  rw [List.append_nil, show start.specPath.toList ++ paths groups = paths groups from rfl,
    List.getElem?_eq_getElem many] at whole
  rw [resolve, whole]
  rfl

theorem resolve_reorders {first second : List Group} (reorders : Reorders first second)
    (same : paths second = paths first) :
    resolve (words second) startup environment = resolve (words first) startup environment := by
  rw [resolve, resolve, reorders.read same]

/-- For all arguments, files and environments: a launch fails for the first word that cannot be read, else
for a seed that is none, else for want of a path; otherwise every setting has the value of its highest
source. And the order of the groups does not matter, as long as the values of each setting keep theirs: the
same is settled, and what fails fails for the same reason if the paths, too, keep their order. -/
theorem settles_by_rank (arguments : List String) (startup : Startup)
    (environment : String → Option String) :
    (∀ error, resolve arguments startup environment = .error error ↔
      Fails arguments environment error) ∧
    (∀ launch, resolve arguments startup environment = .ok launch ↔
      ∃ groups, arguments = words groups ∧ Settles groups startup environment launch) ∧
    ∀ first second, arguments = words first → Reorders first second →
      (∀ launch, resolve (words second) startup environment = .ok launch ↔
        resolve arguments startup environment = .ok launch) ∧
      (paths second = paths first →
        resolve (words second) startup environment = resolve arguments startup environment) := by
  refine ⟨fun _ => resolve_eq_error_iff, fun _ => resolve_eq_ok_iff, ?_⟩
  rintro first second rfl reorders
  refine ⟨fun launch => ?_, resolve_reorders reorders⟩
  by_cases few : (paths first).length ≤ 1
  · rw [resolve_reorders reorders (reorders.paths few)]
  · have many : 1 < (paths first).length := Nat.lt_of_not_le few
    have also : 1 < (paths second).length := by
      rwa [paths, (reorders.perm.filterMap Group.path?).symm.length_eq]
    rw [resolve_of_many many, resolve_of_many also]
    exact ⟨nofun, nofun⟩

end Launch

namespace Sample

open CommandLine

/-- A game without a window, and twice a scene; the second one looks like a flag. -/
def groups : List Group :=
  [.setting .scene "menu", .switch .headless, .path "game.json" (by decide), .setting .scene "--watch"]

/-- The path comes first. -/
def others : List Group :=
  [.path "game.json" (by decide), .setting .scene "menu", .setting .scene "--watch", .switch .headless]

/-- A seed between blanks, and a folder that is blank. -/
def surroundings (name : String) : Option String :=
  if name = Launch.seedVariable then some " +7 "
  else if name = Launch.assetsDirVariable then some "  "
  else none

/-- A file that has a folder, a seed and a scene. -/
def startup : Startup := ⟨some "art", none, some 1, some "main", none⟩

end Sample

open CommandLine in
/-- The later scene counts, and the seed of the environment; a blank folder gives way to that of the
file. -/
theorem Launch.settles_by_rank_sample :
    ∃ launch, resolve (words Sample.groups) Sample.startup Sample.surroundings = .ok launch ∧
      launch.scene = some "--watch" ∧ launch.watch = false ∧ launch.seed = some 7 ∧
      launch.assetsDir = "art" ∧ Reorders Sample.groups Sample.others ∧
      resolve (words Sample.others) Sample.startup Sample.surroundings = .ok launch := by
  have fine : (resolve (words Sample.groups) Sample.startup Sample.surroundings).toOption.any
      (fun launch => decide (launch.scene = some "--watch" ∧ launch.watch = false ∧
        launch.seed = some 7 ∧ launch.assetsDir = "art")) = true := by decide +kernel
  obtain ⟨launch, settled, fine⟩ := exists_ok_of_any fine
  obtain ⟨scene, watch, seed, assetsDir⟩ := of_decide_eq_true fine
  have reorders : Reorders Sample.groups Sample.others :=
    ⟨by decide, fun flag => by cases flag <;> rfl⟩
  obtain ⟨-, -, order⟩ := settles_by_rank (words Sample.groups) Sample.startup Sample.surroundings
  obtain ⟨same, -⟩ := order Sample.groups Sample.others rfl reorders
  exact ⟨launch, settled, scene, watch, seed, assetsDir, reorders, (same launch).mpr settled⟩

end Arcade
