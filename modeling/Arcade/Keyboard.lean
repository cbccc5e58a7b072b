import Arcade.Index
import Arcade.Text.Blank
import Arcade.Text.Split

/-! Keys and the names by which games know them. Arrows, space and shift have conventional names;
what other names stand for is remembered once it was looked up. -/

namespace Arcade

inductive Key where
  | arrowLeft
  | arrowRight
  | arrowUp
  | arrowDown
  | space
  | shiftLeft
  | shiftRight
  | enter
  | escape
  | tab
  | backspace
  | controlLeft
  | altLeft
  | letter (index : Fin 26)
  | digit (value : Fin 10)
  deriving DecidableEq

namespace Key

/-- The full name of a key. -/
def name : Key → String
  | arrowLeft => "ArrowLeft"
  | arrowRight => "ArrowRight"
  | arrowUp => "ArrowUp"
  | arrowDown => "ArrowDown"
  | space => "Space"
  | shiftLeft => "ShiftLeft"
  | shiftRight => "ShiftRight"
  | enter => "Enter"
  | escape => "Escape"
  | tab => "Tab"
  | backspace => "Backspace"
  | controlLeft => "ControlLeft"
  | altLeft => "AltLeft"
  | letter index => "Key" ++ String.singleton (Char.ofNat ('A'.toNat + index))
  | digit value => "Digit" ++ String.singleton (Char.ofNat ('0'.toNat + value))

def all : List Key :=
  [arrowLeft, arrowRight, arrowUp, arrowDown, space, shiftLeft, shiftRight, enter, escape, tab,
    backspace, controlLeft, altLeft] ++ (List.finRange 26).map letter ++ (List.finRange 10).map digit

/-- The key of a full name. -/
def ofName? (name : String) : Option Key := all.find? (·.name = name)

def conventionalNames : List (String × Key) :=
  [("left", arrowLeft), ("arrowleft", arrowLeft), ("right", arrowRight),
    ("arrowright", arrowRight), ("up", arrowUp), ("arrowup", arrowUp), ("down", arrowDown),
    ("arrowdown", arrowDown), ("space", space), ("spacebar", space), ("shift", shiftLeft),
    ("shiftleft", shiftLeft)]

def customNames : List (String × Key) :=
  [("enter", enter), ("return", enter), ("escape", escape), ("esc", escape), ("tab", tab),
    ("backspace", backspace), ("ctrl", controlLeft), ("control", controlLeft),
    ("controlleft", controlLeft), ("alt", altLeft), ("altleft", altLeft),
    ("shiftright", shiftRight)]

/-- A name in lower case. -/
def folded (name : List Char) : String := String.ofList (name.map Char.toLower)

def conventional? (name : String) : Option Key :=
  lookup? (folded (Text.trim name.toList)) conventionalNames

/-- The key of one letter or digit. -/
def ofChar? (c : Char) : Option Key :=
  if c.isAlpha then
    let index := c.toLower.toNat - 'a'.toNat
    if bounded : index < 26 then some (letter ⟨index, bounded⟩) else none
  else if c.isDigit then
    let value := c.toNat - '0'.toNat
    if bounded : value < 10 then some (digit ⟨value, bounded⟩) else none
  else none

/-- A name without the word for its kind of key. -/
def bare (name : List Char) : List Char :=
  ((Text.afterStart? "Key".toList name).or (Text.afterStart? "Digit".toList name)).getD name

/-- The key of a name that has no conventional meaning. -/
def custom? (name : String) : Option Key :=
  let trimmed := Text.trim name.toList
  match bare trimmed with
  | [c] => ofChar? c
  | _ => lookup? (folded trimmed) customNames

/-- The key of a name. -/
def parse? (name : String) : Option Key := (conventional? name).or (custom? name)

end Key

/-- Keys that names without conventional meaning were found to stand for, or that they stand for
none. -/
structure KeyCache where
  known : Index (Option Key)

namespace KeyCache

def empty : KeyCache := ⟨∅⟩

def size (cache : KeyCache) : Nat := cache.known.size

/-- Look a name up and remember it. -/
def resolve (cache : KeyCache) (name : String) : KeyCache × Option Key :=
  match Key.conventional? name with
  | some key => (cache, some key)
  | none =>
    match cache.known.get? name with
    | some key => (cache, key)
    | none =>
      let key := Key.custom? name
      (⟨cache.known.insert name key⟩, key)

/-- Look up a name if there is one. -/
def resolveOption (cache : KeyCache) : Option String → KeyCache × Option Key
  | some name => cache.resolve name
  | none => (cache, none)

/-- What is remembered is what a look-up would find. -/
def Faithful (cache : KeyCache) : Prop :=
  ∀ name key, cache.known.get? name = some key →
    Key.conventional? name = none ∧ key = Key.custom? name

theorem faithful_empty : Faithful empty := by
  intro name key found
  simp [empty] at found

theorem Faithful.resolve {cache : KeyCache} (faithful : cache.Faithful) (name : String) :
    (cache.resolve name).1.Faithful := by
  unfold KeyCache.resolve
  split
  · exact faithful
  · rename_i unconventional
    split
    · exact faithful
    · intro other key found
      simp only [Index.get?_insert] at found
      by_cases same : name = other
      · subst same
        simp only [↓reduceIte, Option.some.injEq] at found
        exact ⟨unconventional, found.symm⟩
      · simp only [same, ↓reduceIte] at found
        exact faithful other key found

/-- A cache changes no look-up. -/
theorem Faithful.resolve_eq_parse? {cache : KeyCache} (faithful : cache.Faithful) (name : String) :
    (cache.resolve name).2 = Key.parse? name := by
  unfold KeyCache.resolve
  split
  · rename_i key conventional
    simp [Key.parse?, conventional]
  · rename_i unconventional
    split
    · rename_i key remembered
      simp [Key.parse?, unconventional, (faithful name key remembered).2]
    · simp [Key.parse?, unconventional]

end KeyCache

end Arcade
