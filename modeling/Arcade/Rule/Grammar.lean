import Arcade.Spec.Error
import Arcade.Text.Blank
import Arcade.Text.Numeral
import Arcade.Text.Split

/-! The lines in which a scene writes its rules: `player, coin -> collect` for what happens between
objects, `every 500 ms -> tick` for what happens in time. -/

namespace Arcade.Rule

/-- What two sides do when they meet. -/
structure Interaction where
  first : String
  second : String
  callback : String
  deriving DecidableEq

inductive Cadence where
  | every
  | after
  deriving DecidableEq

/-- What happens in time, with an interval in milliseconds. -/
structure Schedule where
  cadence : Cadence
  interval : Nat
  callback : String
  deriving DecidableEq

def arrow : List Char := ['-', '>']

def unit : List Char := ['m', 's']

def Cadence.name : Cadence → String
  | every => "every"
  | after => "after"

def cadence? (word : List Char) : Option Cadence :=
  [Cadence.every, .after].find? fun cadence => cadence.name.toList = word

/-- The two sides of the first arrow, trimmed, when something stands after it. -/
def sides? (line : List Char) : Option (List Char × List Char) :=
  match Text.splitOnce? arrow line with
  | some (before, after) =>
    let callback := Text.trim after
    if callback.isEmpty then none else some (Text.trim before, callback)
  | none => none

/-- Two names with one comma between them. -/
def pair? (text : List Char) : Option (List Char × List Char) :=
  match Text.splitOnce? [','] text with
  | some (before, after) =>
    let first := Text.trim before
    let second := Text.trim after
    if first.isEmpty || second.isEmpty || second.contains ',' then none
    else some (first, second)
  | none => none

def interaction? (line : List Char) : Option Interaction := do
  let (names, callback) ← sides? line
  let (first, second) ← pair? names
  some ⟨.ofList first, .ofList second, .ofList callback⟩

/-- A number of milliseconds with its unit. -/
def interval? (text : List Char) : Option Nat := do
  let number ← Text.beforeEnd? unit (Text.trim text)
  Text.naturalUpTo? Text.maxWord32 (Text.trim number)

def schedule? (line : List Char) : Option Schedule := do
  let (time, callback) ← sides? line
  let (word, amount) ← Text.splitWhere? Text.isBlank time
  let cadence ← cadence? word
  let interval ← interval? amount
  some ⟨cadence, interval, .ofList callback⟩

namespace Interaction

def parse (line : String) : Except BuildError Interaction :=
  match interaction? line.toList with
  | some rule => .ok rule
  | none => .error (.malformedRule line)

end Interaction

namespace Schedule

def parse (line : String) : Except BuildError Schedule :=
  match schedule? line.toList with
  | some rule => .ok rule
  | none => .error (.malformedTimer line)

end Schedule

end Arcade.Rule
