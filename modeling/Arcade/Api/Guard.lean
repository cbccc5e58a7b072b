import Arcade.Index
import Arcade.Text.Blank
import Arcade.Text.Numeral
import Arcade.Text.Split

/-! Who may ask, and how often. A request has to carry the token, if one is set; and each client has
a number of requests per window of one second. -/

namespace Arcade.Api

/-- A header has a name, whose case does not matter, and bytes. -/
structure Header where
  name : String
  value : String

namespace Header

/-- Characters of a value that can be read. -/
def readable (c : Char) : Bool := (32 ≤ c.toNat && c.toNat < 127) || c = '\t'

/-- The first header of a name. -/
def find? (headers : List Header) (name : String) : Option String :=
  (headers.find? fun header =>
    String.ofList (header.name.toList.map Char.toLower) = name).map (·.value)

/-- A value, if all of it can be read. -/
def read? (value : String) : Option String :=
  if value.toList.all readable then some value else none

/-- The value of a name without blanks at its ends; empty when there is none to read. -/
def credential (headers : List Header) (name : String) : List Char :=
  Text.trim ((((find? headers name).bind read?).getD "").toList)

end Header

/-- The requests of one client since its window opened. -/
structure Window where
  opened : Nat
  count : Nat
  deriving DecidableEq

structure Guard where
  token : Option String
  limit : Nat
  windows : Index Window

namespace Guard

def defaultLimit : Nat := 120

/-- A window is open for a second. Times are exact nanoseconds here. A clock that tells the seconds in
single precision rounds, so that a window may close up to thirty nanoseconds before its second is
over. -/
def windowLength : Nat := 1000000000

/-- How many clients are kept in mind, as long as some of them have been idle. -/
def maxClients : Nat := 4096

/-- A client that opened its last window ten seconds ago is idle, in exact nanoseconds as well. -/
def idleLength : Nat := 10000000000

/-- A guard with a limit of at least one. -/
def new (token : Option String) (limit : Nat) : Guard := ⟨token, max limit 1, ∅⟩

/-- The guard that two variables of the environment ask for. A blank token is none. -/
def ofEnvironment (token rate : Option String) : Guard :=
  new ((token.map Text.trimmed).filter fun token => !token.isEmpty)
    ((rate.bind fun rate => Text.naturalUpTo? Text.maxWord32 rate.toList).getD defaultLimit)

/-- What follows the word that announces a token, or all of it when the word is not there. -/
def bearer (value : List Char) : List Char :=
  ((Text.afterStart? "Bearer ".toList value).or (Text.afterStart? "bearer ".toList value)).getD value

/-- Whether a request carries the token. -/
def authorized (guard : Guard) (headers : List Header) : Bool :=
  match guard.token with
  | none => true
  | some token =>
    bearer (Header.credential headers "authorization") = token.toList ||
      Header.credential headers "x-api-key" = token.toList

/-- Who sent a request. -/
def client (headers : List Header) : String :=
  let address := (Header.find? headers "x-forwarded-for").or (Header.find? headers "x-real-ip")
  (address.bind Header.read?).getD "local"

/-- A window with one more request, opened anew when the last one is over. -/
def Window.counted (now : Nat) : Option Window → Window
  | none => ⟨now, 1⟩
  | some window =>
    if windowLength ≤ now - window.opened then ⟨now, 1⟩
    else ⟨window.opened, min (window.count + 1) Text.maxWord32⟩

/-- Forget the idle clients when there are too many clients. -/
def purge (now : Nat) (windows : Index Window) : Index Window :=
  if maxClients < windows.size then windows.filter fun window => now - window.opened < idleLength
  else windows

/-- Count a request of a client, and tell whether it is within the limit. -/
def allow (guard : Guard) (client : String) (now : Nat) : Guard × Bool :=
  let window := Window.counted now (guard.windows.get? client)
  ({ guard with windows := purge now (guard.windows.insert client window) },
    window.count ≤ guard.limit)

theorem allow_eq (guard : Guard) (client : String) (now : Nat) :
    (guard.allow client now).2 =
      decide ((Window.counted now (guard.windows.get? client)).count ≤ guard.limit) := rfl

theorem get?_purge (now : Nat) (windows : Index Window) (client : String) :
    (purge now windows).get? client =
      if maxClients < windows.size then
        (windows.get? client).filter fun window => now - window.opened < idleLength
      else windows.get? client := by
  unfold purge
  split
  · exact Index.get?_filter _ _ _
  · rfl

end Guard

end Arcade.Api
