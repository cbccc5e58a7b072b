import Arcade.Api.Command
import Arcade.Api.Guard
import Arcade.Api.Query

/-! Requests over the network. A request passes the guard, finds its route, has its query and its
body read, and becomes a command whose reply is its answer. -/

namespace Arcade.Api

structure Request where
  method : String
  path : List Char
  query : List Char
  headers : List Header
  body : String

/-- Why a request has no result. -/
inductive Failure where
  | unauthorized
  | tooMany
  | invalidSpec (error : SpecError)
  | rejected (error : StartError)
  | idle
  /-- There is no game to ask. -/
  | unplugged
  /-- The game went away before it answered. -/
  | abandoned

namespace Failure

/-- What precedes the message about a document that is no game. -/
def invalidSpecPrefix : String := "Invalid spec: "

def message : Failure → String
  | unauthorized => "Unauthorized: send Authorization: Bearer <PLAYSPEC_API_TOKEN>"
  | tooMany => "Rate limit exceeded"
  | invalidSpec error => invalidSpecPrefix ++ error.message
  | rejected error => error.message
  | idle => "No game running"
  | unplugged => "Game loop not running"
  | abandoned => "Channel closed"

end Failure

/-- What a request brings back. -/
inductive Result (S T : Type) where
  | started (session : Session)
  | stopped (running : Bool)
  | status (status : Status T)
  | spec (spec : Spec S)
  | events (events : List (Event Signal))

inductive Content (S T : Type) where
  | empty
  | text (message : String)
  | answer (outcome : Except Failure (Result S T))

structure Response (S T : Type) where
  status : Nat
  content : Content S T

/-- What a request leads to: an answer at once, or a command. -/
inductive Outcome (S T : Type) where
  | done (response : Response S T)
  | ask (command : Command S)

inductive Route where
  | start
  | stop
  | status
  | spec
  | events
  deriving DecidableEq

namespace Route

def paths : List (String × Route) :=
  [("/game", start), ("/game/stop", stop), ("/game/state", status), ("/game/spec", spec),
    ("/events", events)]

/-- Whether a route changes the game. -/
def changes : Route → Bool
  | start => true
  | stop => true
  | _ => false

/-- The methods of a route. What can be read can also be read without its content. -/
def allows (route : Route) (method : String) : Bool :=
  if route.changes then method = "POST" else method = "GET" || method = "HEAD"

end Route

namespace Request

/-- The route that a request finds. -/
def route? (request : Request) : Option Route :=
  lookup? (String.ofList request.path) Route.paths

/-- Whether a request wants an answer without content. Only routes know of such requests. -/
def headOnly (request : Request) : Bool := request.method = "HEAD" && request.route?.isSome

end Request

namespace Response

variable {S T : Type}

/-- The largest body of a request, in bytes. -/
def maxBody : Nat := 2097152

def failure (status : Nat) (failure : Failure) : Response S T := ⟨status, .answer (.error failure)⟩

def badQuery : Response S T := ⟨400, .text "Failed to deserialize query string"⟩

/-- The answer that a reply makes. -/
def ofReply : Reply S T → Response S T
  | .started (.ok session) => ⟨200, .answer (.ok (.started session))⟩
  | .started (.error error) => failure 200 (.rejected error)
  | .stopped running => ⟨200, .answer (.ok (.stopped running))⟩
  | .status status => ⟨200, .answer (.ok (.status status))⟩
  | .spec (some spec) => ⟨200, .answer (.ok (.spec spec))⟩
  | .spec none => failure 200 .idle
  | .events events => ⟨200, .answer (.ok (.events events))⟩

/-- The answer as it is sent to a request. -/
def sentTo (response : Response S T) (request : Request) : Response S T :=
  if request.headOnly then { response with content := .empty } else response

end Response

variable {S T : Type} [Scalar S]

/-- Read what the start of a game asks for: the query before the body. -/
def readStart (request : Request) : Outcome S T :=
  let entries := Query.entries request.query
  match Query.text? entries "scene", Query.number? entries "seed" with
  | some scene, some seed =>
    if request.body.utf8ByteSize > Response.maxBody then
      .done ⟨413, .text "Failed to buffer the request body: length limit exceeded"⟩
    else
      match Spec.ofText request.body with
      | .ok spec => .ask (.start spec ⟨scene, seed⟩)
      | .error error => .done (.failure 200 (.invalidSpec error))
  | _, _ => .done .badQuery

def readEvents (request : Request) : Outcome S T :=
  let entries := Query.entries request.query
  match Query.number? entries "since", Query.text? entries "name" with
  | some since, some name => .ask (.events since name)
  | _, _ => .done .badQuery

/-- What a request asks for, once it has passed the guard. -/
def readRoute (request : Request) : Outcome S T :=
  match request.route? with
  | none => .done ⟨404, .empty⟩
  | some route =>
    if route.allows request.method then
      match route with
      | .start => readStart request
      | .stop => .ask .stop
      | .status => .ask .status
      | .spec => .ask .spec
      | .events => readEvents request
    else .done ⟨405, .empty⟩

/-- Let a request pass the guard and read it. -/
def receive (guard : Guard) (request : Request) (now : Nat) : Guard × Outcome S T :=
  if guard.authorized request.headers then
    let (guard, admitted) := guard.allow (Guard.client request.headers) now
    if admitted then (guard, readRoute request) else (guard, .done (.failure 429 .tooMany))
  else (guard, .done (.failure 401 .unauthorized))

/-- What follows the host of an address. An address that starts with a slash has no host. -/
def afterHost (address : List Char) : List Char :=
  if address.head? = some '/' then address
  else
    match Text.splitOnce? "://".toList address with
    | some (_, rest) => rest.dropWhile (· ≠ '/')
    | none => address

/-- The path and the query of an address. A host in front and a fragment behind do not count. -/
def splitAddress (address : List Char) : List Char × List Char :=
  let (beforeQuery, query) := (address.takeWhile (· ≠ '#')).span (· ≠ '?')
  (afterHost beforeQuery, query.drop 1)

end Arcade.Api
