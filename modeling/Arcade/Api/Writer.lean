import Arcade.Api.Request
import Arcade.Json.Printer
import Arcade.Spec.Writer

/-! Answers as JSON. Every answer tells whether it went well, and then has data or an error. -/

namespace Arcade

def Session.toJson (session : Session) : Json :=
  .object [("generation", .ofNat session.generation), ("scene", .string session.scene),
    ("title", .string session.title)]

/-- An event. Its source is a number that tells actors apart. -/
def Event.toJson (event : Event Signal) : Json :=
  let number (handle : Handle) : Json := .ofNat (handle.generation * 0x100000000 + handle.index)
  .object [("name", .string event.signal.name), ("data", event.signal.data),
    ("frame", .ofNat event.frame), ("source_entity", .ofOption number event.source)]

namespace Api

variable {S T : Type} [Scalar S] [Scalar T]

def Status.toJson (status : Status T) : Json :=
  .object [("running", .bool status.running), ("title", .ofOption .string status.title),
    ("scene", .ofOption .string status.scene),
    ("generation", .ofOption .ofNat status.generation), ("score", .int status.score),
    ("game_over", .bool status.ended), ("objects", .ofNat status.objects),
    ("elapsed_ms", Spec.scalarJson status.elapsed),
    ("diagnostics", Spec.stringsJson status.diagnostics)]

def Result.toJson : Result S T → Json
  | .started game => game.toJson
  | .stopped running => .bool running
  | .status standing => standing.toJson
  | .spec game => game.toJson
  | .events log => .array (log.map Event.toJson)

/-- The outcome of a request. -/
def outcomeJson : Except Failure (Result S T) → Json
  | .ok result => .object [("ok", .bool true), ("data", result.toJson)]
  | .error failure => .object [("ok", .bool false), ("error", .string failure.message)]

/-- The text of an answer. -/
def Content.written : Content S T → String
  | .empty => ""
  | .text message => message
  | .answer outcome => (outcomeJson outcome).compress

end Api

end Arcade
