import Arcade.Json.Draft
import Arcade.Number.Shortest
import Arcade.Text.Quoted

/-! Why a document cannot be read: its text is no JSON, or it does not fit what was asked. -/

namespace Arcade

/-- A well-formed document of the wrong shape. -/
inductive Misfit where
  | wrongType (found : Found) (expected : String)
  | wrongValue (found : Found) (expected : String)
  | wrongLength (length : Nat) (expected : String)
  | missingField (name : String)
  | duplicateField (name : String)
  | unknownVariant (name : String) (known : List String)

inductive JsonError where
  | breach (kind : Breach)
  | misfit (what : Misfit)

namespace Found

def describe : Found → String
  | null => "null"
  | bool value => "boolean `" ++ (if value then "true" else "false") ++ "`"
  | number (.int value) => "integer `" ++ toString value ++ "`"
  | number (.float value) => "floating point `" ++ Number.shortestText value ++ "`"
  | string value => "string " ++ Text.quoted value
  | sequence => "sequence"
  | map => "map"

end Found

namespace Misfit

private def ticked (name : String) : String := "`" ++ name ++ "`"

/-- The choices of a closed set of names. -/
def choices : List String → String
  | [] => "there are no variants"
  | [only] => "expected " ++ ticked only
  | [first, second] => "expected " ++ ticked first ++ " or " ++ ticked second
  | names => "expected one of " ++ ", ".intercalate (names.map ticked)

def message : Misfit → String
  | wrongType found expected => "invalid type: " ++ found.describe ++ ", expected " ++ expected
  | wrongValue found expected => "invalid value: " ++ found.describe ++ ", expected " ++ expected
  | wrongLength length expected =>
    "invalid length " ++ toString length ++ ", expected " ++ expected
  | missingField name => "missing field " ++ ticked name
  | duplicateField name => "duplicate field " ++ ticked name
  | unknownVariant name known => "unknown variant " ++ ticked name ++ ", " ++ choices known

end Misfit

/-- A count with its noun, as messages about lengths have it. -/
def countOf (n : Nat) (one many : String) : String :=
  toString n ++ " " ++ if n = 1 then one else many

end Arcade
