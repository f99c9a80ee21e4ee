import TypeGraph.Json.Basic
import TypeGraph.Json.Number
import TypeGraph.Text.Escaped

/-!
# Faults of a Json value

Why a value cannot be read as what was asked for, and the wording of each cause.
-/

namespace TypeGraph.Json

/-- Why a value is not of the expected form. -/
inductive Fault where
  /-- A value of another kind. -/
  | wrongType (found : Json) (expected : String)
  /-- A value of the right kind that is out of range. -/
  | wrongValue (found : Json) (expected : String)
  /-- A variant that needs a value was given without one. -/
  | bareVariant
  /-- A list of the wrong length. -/
  | wrongLength (length : Nat) (expected : String)
  | missingField (name : String)
  | unknownVariant (name : String) (known : List String)

/-- How messages refer to a value. -/
def describe : Json → String
  | .null => "null"
  | .bool true => "boolean `true`"
  | .bool false => "boolean `false`"
  | .int n => "integer `" ++ toString n ++ "`"
  | .float x => "floating point `" ++ Number.floatText x ++ "`"
  | .text s => "string " ++ Text.quoted s
  | .list _ => "sequence"
  | .object _ => "map"

/-- A name between back quotes. -/
def ticked (name : String) : String := "`" ++ name ++ "`"

/-- The choice among some names, in words. -/
def choice : List String → String
  | [] => "there are no variants"
  | [a] => "expected " ++ ticked a
  | [a, b] => "expected " ++ ticked a ++ " or " ++ ticked b
  | names => "expected one of " ++ String.intercalate ", " (names.map ticked)

/-- The wording of a fault. -/
def Fault.message : Fault → String
  | .wrongType found expected =>
    "invalid type: " ++ describe found ++ ", expected " ++ expected
  | .wrongValue found expected =>
    "invalid value: " ++ describe found ++ ", expected " ++ expected
  | .bareVariant => "invalid type: unit variant, expected newtype variant"
  | .wrongLength length expected =>
    "invalid length " ++ toString length ++ ", expected " ++ expected
  | .missingField name => "missing field " ++ ticked name
  | .unknownVariant name known => "unknown variant " ++ ticked name ++ ", " ++ choice known

end TypeGraph.Json
