/-
Why a value does not fit the shape asked of it.

A `Mismatch` names the cause; `Mismatch.message` puts it into words. What was
found is told by its kind, together with the value for booleans, numbers and
strings.
-/
import RemoteCall.Json.Printer
import RemoteCall.Text.Quoted

namespace RemoteCall.Json

/-- Why a value does not have the shape that `expected` describes. -/
inductive Mismatch where
  /-- The value is of another kind. -/
  | kind (found : Json) (expected : String)
  /-- The number is of the right kind, but out of range. -/
  | range (found : Int) (expected : String)
  /-- A field has to be there. -/
  | missing (field : String)
  /-- There are fewer items than needed. -/
  | tooFew (count : Nat) (expected : String)
  /-- There are more items than the shape has places. -/
  | tooMany (count : Nat)

/-- What was found, in words. -/
def describe : Json → String
  | .null => "null"
  | .bool b => "boolean `" ++ (if b then "true" else "false") ++ "`"
  | .int n => "integer `" ++ toString n ++ "`"
  | .float x => "floating point `" ++ renderFloat x ++ "`"
  | .str s => "string " ++ Text.quoted s
  | .arr _ => "sequence"
  | .obj _ => "map"

/-- The cause in words. -/
def Mismatch.message : Mismatch → String
  | .kind found expected => "invalid type: " ++ found.describe ++ ", expected " ++ expected
  | .range found expected =>
    "invalid value: integer `" ++ toString found ++ "`, expected " ++ expected
  | .missing field => "missing field `" ++ field ++ "`"
  | .tooFew count expected =>
    "invalid length " ++ toString count ++ ", expected " ++ expected
  | .tooMany count =>
    "invalid length " ++ toString count ++ ", expected fewer elements in array"

end RemoteCall.Json
