/-
Untyped values: what parameters, results and error descriptors are made of.

Whole numbers are exact; any other number is a double. The fields of an object
are kept in strictly ascending order of their names, and `Json.object` builds
that order from fields in any order, the last of equal names winning. The order
on names is that of their code points, which is also the order of their UTF-8
bytes.
-/
import RemoteCall.Decimal.Shortest

namespace RemoteCall

/-- An untyped value. -/
inductive Json where
  | null
  | bool (value : Bool)
  | int (value : Int)
  | float (value : Float)
  | str (value : String)
  | arr (items : List Json)
  | obj (fields : List (String × Json))
deriving Inhabited

namespace Json

/-- Puts a field into fields in ascending order; a field of the same name gives way. -/
def insertField (name : String) (value : Json) : List (String × Json) → List (String × Json)
  | [] => [(name, value)]
  | (n, v) :: rest =>
    if name < n then (name, value) :: (n, v) :: rest
    else if name = n then (name, value) :: rest
    else (n, v) :: insertField name value rest

/-- An object of the given fields. -/
def object (fields : List (String × Json)) : Json :=
  .obj (fields.foldl (fun sorted (name, value) => insertField name value sorted) [])

/-- The value of a field of an object. -/
def field? (name : String) : Json → Option Json
  | .obj fields => fields.lookup name
  | _ => none

/-- The value of a field of an object, a missing one counting as `null`. -/
def field (name : String) (value : Json) : Json :=
  (value.field? name).getD .null

/-- The text, for a string. -/
def string? : Json → Option String
  | .str s => some s
  | _ => none

/-- The number, for a whole number. -/
def integer? : Json → Option Int
  | .int n => some n
  | _ => none

/-- The items of an array; none for any other value. -/
def items : Json → List Json
  | .arr xs => xs
  | _ => []

/-- The fields of an object; none for any other value. -/
def fields : Json → List (String × Json)
  | .obj fs => fs
  | _ => []

/-- `null` for nothing. -/
def ofOption {α : Type} (render : α → Json) : Option α → Json
  | none => .null
  | some x => render x

end Json

end RemoteCall
