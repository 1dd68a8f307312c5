/-
Reading typed values out of untyped ones.

A scalar reader accepts one kind of value. A record reader accepts an object,
whose fields it takes in the order of their names and whose unknown fields it
ignores, or an array that gives the fields by position; it starts from a record
of defaults, which stay in the fields that are not given. A field without a
default has to be there.
-/
import RemoteCall.Json.Mismatch

namespace RemoteCall.Json

/-- A typed reading of a value. -/
abbrev Shape (α : Type) := Json → Except Mismatch α

namespace Shape

/-- Any value. -/
def any : Shape Json := .ok

/-- A string. -/
def string : Shape String
  | .str s => .ok s
  | v => .error (.kind v "a string")

/-- Either truth value. -/
def boolean : Shape Bool
  | .bool b => .ok b
  | v => .error (.kind v "a boolean")

/-- A whole number from `low` to `high`; `expected` names the range. -/
def whole (low high : Int) (expected : String) : Shape Int
  | .int n => if low ≤ n ∧ n ≤ high then .ok n else .error (.range n expected)
  | v => .error (.kind v expected)

/-- A signed number of 64 bits. -/
def int64 : Shape Int64 := fun v =>
  (whole Int64.minValue.toInt Int64.maxValue.toInt "i64" v).map Int64.ofInt

/-- A signed number of 32 bits. -/
def int32 : Shape Int32 := fun v =>
  (whole Int32.minValue.toInt Int32.maxValue.toInt "i32" v).map Int32.ofInt

/-- A number of 64 bits without sign. -/
def uint64 : Shape UInt64 := fun v =>
  (whole 0 (UInt64.size - 1 : Nat) "u64" v).map fun n => UInt64.ofNat n.toNat

/-- A number of 16 bits without sign. -/
def uint16 : Shape UInt16 := fun v =>
  (whole 0 (UInt16.size - 1 : Nat) "u16" v).map fun n => UInt16.ofNat n.toNat

/-- A number of 8 bits without sign. -/
def uint8 : Shape UInt8 := fun v =>
  (whole 0 (UInt8.size - 1 : Nat) "u8" v).map fun n => UInt8.ofNat n.toNat

/-- A double; whole numbers count as one. -/
def double : Shape Float
  | .float x => .ok x
  | .int n =>
    .ok (if n < 0 then -(UInt64.ofNat n.natAbs).toFloat else (UInt64.ofNat n.toNat).toFloat)
  | v => .error (.kind v "f64")

/-- `null` only. -/
def unit : Shape Unit
  | .null => .ok ()
  | v => .error (.kind v "unit")

/-- `null` for nothing, or a value of the inner shape. -/
def option {α : Type} (inner : Shape α) : Shape (Option α)
  | .null => .ok none
  | v => (inner v).map some

/-- An array of any length. -/
def list {α : Type} (inner : Shape α) : Shape (List α)
  | .arr xs => xs.mapM inner
  | v => .error (.kind v "a sequence")

/-- An array of two. -/
def pair {α β : Type} (first : Shape α) (second : Shape β) : Shape (α × β)
  | .arr [] => .error (.tooFew 0 "a tuple of size 2")
  | .arr [x] => do
    let _ ← first x
    .error (.tooFew 1 "a tuple of size 2")
  | .arr (x :: y :: rest) => do
    let a ← first x
    let b ← second y
    if rest.isEmpty then .ok (a, b) else .error (.tooMany (rest.length + 2))
  | v => .error (.kind v "a tuple of size 2")

/-- An object that maps names to values of the inner shape, in the order of the names. -/
def entries {α : Type} (inner : Shape α) : Shape (List (String × α))
  | .obj fields => fields.mapM fun (name, v) => do
    let x ← inner v
    return (name, x)
  | v => .error (.kind v "a map")

end Shape

/-- One field of a record of type `α`. -/
structure Field (α : Type) where
  name : String
  required : Bool
  /-- Reads the field and puts it into the record. -/
  read : Json → α → Except Mismatch α

/-- A field that may be left out. -/
def Field.optional {α β : Type} (name : String) (shape : Shape β) (put : β → α → α) : Field α where
  name := name
  required := false
  read v record := (shape v).map (put · record)

/-- A field that has to be there. -/
def Field.needed {α β : Type} (name : String) (shape : Shape β) (put : β → α → α) : Field α where
  name := name
  required := true
  read v record := (shape v).map (put · record)

/-- Takes from `given` what fits into a record; unknown names and values of another kind are
left. -/
def takeFields {α : Type} (fields : List (Field α)) (given : List (String × Json))
    (record : α) : α :=
  given.foldl (fun record (name, v) =>
    match fields.find? (·.name == name) with
    | none => record
    | some field => (field.read v record).toOption.getD record) record

/-- Fields by position: `position` of them have been read. -/
def readPositions {α : Type} (title : String) (count total : Nat) :
    Nat → List (Field α) → List Json → α → Except Mismatch α
  | _, [], [], record => .ok record
  | _, [], _ :: _, _ => .error (.tooMany total)
  | position, field :: fields, [], record =>
    if field.required then
      .error (.tooFew position (title ++ " with " ++ toString count ++ " elements"))
    else readPositions title count total (position + 1) fields [] record
  | position, field :: fields, v :: values, record => do
    let record ← field.read v record
    readPositions title count total (position + 1) fields values record

/-- A record called `title` with the given fields, read behind the defaults `start`. -/
def Shape.record {α : Type} (title : String) (fields : List (Field α)) (start : α) : Shape α
  | .obj given => do
    let record ← given.foldlM (fun record (name, v) =>
      match fields.find? (·.name == name) with
      | none => .ok record
      | some field => field.read v record) start
    match fields.find? fun field => field.required && (given.lookup field.name).isNone with
    | some field => .error (.missing field.name)
    | none => .ok record
  | .arr values => readPositions title fields.length values.length 0 fields values start
  | v => .error (.kind v title)

end RemoteCall.Json
