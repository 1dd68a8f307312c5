/-
The types that methods declare for parameters and results.

A type is known to both sides by its name. `ValueType.convert` reads a received
value as the declared type and gives it back in the form that the type writes.
-/
import RemoteCall.Json.Shape

namespace RemoteCall

/-- A declared type. -/
inductive ValueType where
  | string
  | int32
  | int64
  | uint64
  | uint8
  | double
  | boolean
  | unit
  | optionalString
  | int64List
  | stringInt32Pair
  | value
deriving DecidableEq, Repr

namespace ValueType

/-- The name that stands for the type. -/
def name : ValueType → String
  | string => "alloc::string::String"
  | int32 => "i32"
  | int64 => "i64"
  | uint64 => "u64"
  | uint8 => "u8"
  | double => "f64"
  | boolean => "bool"
  | unit => "()"
  | optionalString => "core::option::Option<alloc::string::String>"
  | int64List => "alloc::vec::Vec<i64>"
  | stringInt32Pair => "(alloc::string::String, i32)"
  | value => "serde_json::value::Value"

open Json (Shape) in
/-- Reads a value as one of the type. -/
def convert : ValueType → Shape Json
  | string => fun v => (Shape.string v).map .str
  | int32 => fun v => (Shape.int32 v).map fun n => .int n.toInt
  | int64 => fun v => (Shape.int64 v).map fun n => .int n.toInt
  | uint64 => fun v => (Shape.uint64 v).map fun n => .int n.toNat
  | uint8 => fun v => (Shape.uint8 v).map fun n => .int n.toNat
  | double => fun v => (Shape.double v).map .float
  | boolean => fun v => (Shape.boolean v).map .bool
  | unit => fun v => (Shape.unit v).map fun _ => .null
  | optionalString => fun v => (Shape.option Shape.string v).map (Json.ofOption .str)
  | int64List => fun v =>
    (Shape.list Shape.int64 v).map fun ns => .arr (ns.map fun n => .int n.toInt)
  | stringInt32Pair => fun v =>
    (Shape.pair Shape.string Shape.int32 v).map fun (s, n) => .arr [.str s, .int n.toInt]
  | value => Shape.any

end ValueType

end RemoteCall
