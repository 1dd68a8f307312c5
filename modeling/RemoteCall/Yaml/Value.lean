/-
Untyped values of a YAML document.

A value keeps local tags. What a text in bytes has as its value, and how a number
is printed, is up to the format that it is written in.
-/
import RemoteCall.Bytes.Utf8

namespace RemoteCall.Yaml

/-- An untyped value. -/
inductive Value where
  | null
  | bool (value : Bool)
  | int (value : Int)
  | float (value : Float)
  | string (text : String)
  | sequence (items : List Value)
  | mapping (entries : List (Value × Value))
  | tagged (tag : String) (value : Value)
deriving Inhabited

namespace Value

/-- Two doubles count as one key. -/
def sameFloat (x y : Float) : Bool := x == y || (x.isNaN && y.isNaN)

mutual

/-- Two values count as one key. -/
def same : Value → Value → Bool
  | .null, .null => true
  | .bool a, .bool b => a == b
  | .int a, .int b => a == b
  | .float a, .float b => sameFloat a b
  | .string a, .string b => a == b
  | .sequence a, .sequence b => sameItems a b
  | .mapping a, .mapping b => a.length == b.length && allFound a b
  | .tagged s a, .tagged t b => s == t && same a b
  | _, _ => false

/-- Two lists of values are the same item by item. -/
def sameItems : List Value → List Value → Bool
  | [], [] => true
  | a :: as, b :: bs => same a b && sameItems as bs
  | _, _ => false

/-- Every entry is found among others. -/
def allFound : List (Value × Value) → List (Value × Value) → Bool
  | [], _ => true
  | (k, v) :: rest, others => foundIn k v others && allFound rest others

/-- An entry is found among others. -/
def foundIn (k v : Value) : List (Value × Value) → Bool
  | [] => false
  | (l, w) :: rest => (same k l && same v w) || foundIn k v rest

end

/-- The value without its tags. -/
def untagged : Value → Value
  | .tagged _ v => untagged v
  | v => v

/-- The value under a name; null if the value is no mapping, or has no such name. -/
def get (v : Value) (name : String) : Value :=
  match v.untagged with
  | .mapping entries =>
    ((entries.find? fun (k, _) => same k (.string name)).map (·.2)).getD .null
  | _ => .null

end Value

/-! ## Formats -/

/-- How documents are written. -/
structure Format where
  /-- The value of a text in bytes, if it has one. -/
  value? : Bytes → Option Value
  /-- What a number with a fraction is printed as. -/
  floatText : Float → String

/-- The text of a scalar: none for null, and nothing at all for other values. -/
def Format.scalarText? (format : Format) : Value → Option (Option String)
  | .null => some none
  | .bool b => some (some (if b then "true" else "false"))
  | .int n => some (some (toString n))
  | .float x => some (some (format.floatText x))
  | .string text => some (some text)
  | _ => none

end RemoteCall.Yaml
