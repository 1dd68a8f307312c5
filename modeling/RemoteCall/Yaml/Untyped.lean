/-
Reading untyped values out of a document.

The tags of the core schema decide what kind of value a scalar is. Collections may
be nested up to 128 deep, and a mapping holds no key twice.
-/
import RemoteCall.Yaml.Reading
import RemoteCall.Yaml.Value

namespace RemoteCall.Yaml

namespace Value

/-- How deep collections may be nested. -/
def depthLimit : Nat := 128

/-- A whole number: one that is neither a word of 64 bits without sign nor one with a sign, but
has at most 128 bits, is refused. -/
def ofWhole (n : Int) : Reading Value :=
  if Int64.minValue.toInt ≤ n ∧ n < UInt64.size then return .int n else failure

/-- How many numbers of 128 bits there are. -/
def size128 : Nat := UInt64.size * UInt64.size

/-- The whole number of a text, if there is one of at most 128 bits. -/
def whole128? (text : String) : Option Int :=
  (whole? text.toList).filter fun n => -(size128 / 2 : Nat) ≤ n && n < size128

/-- The value of a plain scalar without a tag. -/
def ofPlain (text : String) : Reading Value :=
  if text == "" || isNull text then return .null
  else match truth? text with
    | some b => return .bool b
    | none =>
      match whole128? text with
      | some n => ofWhole n
      | none =>
        match (if isPadded text.toList then none else float? text) with
        | some x => return .float x
        | none => return .string text

/-- The value that a tag of the core schema makes of a text; none for other tags. -/
def ofCoreTag (tag text : String) : Option (Reading Value) :=
  if tag = "tag:yaml.org,2002:bool" then
    some (match truth? text with
      | some b => return .bool b
      | none => failure)
  else if tag = integerTag then
    some (match whole128? text with
      | some n => ofWhole n
      | none => failure)
  else if tag = "tag:yaml.org,2002:float" then
    some (match float? text with
      | some x => return .float x
      | none => failure)
  else if tag = nullTag then
    some (if isNull text then return .null else failure)
  else none

/-- The name of a local tag: what stands behind its mark, if anything does. -/
def localTag? (tag : Option String) : Option String :=
  match tag.map String.toList with
  | some ['!'] => some "!"
  | some ('!' :: rest) => some (String.ofList rest)
  | _ => none

/-- A value under its local tag. -/
def withTag (tag : Option String) (v : Value) : Value :=
  match localTag? tag with
  | some name => .tagged name v
  | none => v

/-- The value of a scalar. -/
def ofScalar (text : String) (style : ScalarStyle) (tag : Option String) : Reading Value :=
  let bare := if style == .plain then ofPlain text else return .string text
  match tag with
  | none => bare
  | some t =>
    match localTag? tag with
    | some _ => return withTag tag (← bare)
    | none =>
      match ofCoreTag t text with
      | some reading => reading
      | none => return .string text

/-- Puts the entries of a mapping behind `seen`, unless a key stands twice. -/
def distinct : List (Value × Value) → List (Value × Value) → Option (List (Value × Value))
  | seen, [] => some seen.reverse
  | seen, (k, v) :: rest =>
    if seen.any fun (other, _) => same other k then none else distinct ((k, v) :: seen) rest

/-- Reads a value with collections nested up to a depth. -/
def ofNode : Nat → Shape Value
  | 0, node => do
    match ← Reading.resolve node with
    | .scalar text style tag => ofScalar text style tag
    | _ => failure
  | depth + 1, node => do
    match ← Reading.resolve node with
    | .scalar text style tag => ofScalar text style tag
    | .sequence tag items => return withTag tag (.sequence (← items.mapM (ofNode depth)))
    | .mapping tag entries =>
      let read ← entries.mapM fun (k, v) => return (← ofNode depth k, ← ofNode depth v)
      match distinct [] read with
      | some entries => return withTag tag (.mapping entries)
      | none => failure
    | .alias _ => failure

/-- The value of a document; null for an empty one. -/
def ofDocument (d : Document) : Option Value :=
  match d.root with
  | none => some .null
  | some n => (ofNode depthLimit n).run? d

end Value

/-- Documents with the tags of the core schema. -/
def Format.core : Format where
  value? bytes := (Document.ofBytes? bytes).bind Value.ofDocument
  floatText := renderFloat

theorem Format.value?_core (bytes : Bytes) :
    Format.core.value? bytes = (Document.ofBytes? bytes).bind Value.ofDocument := rfl

end RemoteCall.Yaml
