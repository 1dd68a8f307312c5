/-
Reading typed values out of a document.

A `Reading` follows aliases as it comes to them, up to a hundred for each place of
the document in all, so that a document of nested aliases cannot grow without
bound. Failing means that the document does not have the shape asked for.
-/
import RemoteCall.Attributes
import RemoteCall.Yaml.Lexer
import RemoteCall.Yaml.Node
import RemoteCall.Yaml.Schema

namespace RemoteCall.Yaml

/-- The document of a text in bytes, if it has a reading. -/
def Document.ofBytes? (bytes : Bytes) : Option Document := do
  let text ← Utf8.decode? bytes
  let tokens ← tokens? text
  Document.ofTokens? tokens

/-- A reading of a document, with the number of aliases that may still be followed. -/
abbrev Reading := ReaderT Document (StateT Nat Option)

namespace Reading

/-- How many aliases may be followed. -/
def aliasBudget (d : Document) : Nat := 100 * d.size

/-- What a reading makes of a document. -/
def run? {α : Type} (reading : Reading α) (d : Document) : Option α :=
  ((ReaderT.run reading d).run (aliasBudget d)).map (·.1)

/-- A node, or the one that it is an alias of. -/
def resolve : Node → Reading Node
  | .alias anchor => do
    let budget ← get
    if budget = 0 then failure
    set (budget - 1)
    match (← read).node? anchor with
    | some n => return n
    | none => failure
  | n => return n

end Reading

/-- A typed reading of a node. -/
abbrev Shape (α : Type) := Node → Reading α

/-- The tag of whole numbers. -/
def integerTag : String := "tag:yaml.org,2002:int"

/-- The tag of null. -/
def nullTag : String := "tag:yaml.org,2002:null"

namespace Shape

/-- The text of any scalar. -/
def string : Shape String := fun node => do
  match ← Reading.resolve node with
  | .scalar text _ _ => return text
  | _ => failure

/-- A scalar that may be read as a number: a plain one, or a literal one with the tag of whole
numbers. -/
def isNumeral (style : ScalarStyle) (tag : Option String) : Bool :=
  style == .plain || (style == .literal && tag == some integerTag)

/-- A whole number from `low` to `high`. -/
def whole (low high : Int) : Shape Int := fun node => do
  match ← Reading.resolve node with
  | .scalar text style tag =>
    match whole? text.toList with
    | some n => if isNumeral style tag && low ≤ n && n ≤ high then return n else failure
    | none => failure
  | _ => failure

/-- A signed number of 64 bits. -/
def int64 : Shape Int64 := fun node =>
  return Int64.ofInt (← whole Int64.minValue.toInt Int64.maxValue.toInt node)

/-- A signed number of 32 bits. -/
def int32 : Shape Int32 := fun node =>
  return Int32.ofInt (← whole Int32.minValue.toInt Int32.maxValue.toInt node)

/-- Whether a scalar stands for something. A plain one stands for nothing when it is empty or
null, and one with the tag of null has to be null. -/
def isPresent (text : String) (style : ScalarStyle) (tag : Option String) : Reading Bool :=
  if style != .plain then return true
  else match tag with
    | none => return !(text == "" || isNull text)
    | some t =>
      if t != nullTag then return true
      else if isNull text then return false
      else failure

/-- Something of the inner shape, or nothing. -/
def option {α : Type} (inner : Shape α) : Shape (Option α) := fun node => do
  match ← Reading.resolve node with
  | .scalar text style tag =>
    if ← isPresent text style tag then return some (← inner (.scalar text style tag))
    else return none
  | n => return some (← inner n)

/-- The entries of a mapping; a missing value has none. -/
def mapping : Shape (List (Node × Node)) := fun node => do
  match ← Reading.resolve node with
  | .mapping _ entries => return entries
  | .scalar "" .plain _ => return []
  | _ => failure

/-- A mapping from names, the last of equal names winning. -/
def table {α : Type} (inner : Shape α) : Shape (Table α) := fun node => do
  let entries ← mapping node
  entries.foldlM (fun table (k, v) => do
    let name ← string k
    let x ← inner v
    return table.insert name x) ∅

end Shape

/-- One field of a record of type `α`. -/
structure Field (α : Type) where
  name : String
  /-- Reads the field and puts it into the record. -/
  read : Node → α → Reading α

/-- A field that is put into the record by `put`. -/
def Field.of {α β : Type} (name : String) (shape : Shape β) (put : β → α → α) : Field α where
  name := name
  read node record := return put (← shape node) record

/-- Reads entries into a record; the names in `seen` have been read. Unknown names are left
alone, and a known one may stand only once. -/
def readFields {α : Type} (fields : List (Field α)) :
    List String → List (Node × Node) → α → Reading α
  | _, [], record => return record
  | seen, (k, v) :: rest, record => do
    let name ← Shape.string k
    match fields.find? (·.name == name) with
    | none => readFields fields seen rest record
    | some field =>
      if seen.contains name then failure
      let record ← field.read v record
      readFields fields (name :: seen) rest record

/-- A record with the given fields, read behind the defaults `start`. -/
def Shape.record {α : Type} (fields : List (Field α)) (start : α) : Shape α := fun node => do
  readFields fields [] (← mapping node) start

end RemoteCall.Yaml
