/-
Reading anchors, tags and directives of a YAML text.

A tag is a handle and a suffix; the handle is empty for a tag that is given in
full. Suffixes may hold escaped bytes, which together are UTF-8.
-/
import RemoteCall.Bytes.Utf8
import RemoteCall.Yaml.Cursor
import RemoteCall.Yaml.Token

namespace RemoteCall.Yaml

/-! ## Anchors -/

/-- What may follow the name of an anchor, apart from a gap. -/
def followsName (c : Char) : Bool :=
  c == '?' || c == ':' || c == ',' || c == ']' || c == '\x7d' || c == '%' || c == '@'
    || c == '\x60'

/-- Reads the name of an anchor or an alias behind its mark. -/
def readName (c : Cursor) : Option (String × Cursor) :=
  let (name, after) := (c.skip 1).span isWordChar
  if name.isEmpty then none
  else if after.seesGap 0 || (after.peek? 0).any followsName then some (String.ofList name, after)
  else none

/-! ## Tags -/

/-- A character of a tag that stands for itself. -/
def isTagChar (verbatim : Bool) (c : Char) : Bool :=
  isWordChar c || ";/?:@&=+$.!~*'()".toList.contains c
    || (verbatim && (c == ',' || c == '[' || c == ']'))

/-- Reads an escaped byte. -/
def readByte (c : Cursor) : Option (UInt8 × Cursor) :=
  match c.rest with
  | '%' :: a :: b :: _ =>
    match Hex.value? a, Hex.value? b with
    | some x, some y => some (UInt8.ofNat (16 * x + y), c.skip 3)
    | _, _ => none
  | _ => none

/-- The bytes of the character that a byte starts; none for a byte that starts no character. -/
def sequenceLength? (lead : UInt8) : Option Nat :=
  if lead < 0x80 then some 1
  else if lead &&& 0xE0 == 0xC0 then some 2
  else if lead &&& 0xF0 == 0xE0 then some 3
  else if lead &&& 0xF8 == 0xF0 then some 4
  else none

/-- Reads `count` escaped bytes. -/
def readBytes : Nat → Cursor → Option (Bytes × Cursor)
  | 0, c => some ([], c)
  | count + 1, c => do
    let (b, c) ← readByte c
    let (rest, c) ← readBytes count c
    return (b :: rest, c)

/-- Reads the escaped bytes of one character. -/
def readEscapedChar (c : Cursor) : Option (List Char × Cursor) := do
  let (lead, after) ← readByte c
  let length ← sequenceLength? lead
  let (more, after) ← readBytes (length - 1) after
  let text ← Utf8.decode? (lead :: more)
  return (text, after)

/-- Reads the characters of a tag behind `seen`. -/
def readTagChars (verbatim : Bool) : Nat → List Char → Cursor → Option (List Char × Cursor)
  | 0, seen, c => some (seen, c)
  | fuel + 1, seen, c =>
    match c.peek? 0 with
    | none => some (seen, c)
    | some x =>
      if x == '%' then
        match readEscapedChar c with
        | none => none
        | some (text, c) => readTagChars verbatim fuel (seen ++ text) c
      else if isTagChar verbatim x then readTagChars verbatim fuel (seen ++ [x]) (c.skip 1)
      else some (seen, c)

/-- Reads the handle of a tag: two marks with a name in between, or one mark with a name that
belongs to the suffix. -/
def readHandle (c : Cursor) : Option (List Char × Cursor) :=
  if c.sees 0 '!' then
    let (name, after) := (c.skip 1).span isWordChar
    if after.sees 0 '!' then some ('!' :: name ++ ['!'], after.skip 1)
    else some ('!' :: name, after)
  else none

/-- A handle that ends with a mark of its own. -/
def isClosedHandle (handle : List Char) : Bool :=
  2 ≤ handle.length && handle.getLast? == some '!'

/-- Reads the two parts of a tag. -/
def readTagParts (c : Cursor) : Option (List Char × List Char × Cursor) :=
  if c.sees 1 '<' then do
    let (suffix, c) ← readTagChars true c.rest.length [] (c.skip 2)
    if suffix.isEmpty || !c.sees 0 '>' then none
    return ([], suffix, c.skip 1)
  else do
    let (handle, c) ← readHandle c
    if isClosedHandle handle then
      let (suffix, c) ← readTagChars false c.rest.length [] c
      if suffix.isEmpty then none
      return (handle, suffix, c)
    else
      let (suffix, c) ← readTagChars false c.rest.length (handle.drop 1) c
      if suffix.isEmpty then return ([], ['!'], c) else return (['!'], suffix, c)

/-- Reads a tag. -/
def readTag (inFlow : Bool) (c : Cursor) : Option (Token × Cursor) := do
  let (handle, suffix, c) ← readTagParts c
  if c.seesGap 0 || (inFlow && c.sees 0 ',') then
    return (.tag (String.ofList handle) (String.ofList suffix), c)
  else none

/-! ## Directives -/

/-- Reads a number of at most nine digits. -/
def readVersionNumber (c : Cursor) : Option (Nat × Cursor) :=
  let (digits, after) := c.span (·.isDigit)
  if digits.isEmpty || 9 < digits.length then none
  else some (digits.foldl (fun n d => 10 * n + (d.toNat - 48)) 0, after)

/-- Reads what follows the name of a version directive. -/
def readVersion (c : Cursor) : Option (Token × Cursor) := do
  let (major, c) ← readVersionNumber (c.skipWhile isBlank)
  if !c.sees 0 '.' then none
  let (minor, c) ← readVersionNumber (c.skip 1)
  return (.versionDirective major minor, c)

/-- Reads what follows the name of a tag directive. -/
def readTagDirective (c : Cursor) : Option (Token × Cursor) := do
  let (handle, c) ← readHandle (c.skipWhile isBlank)
  if !(isClosedHandle handle || handle == ['!']) || !c.seesBlank 0 then none
  let c := c.skipWhile isBlank
  let (start, c) ← readTagChars true c.rest.length [] c
  if start.isEmpty || !c.seesGap 0 then none
  return (.tagDirective (String.ofList handle) (String.ofList start), c)

/-- Reads a directive with the line that it stands on. -/
def readDirective (c : Cursor) : Option (Token × Cursor) := do
  let (name, c) := (c.skip 1).span isWordChar
  if name.isEmpty || !c.seesGap 0 then none
  let (token, c) ← (match String.ofList name with
    | "YAML" => readVersion c
    | "TAG" => readTagDirective c
    | _ => none)
  let c := (c.skipWhile isBlank).skipComment
  if !c.seesEnd 0 then none
  return (token, c.takeBreak.2)

end RemoteCall.Yaml
