/-
Reading JSON text.

`Json.parse` takes exactly one value with white space around it. The refusal
tells a text that ended inside a value from any other fault. Strings have to be
UTF-8 without raw control characters, escapes of surrogates come in pairs, and
values nest at most 127 deep: the depth that is left drives the recursion.
-/
import RemoteCall.Json.Number

namespace RemoteCall.Json

/-- Drops spaces, tabs and line ends. -/
def skipBlank : Bytes → Bytes :=
  List.dropWhile fun b => b == 32 || b == 10 || b == 9 || b == 13

/-- Takes the bytes `word` off the front. -/
def expectWord (word : Bytes) (value : Json) : Reader Json := fun bytes =>
  match word, bytes with
  | [], rest => .ok (value, rest)
  | _ :: _, [] => .error .unfinished
  | w :: word, b :: rest => if w = b then expectWord word value rest else .error .malformed

/-! ## Strings -/

/-- The value of four hexadecimal digits. -/
def hexFour (a b c d : UInt8) : Option Nat :=
  match Hex.value? (Char.ofNat a.toNat), Hex.value? (Char.ofNat b.toNat),
      Hex.value? (Char.ofNat c.toNat), Hex.value? (Char.ofNat d.toNat) with
  | some a, some b, some c, some d => some (((a * 16 + b) * 16 + c) * 16 + d)
  | _, _, _, _ => none

/-- What a one letter escape stands for. -/
def shortEscape? (b : UInt8) : Option UInt8 :=
  if b = 34 then some 34
  else if b = 92 then some 92
  else if b = 47 then some 47
  else if b = 98 then some 8
  else if b = 102 then some 12
  else if b = 110 then some 10
  else if b = 114 then some 13
  else if b = 116 then some 9
  else none

/-- The UTF-8 bytes of a code point, latest first. -/
def reversedCodePoint (n : Nat) : Bytes :=
  (String.utf8EncodeChar (Char.ofNat n)).reverse

/-- Reads the rest of a string, the opening quote being gone. `seen` holds the bytes of the
text so far, latest first. -/
def readStringOnto (seen : Bytes) : Reader String
  | [] => .error .unfinished
  | 34 :: rest =>
    match Bytes.toString? seen.reverse with
    | none => .error .malformed
    | some text => .ok (text, rest)
  | 92 :: [] => .error .unfinished
  | 92 :: 117 :: a :: b :: c :: d :: rest =>
    match hexFour a b c d with
    | none => .error .malformed
    | some n =>
      if 0xDC00 ≤ n ∧ n ≤ 0xDFFF then .error .malformed
      else if 0xD800 ≤ n ∧ n ≤ 0xDBFF then
        match rest with
        | [] => .error .unfinished
        | 92 :: [] => .error .unfinished
        | 92 :: 117 :: e :: f :: g :: h :: rest =>
          match hexFour e f g h with
          | none => .error .malformed
          | some m =>
            if 0xDC00 ≤ m ∧ m ≤ 0xDFFF then
              let n := 0x10000 + (n - 0xD800) * 0x400 + (m - 0xDC00)
              readStringOnto (reversedCodePoint n ++ seen) rest
            else .error .malformed
        | 92 :: 117 :: _ => .error .unfinished
        | _ => .error .malformed
      else readStringOnto (reversedCodePoint n ++ seen) rest
  | 92 :: 117 :: _ => .error .unfinished
  | 92 :: b :: rest =>
    match shortEscape? b with
    | none => .error .malformed
    | some byte => readStringOnto (byte :: seen) rest
  | b :: rest => if b < 32 then .error .malformed else readStringOnto (b :: seen) rest

/-! ## Arrays and objects -/

/-- Reads the items of an array behind the first one, up to the closing bracket. `seen` holds
the items so far, latest first; `fuel` bounds their number. -/
def readItemsOnto (readItem : Reader Json) (seen : List Json) : Nat → Reader Json
  | 0, _ => .error .malformed
  | fuel + 1, bytes =>
    match skipBlank bytes with
    | [] => .error .unfinished
    | 93 :: rest => .ok (.arr seen.reverse, rest)
    | 44 :: rest =>
      match skipBlank rest with
      | [] => .error .unfinished
      | 93 :: _ => .error .malformed
      | bytes => do
        let (item, rest) ← readItem bytes
        readItemsOnto readItem (item :: seen) fuel rest
    | _ => .error .malformed

/-- Reads an array, the opening bracket being gone. -/
def readArray (readItem : Reader Json) : Reader Json := fun bytes =>
  match skipBlank bytes with
  | [] => .error .unfinished
  | 93 :: rest => .ok (.arr [], rest)
  | bytes => do
    let (item, rest) ← readItem bytes
    readItemsOnto readItem [item] bytes.length rest

/-- Reads one field of an object: its name in quotes, a colon and its value. -/
def readField (readItem : Reader Json) : Reader (String × Json) := fun bytes =>
  match bytes with
  | [] => .error .unfinished
  | 34 :: rest => do
    let (name, rest) ← readStringOnto [] rest
    match skipBlank rest with
    | [] => .error .unfinished
    | 58 :: rest => do
      let (value, rest) ← readItem rest
      return ((name, value), rest)
    | _ => .error .malformed
  | _ => .error .malformed

/-- Reads the fields of an object behind the first one, up to the closing brace. -/
def readFieldsOnto (readItem : Reader Json) (seen : List (String × Json)) : Nat → Reader Json
  | 0, _ => .error .malformed
  | fuel + 1, bytes =>
    match skipBlank bytes with
    | [] => .error .unfinished
    | 125 :: rest => .ok (object seen.reverse, rest)
    | 44 :: rest => do
      let (entry, rest) ← readField readItem (skipBlank rest)
      readFieldsOnto readItem (entry :: seen) fuel rest
    | _ => .error .malformed

/-- Reads an object, the opening brace being gone. -/
def readObject (readItem : Reader Json) : Reader Json := fun bytes =>
  match skipBlank bytes with
  | [] => .error .unfinished
  | 125 :: rest => .ok (.obj [], rest)
  | bytes => do
    let (entry, rest) ← readField readItem bytes
    readFieldsOnto readItem [entry] bytes.length rest

/-! ## Values -/

/-- Reads a value that holds at most `depth` containers within each other. -/
def readValue : Nat → Reader Json
  | 0, bytes =>
    match skipBlank bytes with
    | 91 :: _ | 123 :: _ => .error .malformed
    | bytes => readScalar bytes
  | depth + 1, bytes =>
    match skipBlank bytes with
    | 91 :: rest => readArray (readValue depth) rest
    | 123 :: rest => readObject (readValue depth) rest
    | bytes => readScalar bytes
where
  /-- Reads a value that is no container. -/
  readScalar : Reader Json
    | [] => .error .unfinished
    | 110 :: rest => expectWord [117, 108, 108] .null rest
    | 116 :: rest => expectWord [114, 117, 101] (.bool true) rest
    | 102 :: rest => expectWord [97, 108, 115, 101] (.bool false) rest
    | 34 :: rest => do
      let (text, rest) ← readStringOnto [] rest
      return (.str text, rest)
    | 45 :: rest => readNumber false rest
    | b :: rest => readNumber true (b :: rest)

/-- How deep values may nest. -/
def maxDepth : Nat := 127

/-- The value that a text holds. -/
def parse (bytes : Bytes) : Except ReadError Json := do
  let (value, rest) ← readValue maxDepth bytes
  if (skipBlank rest).isEmpty then .ok value else .error .malformed

end RemoteCall.Json
