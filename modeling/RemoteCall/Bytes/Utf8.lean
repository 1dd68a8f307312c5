/-
Bytes and UTF-8 text.

A message body is a list of bytes. `Utf8.encode` writes text as UTF-8 and
`Utf8.decode?` reads it back: it accepts exactly the well formed sequences, so
no overlong form, no surrogate and no code point above U+10FFFF passes. Bodies
and characters are lists, so ordinary list induction reaches every law.
-/

namespace RemoteCall

/-- The body of a message. -/
abbrev Bytes := List UInt8

namespace Utf8

/-- The UTF-8 bytes of a text. -/
def encode (text : List Char) : Bytes :=
  text.flatMap String.utf8EncodeChar

/-- A byte that continues a sequence: `10xxxxxx`. -/
def isContinuation (b : UInt8) : Bool :=
  0x80 ≤ b && b ≤ 0xBF

/-- The six bits that a continuation byte carries. -/
def payload (b : UInt8) : Nat :=
  b.toNat % 64

/-- The second byte of a three byte sequence that starts with `lead`: the ranges leave out
overlong forms and surrogates. -/
def isSecondOfThree (lead second : UInt8) : Bool :=
  if lead == 0xE0 then 0xA0 ≤ second && second ≤ 0xBF
  else if lead == 0xED then 0x80 ≤ second && second ≤ 0x9F
  else isContinuation second

/-- The second byte of a four byte sequence that starts with `lead`: the ranges leave out
overlong forms and what lies above U+10FFFF. -/
def isSecondOfFour (lead second : UInt8) : Bool :=
  if lead == 0xF0 then 0x90 ≤ second && second ≤ 0xBF
  else if lead == 0xF4 then 0x80 ≤ second && second ≤ 0x8F
  else isContinuation second

/-- Reads the text behind `seen`, which holds the characters read so far, latest first. -/
def decodeOnto (seen : List Char) : Bytes → Option (List Char)
  | [] => some seen.reverse
  | a :: rest =>
    if a < 0x80 then decodeOnto (Char.ofNat a.toNat :: seen) rest
    else match rest with
      | [] => none
      | b :: rest =>
        if 0xC2 ≤ a && a ≤ 0xDF then
          if isContinuation b then
            decodeOnto (Char.ofNat ((a.toNat - 0xC0) * 64 + payload b) :: seen) rest
          else none
        else match rest with
          | [] => none
          | c :: rest =>
            if 0xE0 ≤ a && a ≤ 0xEF then
              if isSecondOfThree a b && isContinuation c then
                decodeOnto
                  (Char.ofNat (((a.toNat - 0xE0) * 64 + payload b) * 64 + payload c) :: seen) rest
              else none
            else match rest with
              | [] => none
              | d :: rest =>
                if 0xF0 ≤ a && a ≤ 0xF4 && isSecondOfFour a b && isContinuation c
                    && isContinuation d then
                  decodeOnto
                    (Char.ofNat
                      ((((a.toNat - 0xF0) * 64 + payload b) * 64 + payload c) * 64 + payload d)
                      :: seen) rest
                else none

/-- The text that well formed bytes stand for. -/
def decode? (bytes : Bytes) : Option (List Char) :=
  decodeOnto [] bytes

end Utf8

/-- The body that holds a text. -/
def Bytes.ofString (text : String) : Bytes :=
  Utf8.encode text.toList

/-- The text of a body, when its bytes are UTF-8. -/
def Bytes.toString? (bytes : Bytes) : Option String :=
  (Utf8.decode? bytes).map String.ofList

namespace Hex

/-- The lower case digit of a value below 16. -/
def digit (n : Nat) : Char :=
  if n < 10 then Char.ofNat (48 + n) else Char.ofNat (87 + n)

/-- The value of a hexadecimal digit of either case. -/
def value? (c : Char) : Option Nat :=
  if c.isDigit then some (c.toNat - 48)
  else if 'a' ≤ c ∧ c ≤ 'f' then some (c.toNat - 87)
  else if 'A' ≤ c ∧ c ≤ 'F' then some (c.toNat - 55)
  else none

/-- Two digits for each byte. -/
def encode (bytes : Bytes) : List Char :=
  bytes.flatMap fun b => [digit (b.toNat / 16), digit (b.toNat % 16)]

/-- The bytes that pairs of digits stand for. -/
def decode? : List Char → Option Bytes
  | [] => some []
  | [_] => none
  | a :: b :: rest =>
    match value? a, value? b, decode? rest with
    | some x, some y, some bytes => some (UInt8.ofNat (x * 16 + y) :: bytes)
    | _, _, _ => none

end Hex

end RemoteCall
