/-
White space, ASCII case and splitting.

`Text.trim` takes off the characters of Unicode's White_Space property at both
ends, `Text.lower` maps the ASCII capitals only, and `Text.splitOn` cuts at one
character and keeps empty pieces. Each works on a list of characters; the
versions on `String` wrap them.
-/

namespace RemoteCall.Text

/-- The code points of Unicode's White_Space property, as inclusive ranges. -/
def whiteSpaceRanges : List (Nat × Nat) :=
  [(0x09, 0x0D), (0x20, 0x20), (0x85, 0x85), (0xA0, 0xA0), (0x1680, 0x1680), (0x2000, 0x200A),
   (0x2028, 0x2029), (0x202F, 0x202F), (0x205F, 0x205F), (0x3000, 0x3000)]

/-- A character of the White_Space property. -/
def isWhite (c : Char) : Bool :=
  whiteSpaceRanges.any fun (low, high) => low ≤ c.toNat && c.toNat ≤ high

/-- Drops what satisfies `p` at the end. -/
def dropEndWhile (p : Char → Bool) (text : List Char) : List Char :=
  (text.reverse.dropWhile p).reverse

/-- The text without white space at either end. -/
def trimChars (text : List Char) : List Char :=
  dropEndWhile isWhite (text.dropWhile isWhite)

/-- The text without white space at either end. -/
def trim (text : String) : String :=
  String.ofList (trimChars text.toList)

/-- A text of white space only, the empty text included. -/
def isBlank (text : String) : Bool :=
  text.toList.all isWhite

/-- An ASCII capital in lower case; every other character as it is. -/
def lowerChar (c : Char) : Char :=
  if 'A' ≤ c ∧ c ≤ 'Z' then Char.ofNat (c.toNat + 32) else c

/-- An ASCII small letter as a capital; every other character as it is. -/
def upperChar (c : Char) : Char :=
  if 'a' ≤ c ∧ c ≤ 'z' then Char.ofNat (c.toNat - 32) else c

/-- The text with its ASCII capitals in lower case. -/
def lower (text : String) : String :=
  String.ofList (text.toList.map lowerChar)

/-- The text with its ASCII small letters as capitals. -/
def upper (text : String) : String :=
  String.ofList (text.toList.map upperChar)

/-- The pieces between the occurrences of `mark`: one more than there are occurrences. -/
def splitOn (mark : Char) : List Char → List (List Char)
  | [] => [[]]
  | c :: rest =>
    if c = mark then [] :: splitOn mark rest
    else match splitOn mark rest with
      | [] => [[c]]
      | piece :: pieces => (c :: piece) :: pieces

/-- What stands before and after the last `mark`. -/
def splitLast? (mark : Char) : List Char → Option (List Char × List Char)
  | [] => none
  | c :: rest =>
    match splitLast? mark rest with
    | some (before, behind) => some (c :: before, behind)
    | none => if c = mark then some ([], rest) else none

end RemoteCall.Text
