/-
Reading and writing whole numbers in decimal.

A numeral is an optional sign and at least one digit; leading zeros are
allowed. Every reader says why it refuses: the text is empty, a character is no
digit, or the number is out of the range asked for.
-/

namespace RemoteCall.Text

/-- Why a text is not a number of the range asked for. -/
inductive NumeralError where
  | empty
  | invalidDigit
  | tooLarge
  | tooSmall
deriving DecidableEq, Repr

/-- The reason in words. -/
def NumeralError.message : NumeralError → String
  | .empty => "cannot parse integer from empty string"
  | .invalidDigit => "invalid digit found in string"
  | .tooLarge => "number too large to fit in target type"
  | .tooSmall => "number too small to fit in target type"

/-- The value of digits in `base`, most significant first, behind the value `seen`. -/
def digitsValue? (base : Nat) (value? : Char → Option Nat) (seen : Nat) : List Char → Option Nat
  | [] => some seen
  | c :: rest =>
    match value? c with
    | none => none
    | some d => digitsValue? base value? (seen * base + d) rest

/-- The value of a decimal digit. -/
def decimalDigit? (c : Char) : Option Nat :=
  if c.isDigit then some (c.toNat - 48) else none

/-- The value of a text of decimal digits, at least one. -/
def digits? : List Char → Option Nat
  | [] => none
  | text => digitsValue? 10 decimalDigit? 0 text

/-- The whole number that a text of digits and an optional plus sign stands for, if it is at
most `limit`. A number in a text that also holds a character that is no digit is refused for
whichever comes first. -/
def natural? (limit : Nat) (text : List Char) : Except NumeralError Nat :=
  let body := match text with
    | '+' :: rest => rest
    | _ => text
  if text = [] then .error .empty
  else if body = [] then .error .invalidDigit
  else go 0 body
where
  /-- Reads on behind the value `seen`. -/
  go (seen : Nat) : List Char → Except NumeralError Nat
    | [] => .ok seen
    | c :: rest =>
      match decimalDigit? c with
      | none => .error .invalidDigit
      | some d => if limit < seen * 10 + d then .error .tooLarge else go (seen * 10 + d) rest

/-- How far the signed 64 bit numbers reach below zero. -/
def int64Reach : Nat := 9223372036854775808

/-- The signed 64 bit number that a text stands for. -/
def int64? (text : List Char) : Option Int64 :=
  match text with
  | '-' :: rest =>
    match digits? rest with
    | some n => if n ≤ int64Reach then some (Int64.ofInt (-(n : Int))) else none
    | none => none
  | _ =>
    match natural? (int64Reach - 1) text with
    | .ok n => some (Int64.ofNat n)
    | .error _ => none

/-- The digits of a number in decimal, without leading zeros. -/
def decimal (n : Nat) : List Char :=
  (toString n).toList

end RemoteCall.Text
