/-
Reading numbers of JSON text.

A number without fraction and exponent that fits a signed or unsigned 64 bit
word is whole; every other number is a double. A double is made from at most 64
bits of leading digits and a decimal exponent with one multiplication or
division by a power of ten, so the last bit may differ from the nearest double;
digits behind those 64 bits count for the exponent only. A minus sign before
zero gives the negative zero. A number too large for a double is refused.
-/
import RemoteCall.Bytes.Utf8
import RemoteCall.Json.Basic

namespace RemoteCall.Json

/-- Why a text is no JSON: it ended inside a value, or something else is wrong with it. -/
inductive ReadError where
  | unfinished
  | malformed
deriving DecidableEq, Repr

/-- A reader takes a value off the front of some bytes. -/
abbrev Reader (α : Type) := Bytes → Except ReadError (α × Bytes)

/-- The value of a digit. -/
def digit? (b : UInt8) : Option Nat :=
  if 48 ≤ b && b ≤ 57 then some (b.toNat - 48) else none

/-- The largest whole number of the format. -/
def maxWhole : Nat := UInt64.size - 1

/-- Reads digits behind the value `seen` while the value stays within `limit`; what follows
starts with a digit exactly when the limit stopped it. The middle part counts the digits read. -/
def boundedDigits (limit seen count : Nat) : Bytes → Nat × Nat × Bytes
  | [] => (seen, count, [])
  | b :: rest =>
    match digit? b with
    | none => (seen, count, b :: rest)
    | some d =>
      if limit < seen * 10 + d then (seen, count, b :: rest)
      else boundedDigits limit (seen * 10 + d) (count + 1) rest

/-- Drops digits and counts them. -/
def skipDigits (count : Nat) : Bytes → Nat × Bytes
  | [] => (count, [])
  | b :: rest => if (digit? b).isSome then skipDigits (count + 1) rest else (count, b :: rest)

/-- A digit is next. -/
def startsWithDigit : Bytes → Bool
  | [] => false
  | b :: _ => (digit? b).isSome

/-- `x * 10 ^ e` for `e` up to 308 in one step, and `x / 10 ^ (-e)` with divisions by `1e308` as
long as the exponent is out of reach. `none` is a result too large for a double. -/
def scale (fuel : Nat) (x : Float) (e : Int) : Option Float :=
  if 0 ≤ e then
    if e ≤ 308 then
      let y := x * Float.ofScientific 1 false e.toNat
      if y.isInf then none else some y
    else if x == 0 then some x
    else none
  else if -308 ≤ e then some (x / Float.ofScientific 1 false (-e).toNat)
  else if x == 0 then some x
  else match fuel with
    | 0 => some 0
    | fuel + 1 => scale fuel (x / Float.ofScientific 1 false 308) (e + 308)

/-- The double `± significand * 10 ^ e`. -/
def makeFloat (positive : Bool) (significand : Nat) (e : Int) : Except ReadError Json :=
  match scale 4 (UInt64.ofNat significand).toFloat e with
  | none => .error .malformed
  | some x => .ok (.float (if positive then x else -x))

/-- The largest exponent that is added up; a longer one is as good as infinite. -/
def maxExponent : Nat := 2147483647

/-- Keeps a sum of exponents within 32 bits. -/
def clampExponent (e : Int) : Int :=
  max Int32.minValue.toInt (min Int32.maxValue.toInt e)

/-- Reads an exponent, the `e` being gone, and makes the double. -/
def readExponent (positive : Bool) (significand : Nat) (before : Int) : Reader Json := fun bytes =>
  let (up, body) := match bytes with
    | 43 :: rest => (true, rest)
    | 45 :: rest => (false, rest)
    | _ => (true, bytes)
  match body with
  | [] => .error .unfinished
  | b :: _ =>
    if (digit? b).isNone then .error .malformed
    else
      let (e, _, rest) := boundedDigits maxExponent 0 0 body
      if startsWithDigit rest then
        if significand ≠ 0 && up then .error .malformed
        else .ok (.float (if positive then 0 else -0), (skipDigits 0 rest).2)
      else do
        let total := clampExponent (if up then before + (e : Int) else before - (e : Int))
        let value ← makeFloat positive significand total
        return (value, rest)

/-- Makes the double, or reads its exponent first. -/
def readTail (positive : Bool) (significand : Nat) (e : Int) : Reader Json
  | 101 :: rest => readExponent positive significand e rest
  | 69 :: rest => readExponent positive significand e rest
  | bytes => do
    let value ← makeFloat positive significand e
    return (value, bytes)

/-- Reads the digits behind the point, and what follows. -/
def readFraction (positive : Bool) (significand : Nat) (before : Int) : Reader Json := fun bytes =>
  let (value, count, rest) := boundedDigits maxWhole significand 0 bytes
  if startsWithDigit rest then
    readTail positive value (before - count) (skipDigits 0 rest).2
  else if count = 0 then
    match rest with
    | [] => .error .unfinished
    | _ :: _ => .error .malformed
  else readTail positive value (before - count) rest

/-- Reads what follows the whole part `significand` of a number. -/
def readRest (positive : Bool) (significand : Nat) : Reader Json := fun bytes =>
  let (dropped, rest) := skipDigits 0 bytes
  match rest with
  | 46 :: rest => readFraction positive significand dropped rest
  | 101 :: _ | 69 :: _ => readTail positive significand dropped rest
  | _ =>
    if dropped ≠ 0 then readTail positive significand dropped rest
    else if positive then .ok (.int significand, rest)
    else if significand = 0 || UInt64.size / 2 < significand then
      .ok (.float (-(UInt64.ofNat significand).toFloat), rest)
    else .ok (.int (-(significand : Int)), rest)

/-- Reads a number, the sign being gone. -/
def readNumber (positive : Bool) : Reader Json
  | [] => .error .unfinished
  | 48 :: rest => if startsWithDigit rest then .error .malformed else readRest positive 0 rest
  | b :: rest =>
    if (digit? b).isNone then .error .malformed
    else
      let (value, _, rest) := boundedDigits maxWhole 0 0 (b :: rest)
      readRest positive value rest

end RemoteCall.Json
