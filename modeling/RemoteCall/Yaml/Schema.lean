/-
What plain scalars stand for.

A plain scalar is null, a truth value, a whole number or a double if its text is
one of theirs, otherwise the text itself. Whole numbers may be given to the bases
ten, sixteen, eight and two; digits behind a leading zero are no number.
-/
import RemoteCall.Bytes.Utf8
import RemoteCall.Decimal.Layout
import RemoteCall.Text.Numeral

namespace RemoteCall.Yaml

/-- The words for null. -/
def isNull (text : String) : Bool :=
  ["null", "Null", "NULL", "~"].contains text

/-- The truth value of a word. -/
def truth? (text : String) : Option Bool :=
  if ["true", "True", "TRUE"].contains text then some true
  else if ["false", "False", "FALSE"].contains text then some false
  else none

/-! ## Whole numbers -/

/-- A number to the base of its mark, without a sign. -/
def marked? : List Char → Option Nat
  | '0' :: 'x' :: c :: rest => Text.digitsValue? 16 Hex.value? 0 (c :: rest)
  | '0' :: 'o' :: c :: rest => Text.digitsValue? 8 (digitBelow? 8) 0 (c :: rest)
  | '0' :: 'b' :: c :: rest => Text.digitsValue? 2 (digitBelow? 2) 0 (c :: rest)
  | _ => none
where
  /-- The value of a decimal digit below a limit. -/
  digitBelow? (limit : Nat) (c : Char) : Option Nat :=
    (Text.decimalDigit? c).filter (· < limit)

/-- Digits behind a leading zero. -/
def isPadded (text : List Char) : Bool :=
  let digits := match text with
    | '-' :: rest => rest
    | '+' :: rest => rest
    | _ => text
  match digits with
  | '0' :: c :: rest => (c :: rest).all (·.isDigit)
  | _ => false

/-- The value of a number without a sign. -/
def magnitude? (text : List Char) : Option Nat :=
  match marked? text with
  | some n => some n
  | none => if isPadded text then none else Text.digits? text

/-- The whole number that a text stands for. -/
def whole? (text : List Char) : Option Int :=
  match text with
  | '-' :: rest => (magnitude? rest).map fun n => -(n : Int)
  | '+' :: rest => (magnitude? rest).map Int.ofNat
  | _ => (magnitude? text).map Int.ofNat

/-! ## Doubles -/

/-- The digits, with a point somewhere among them, and the exponent of a decimal. -/
structure DecimalParts where
  whole : List Char
  fraction : List Char
  exponent : Int

/-- Reads an exponent with its mark, if there is one, up to the end. -/
def exponent? : List Char → Option Int
  | [] => some 0
  | c :: rest =>
    if c == 'e' || c == 'E' then
      match rest with
      | '-' :: digits => (Text.digits? digits).map fun n => -(n : Int)
      | '+' :: digits => (Text.digits? digits).map Int.ofNat
      | digits => (Text.digits? digits).map Int.ofNat
    else none

/-- Reads a decimal without a sign: digits, perhaps with a point, perhaps with an exponent. -/
def decimalParts? (text : List Char) : Option DecimalParts :=
  let whole := text.takeWhile (·.isDigit)
  let rest := text.dropWhile (·.isDigit)
  let (fraction, rest) := match rest with
    | '.' :: rest => (rest.takeWhile Char.isDigit, rest.dropWhile Char.isDigit)
    | _ => ([], rest)
  if whole.isEmpty && fraction.isEmpty then none
  else (exponent? rest).map fun e => { whole := whole, fraction := fraction, exponent := e }

/-- The double nearest to a decimal; none if it is too large. Decimals that lie far outside of
the range of doubles are recognised by their exponents alone. -/
def DecimalParts.toFloat? (p : DecimalParts) : Option Float :=
  let digits := (Text.digits? (p.whole ++ p.fraction)).getD 0
  let scale := p.exponent - p.fraction.length
  let top := scale + (toString digits).length
  if digits = 0 ∨ top < -400 then some 0
  else if 400 < top then none
  else
    let x := Float.ofScientific digits (decide (scale < 0)) scale.natAbs
    if x.isFinite then some x else none

/-- The double of a text without a sign. -/
def unsignedFloat? (text : List Char) : Option Float := do
  let parts ← decimalParts? text
  parts.toFloat?

/-- The words for what is no finite number. -/
def unusualFloat? (text : String) : Option Float :=
  if [".inf", ".Inf", ".INF", "+.inf", "+.Inf", "+.INF"].contains text then some (1 / 0)
  else if ["-.inf", "-.Inf", "-.INF"].contains text then some (-1 / 0)
  else if [".nan", ".NaN", ".NAN"].contains text then some (0 / 0)
  else none

/-- The double that a text stands for. -/
def float? (text : String) : Option Float :=
  match unusualFloat? text with
  | some x => some x
  | none =>
    match text.toList with
    | '-' :: rest => (unsignedFloat? rest).map fun x => -x
    | '+' :: rest => unsignedFloat? rest
    | all => unsignedFloat? all

/-- Doubles from 1e-5 up to, and not including, 1e16 are written with a point. -/
def doubleLayout : Decimal.Layout := { positional := (-5, 16), exponentMark := "e" }

/-- The text of a double. -/
def renderFloat (x : Float) : String :=
  if x.isNaN then ".nan"
  else if x.isInf then (if x < 0 then "-.inf" else ".inf")
  else doubleLayout.renderFinite x.toBits

end RemoteCall.Yaml
