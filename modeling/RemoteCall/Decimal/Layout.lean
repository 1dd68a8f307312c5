/-
Writing decimals with a point or with an exponent.

A `Layout` says in which range of exponents digits are written with a point, and
what stands in front of an exponent that is not negative. A whole number written
with a point keeps a final `.0`.
-/
import RemoteCall.Decimal.Shortest

namespace RemoteCall.Decimal

/-- How decimals are written. -/
structure Layout where
  /-- The point lies behind more than the first and at most the second number of digits. -/
  positional : Int × Int
  /-- The mark of an exponent that is not negative. -/
  exponentMark : String
deriving DecidableEq, Repr

/-- The text of a decimal. -/
def Layout.render (layout : Layout) (d : Scaled) : String :=
  let digits := (toString d.digits).toList
  let point := (digits.length : Int) + d.scale
  if 0 ≤ d.scale ∧ point ≤ layout.positional.2 then
    String.ofList (digits ++ List.replicate d.scale.toNat '0' ++ ['.', '0'])
  else if 0 < point ∧ point ≤ layout.positional.2 then
    String.ofList (digits.take point.toNat ++ '.' :: digits.drop point.toNat)
  else if layout.positional.1 < point ∧ point ≤ 0 then
    String.ofList ('0' :: '.' :: List.replicate (-point).toNat '0' ++ digits)
  else
    let mantissa := match digits with
      | [d] => [d]
      | d :: rest => d :: '.' :: rest
      | [] => []
    let exponent := point - 1
    let mark := if exponent < 0 then "e-" else layout.exponentMark
    String.ofList mantissa ++ mark ++ toString exponent.natAbs

/-- The text of a finite double: its fewest digits that read back, behind a minus sign if the
sign bit is set. -/
def Layout.renderFinite (layout : Layout) (bits : UInt64) : String :=
  let signBit := UInt64.size / 2
  let sign := if bits.toNat / signBit = 1 then "-" else ""
  if bits.toNat % signBit = 0 then sign ++ "0.0"
  else sign ++ layout.render (Binary.ofBits bits).shortest

end RemoteCall.Decimal
