/-
The fewest decimal digits that read back as a given binary number.

A finite double is `m * 2 ^ q`. Every real that lies closer to it than to its
neighbours rounds to it, and so do the two midpoints when `m` is even. Among
the decimals in that interval `shortest` takes one with the fewest digits, of
those the nearest, and of two equally near the one with the even last digit.
All of it is exact arithmetic on whole numbers.
-/

namespace RemoteCall.Decimal

/-- The number `digits * 10 ^ scale`. -/
structure Scaled where
  digits : Nat
  scale : Int
deriving DecidableEq, Repr

/-- A positive binary number `m * 2 ^ q`; `narrow` says that the next smaller number of the
format is only half as far away as the next larger one. -/
structure Binary where
  m : Nat
  q : Int
  narrow : Bool
deriving DecidableEq, Repr

/-- The weight of the bit above the fraction, which a double does not store, 2 ^ 52. -/
def hiddenBit : Nat := 4503599627370496

/-- The stored exponent of a double. -/
def exponentField (bits : UInt64) : Nat := bits.toNat / hiddenBit % 2048

/-- Neither an infinity nor what is no number. -/
def isFinite (bits : UInt64) : Bool := exponentField bits != 2047

/-- The magnitude of a finite double other than zero, read off its 64 bits. -/
def Binary.ofBits (bits : UInt64) : Binary :=
  let fraction : Nat := bits.toNat % hiddenBit
  let exponent : Nat := exponentField bits
  if exponent = 0 then { m := fraction, q := -1074, narrow := false }
  else
    { m := hiddenBit + fraction, q := (exponent : Int) - 1075,
      narrow := fraction = 0 && exponent != 1 }

/-- `2 ^ q` as a fraction. -/
def powTwo (q : Int) : Nat × Nat :=
  if 0 ≤ q then (Nat.pow 2 q.toNat, 1) else (1, Nat.pow 2 (-q).toNat)

/-- `10 ^ e` as a fraction. -/
def powTen (e : Int) : Nat × Nat :=
  if 0 ≤ e then (Nat.pow 10 e.toNat, 1) else (1, Nat.pow 10 (-e).toNat)

/-- The largest whole `e`, at least `-400`, with `10 ^ e ≤ num / den`. -/
def floorLogTen (num den : Nat) : Int :=
  let shifted := num * Nat.pow 10 400 / den
  ((toString shifted).length : Int) - 401

/-- The interval of reals that round to `b`, and `b` itself, as numerators over one common
denominator: low end, number, high end. -/
def Binary.interval (b : Binary) : Nat × Nat × Nat × Nat :=
  let (num, den) := powTwo (b.q - 2)
  ((4 * b.m - (if b.narrow then 1 else 2)) * num, 4 * b.m * num, (4 * b.m + 2) * num, den)

/-- The best decimal on the grid of multiples of `10 ^ e`, when one reads back as `b`. -/
def Binary.onGrid? (b : Binary) (e : Int) : Option Scaled :=
  let (low, mid, high, den) := b.interval
  let (stepNum, stepDen) := powTen e
  let unit := den * stepNum
  let floor := mid * stepDen / unit
  let inside (x : Nat) : Bool :=
    if b.m % 2 = 0 then low * stepDen ≤ x * unit && x * unit ≤ high * stepDen
    else low * stepDen < x * unit && x * unit < high * stepDen
  let below := mid * stepDen - floor * unit
  let above := (floor + 1) * unit - mid * stepDen
  let floorFirst := below < above || (below == above && floor % 2 == 0)
  match inside floor, inside (floor + 1) with
  | true, true => some ⟨if floorFirst then floor else floor + 1, e⟩
  | true, false => some ⟨floor, e⟩
  | false, true => some ⟨floor + 1, e⟩
  | false, false => none

/-- Takes up to `fuel` trailing zeros off the digits. -/
def Scaled.strip : Nat → Scaled → Scaled
  | 0, s => s
  | fuel + 1, s =>
    if s.digits % 10 = 0 && s.digits != 0 then strip fuel ⟨s.digits / 10, s.scale + 1⟩ else s

/-- Tries the grids from `e` down to finer ones, at most `fuel` of them. -/
def Binary.firstGrid (b : Binary) : Nat → Int → Scaled
  | 0, e => ⟨b.m, e⟩
  | fuel + 1, e =>
    match b.onGrid? e with
    | some s => s.strip 20
    | none => b.firstGrid fuel (e - 1)

/-- The shortest decimal that reads back as `b`: 17 digits always suffice for a double. -/
def Binary.shortest (b : Binary) : Scaled :=
  let (_, mid, _, den) := b.interval
  b.firstGrid 18 (floorLogTen mid den)

end RemoteCall.Decimal
