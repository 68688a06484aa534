import SetupRecipe.Decimal.Power

/-!
# Binary floating point numbers

A finite number of the 64-bit format is `m * 2 ^ q` with a sign, `m` below `2 ^ 53` and `q` at least
`-1074`. This file reads these parts off the bits of a `Float` and finds the number nearest to a
fraction, a tie going to the even `m`.
-/

namespace SetupRecipe.Decimal

/-- The parts of a 64-bit floating point number. -/
inductive Binary64 where
  | nan
  | infinite (negative : Bool)
  | finite (negative : Bool) (m : Nat) (q : Int)
deriving DecidableEq, Repr

namespace Binary64

/-- The least exponent, that of the numbers with a leading zero bit. -/
def leastExponent : Int := -1074

/-- What the sign, exponent and fraction fields of a word stand for. -/
def ofBits (bits : UInt64) : Binary64 :=
  let negative := twoPow 63 ≤ bits.toNat
  let exponent : Nat := bits.toNat / twoPow 52 % twoPow 11
  let fraction : Nat := bits.toNat % twoPow 52
  if exponent = 2047 then
    if fraction = 0 then infinite negative else nan
  else if exponent = 0 then finite negative fraction leastExponent
  else finite negative (twoPow 52 + fraction) ((exponent : Int) - 1075)

def ofFloat (x : Float) : Binary64 := ofBits x.toBits

/-- The word of the finite number `m * 2 ^ q`, or of infinity when it is too large. -/
def bits (negative : Bool) (m : Nat) (q : Int) : UInt64 :=
  let sign := if negative then twoPow 63 else 0
  let (m, q) := if m = twoPow 53 then (twoPow 52, q + 1) else (m, q)
  let exponent := if m < twoPow 52 then 0 else (q + 1075).toNat
  if 2047 ≤ exponent then UInt64.ofNat (sign + 2047 * twoPow 52)
  else UInt64.ofNat (sign + exponent * twoPow 52 + m % twoPow 52)

/-- A quotient of natural numbers rounded to the nearest, a tie to the even one. -/
def divNearest (num den : Nat) : Nat :=
  let quotient := num / den
  let rest := num % den
  if 2 * rest < den then quotient
  else if den < 2 * rest then quotient + 1
  else quotient + quotient % 2

/-- The factors that turn `num / den` into units of `2 ^ q`. -/
def inUnits (num den : Nat) (q : Int) : Nat × Nat :=
  (num * twoPow (-q).toNat, den * twoPow q.toNat)

/-- The number nearest to `num / den`. -/
def nearest (negative : Bool) (num den : Nat) : Float :=
  if num = 0 then Float.ofBits (bits negative 0 leastExponent)
  else
    let guess := max ((num.log2 : Int) - (den.log2 : Int) - 53) leastExponent
    let (n, d) := inUnits num den guess
    let q := if n / d < twoPow 53 then guess else guess + 1
    let (n, d) := inUnits num den q
    Float.ofBits (bits negative (divNearest n d) q)

/-- The number nearest to `m * 10 ^ e`. Magnitudes beyond the range of the format are decided
before any power of ten is formed. -/
def ofDecimal (negative : Bool) (m : Nat) (e : Int) : Float :=
  let magnitude : Int := (Nat.toDigits 10 m).length + e
  if m = 0 ∨ magnitude < -330 then nearest negative 0 1
  else if 330 < magnitude then Float.ofBits (bits negative (twoPow 52) 972)
  else nearest negative (m * tenPow e.toNat) (tenPow (-e).toNat)

end Binary64

end SetupRecipe.Decimal
