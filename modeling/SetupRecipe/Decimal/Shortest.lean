import SetupRecipe.Decimal.Binary64

/-!
# Shortest decimals

Many decimals round to the same floating point number. The one that is written has the fewest
digits, and among those with the fewest it is the one nearest to the number. For each count of
digits only the two neighbours of the number on the decimal grid of that count can qualify, and the
comparison is made in natural numbers.
-/

namespace SetupRecipe.Decimal

/-- Which of two decimals at the same distance is taken. -/
inductive Tie where
  | up
  | even
deriving DecidableEq, Repr

/-- The digits `d₁ d₂ …` of the number `0.d₁d₂… * 10 ^ point`. -/
structure Digits where
  digits : List Char
  point : Int
deriving DecidableEq, Repr

/-- A number with the interval of the reals that round to it, in units of `unit / scale`. -/
structure Rounding where
  low : Nat
  value : Nat
  high : Nat
  closed : Bool
  unit : Nat
  scale : Nat

namespace Rounding

/-- The interval around `m * 2 ^ q`: half the way to each neighbour, the ends included when `m` is
even. Below a power of two the neighbours are twice as dense. -/
def of (m : Nat) (q : Int) : Rounding :=
  let below := if m = twoPow 52 ∧ Binary64.leastExponent < q then 1 else 2
  { low := 4 * m - below, value := 4 * m, high := 4 * m + 2, closed := m % 2 == 0
    unit := twoPow (q - 2).toNat, scale := twoPow (2 - q).toNat }

/-- The interval in units of `10 ^ grid`, as numerators over one denominator. -/
def onGrid (r : Rounding) (grid : Int) : Rounding :=
  { r with unit := r.unit * tenPow (-grid).toNat, scale := r.scale * tenPow grid.toNat }

/-- Whether the natural number `n` lies in the interval. -/
def holds (r : Rounding) (n : Nat) : Bool :=
  if r.closed then r.low * r.unit ≤ n * r.scale ∧ n * r.scale ≤ r.high * r.unit
  else r.low * r.unit < n * r.scale ∧ n * r.scale < r.high * r.unit

/-- The greatest natural number that the value reaches. -/
def floor (r : Rounding) : Nat := r.value * r.unit / r.scale

/-- The neighbour of the value that lies in the interval, the nearer one if both do. -/
def neighbour? (tie : Tie) (r : Rounding) : Option Nat :=
  let down := r.floor
  let up := down + 1
  match r.holds down, r.holds up with
  | true, false => some down
  | false, true => some up
  | false, false => none
  | true, true =>
    let doubled := 2 * r.value * r.unit
    let middle := (down + up) * r.scale
    if doubled < middle then some down
    else if middle < doubled then some up
    else match tie with
      | .up => some up
      | .even => some (if down % 2 = 0 then down else up)

end Rounding

/-- Digits without the zeros at their end. -/
def dropZeros (digits : List Char) : List Char :=
  (digits.reverse.dropWhile (· == '0')).reverse

/-- The fewest digits that read back as `m * 2 ^ q`, for `m` above zero. -/
def shortest (tie : Tie) (m : Nat) (q : Int) : Digits :=
  let rounding := Rounding.of m q
  let places : Int := 340
  let magnitude := (Nat.toDigits 10 (rounding.onGrid (-places)).floor).length - places
  let attempt (count : Nat) : Option Digits :=
    let grid := magnitude - count
    ((rounding.onGrid grid).neighbour? tie).map fun n =>
      let written := Nat.toDigits 10 n
      { digits := dropZeros written, point := grid + written.length }
  ((List.range 17).findSome? fun i => attempt (i + 1)).getD ⟨[], 0⟩

end SetupRecipe.Decimal
