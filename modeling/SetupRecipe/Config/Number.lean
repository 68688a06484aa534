import SetupRecipe.Decimal.Layout

/-!
# Numbers of recipe files

Recipe files have one kind of number. A whole number takes a word of 64 bits: naturals are words
without a sign, and what operations on negative numbers give are words with one, which may be zero. A
decimal without a fraction is the same number as the whole number, if that fits into a word; only
decimals beyond, or with a fraction, stay decimals.
-/

namespace SetupRecipe.Config

/-- A number that an expression can have. -/
inductive Number where
  | natural (n : UInt64)
  | signed (i : Int64)
  | decimal (x : Float)

namespace Number

/-- A whole number that fits into a word, without a sign if possible. -/
def ofInt? (i : Int) : Option Number :=
  if 0 ≤ i ∧ i.toNat < UInt64.size then some (natural (UInt64.ofNat i.toNat))
  else if i < 0 ∧ Int64.minValue.toInt ≤ i then some (signed (Int64.ofInt i))
  else none

/-- A word with a sign, without one if possible. -/
def ofInt64 (i : Int64) : Number := if 0 ≤ i then natural i.toUInt64 else signed i

/-- The integer that a floating point number equals, if it has no fraction. -/
def integer? : Decimal.Binary64 → Option Int
  | .finite negative m q =>
    let scaled : Option Nat :=
      if 0 ≤ q then some (m * Decimal.twoPow q.toNat)
      else if m % Decimal.twoPow (-q).toNat = 0 then some (m / Decimal.twoPow (-q).toNat) else none
    scaled.map fun n => if negative then -(n : Int) else n
  | _ => none

/-- The number of a decimal; there is none for what is not finite. -/
def ofFloat? (x : Float) : Option Number :=
  match Decimal.Binary64.ofFloat x with
  | .finite negative m q =>
    some (((integer? (.finite negative m q)).bind ofInt?).getD (decimal x))
  | _ => none

/-- An integer as a decimal. -/
def floatOfInt (i : Int) : Float := Decimal.Binary64.nearest (decide (i < 0)) i.natAbs 1

/-- The number as a decimal. -/
def toFloat : Number → Float
  | natural n => floatOfInt n.toNat
  | signed i => floatOfInt i.toInt
  | decimal x => x

/-- A number with the other sign. The negative of a natural that fits into no word is a decimal, and a
decimal stays one even without a fraction. -/
def negate : Number → Number
  | natural n => (ofInt? (-n.toNat)).getD (decimal (-(natural n).toFloat))
  | signed i => (ofInt? (-i.toInt)).getD (signed i)
  | decimal x => decimal (-x)

/-- Decimals are written with an exponent only far from one. -/
def layout : Decimal.Layout :=
  { tie := .even, positional := some (-5, 15), keepsPoint := true, exponentPlus := false }

def text : Number → String
  | natural n => toString n.toNat
  | signed i => toString i.toInt
  | decimal x => (layout.write? x).getD "null"

end Number

end SetupRecipe.Config
