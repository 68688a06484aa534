import SetupRecipe.Config.Value

/-!
# Arithmetic of recipe files

Two naturals, or two words with a sign, are added, subtracted and multiplied exactly; every quotient,
whatever mixes the kinds of numbers, and whatever involves a decimal is computed in floating point and
becomes whole again if it has no fraction. Remainders have the sign of the dividend. Numbers of
different kinds are compared in floating point.
-/

namespace SetupRecipe.Config

namespace Number

/-- A floating point result as a number, if it is finite. -/
def ofResult (x : Float) : Option Number := ofFloat? x

/-- The remainder of finite magnitudes, exact in units of the smaller exponent. -/
def remainderOf (negative : Bool) (m n : Nat) (q p : Int) : Float :=
  let unit := min q p
  let rest := (m * Decimal.twoPow (q - unit).toNat) % (n * Decimal.twoPow (p - unit).toNat)
  Decimal.Binary64.nearest negative (rest * Decimal.twoPow unit.toNat) (Decimal.twoPow (-unit).toNat)

/-- The remainder of two floating point numbers. -/
def floatRemainder (x y : Float) : Float :=
  match Decimal.Binary64.ofFloat x, Decimal.Binary64.ofFloat y with
  | .finite negative m q, .finite _ n p => if n = 0 then 0.0 / 0.0 else remainderOf negative m n q p
  | .finite _ _ _, .infinite _ => x
  | _, _ => 0.0 / 0.0

/-- The sum of two numbers; that of two words with a sign keeps it. -/
def add? (a b : Number) : Option Number :=
  match a, b with
  | natural m, natural n => ofInt? (m.toNat + n.toNat) <|> ofResult (a.toFloat + b.toFloat)
  | signed i, signed j =>
    if (i + j).toInt = i.toInt + j.toInt then some (signed (i + j))
    else ofResult (a.toFloat + b.toFloat)
  | _, _ => ofResult (a.toFloat + b.toFloat)

/-- The difference of two numbers. A natural minus a greater one is a word with a sign; differences
out of its range wrap around. -/
def subtract? (a b : Number) : Option Number :=
  match a, b with
  | natural m, natural n => if n ≤ m then some (natural (m - n)) else some (signed (m - n).toInt64)
  | signed i, signed j => ofInt? (i.toInt - j.toInt) <|> ofResult (a.toFloat - b.toFloat)
  | _, _ => ofResult (a.toFloat - b.toFloat)

def multiply? (a b : Number) : Option Number :=
  match a, b with
  | natural m, natural n => ofInt? (m.toNat * n.toNat) <|> ofResult (a.toFloat * b.toFloat)
  | signed i, signed j => ofInt? (i.toInt * j.toInt) <|> ofResult (a.toFloat * b.toFloat)
  | _, _ => ofResult (a.toFloat * b.toFloat)

def divide? (a b : Number) : Option Number := ofResult (a.toFloat / b.toFloat)

/-- The remainder of two numbers. The remainder of two words with a sign keeps it, even if it is
zero. -/
def remainder? (a b : Number) : Option Number :=
  match a, b with
  | natural m, natural n => if n = 0 then none else some (natural (m % n))
  | signed i, signed j => if j = 0 then none else some (signed (i % j))
  | _, _ => ofResult (floatRemainder a.toFloat b.toFloat)

/-- Numbers are equal when their values are. -/
def same (a b : Number) : Bool :=
  match a, b with
  | natural m, natural n => m == n
  | signed i, signed j => i == j
  | _, _ => a.toFloat == b.toFloat

/-- Whether the first number is less than the second. -/
def lessThan (a b : Number) : Bool :=
  match a, b with
  | natural m, natural n => decide (m < n)
  | signed i, signed j => decide (i < j)
  | _, _ => a.toFloat < b.toFloat

end Number

namespace Value

mutual

/-- Equality of values: objects whatever the order of their keys. -/
def same : Value → Value → Bool
  | null, b => match b with
    | null => true
    | _ => false
  | bool a, b => match b with
    | bool c => a == c
    | _ => false
  | number a, b => match b with
    | number c => a.same c
    | _ => false
  | string a, b => match b with
    | string c => a == c
    | _ => false
  | list items, b => match b with
    | list others => sameItems items others
    | _ => false
  | object entries, b => match b with
    | object others => entries.length == others.length && sameEntries entries others
    | _ => false

def sameItems : List Value → List Value → Bool
  | [], others => others.isEmpty
  | item :: items, others => match others with
    | [] => false
    | other :: more => item.same other && sameItems items more

/-- Whether every entry has its equal among the others. -/
def sameEntries : List (String × Value) → List (String × Value) → Bool
  | [], _ => true
  | (key, value) :: entries, others =>
    (match others.lookup key with
      | some other => value.same other
      | none => false) && sameEntries entries others

end

end Value

end SetupRecipe.Config
