import SetupRecipe.Decimal.Binary64

/-!
# Plain scalars of YAML

A scalar without quotes stands for null, a truth value, a number or itself. Whole numbers may have a
base; digits with a leading zero are no number, so that codes such as `007` stay texts. Decimals
that are too large for the floating point format are texts as well.
-/

namespace SetupRecipe.Node.Yaml

/-- What a plain scalar stands for. -/
inductive Plain where
  | null
  | boolean (b : Bool)
  | integer (n : Int)
  | decimal (x : Float)
  | text

/-! ## Words -/

def isNullWord (s : String) : Bool :=
  s = "" || s = "~" || s = "null" || s = "Null" || s = "NULL"

def boolean? (s : String) : Option Bool :=
  if s = "true" ∨ s = "True" ∨ s = "TRUE" then some true
  else if s = "false" ∨ s = "False" ∨ s = "FALSE" then some false
  else none

/-! ## Whole numbers -/

/-- The value of a digit in bases up to sixteen. -/
def digitOf? (c : Char) : Option Nat :=
  if c.isDigit then some (c.toNat - '0'.toNat)
  else if 'a' ≤ c ∧ c ≤ 'f' then some (c.toNat - 'a'.toNat + 10)
  else if 'A' ≤ c ∧ c ≤ 'F' then some (c.toNat - 'A'.toNat + 10)
  else none

/-- The number that digits of a base stand for; there is at least one. -/
def natural? (base : Nat) (digits : List Char) : Option Nat :=
  if digits.isEmpty then none
  else digits.foldlM (fun n c => do
    let d ← digitOf? c
    if d < base then some (base * n + d) else none) 0

/-- Digits without a sign, with the mark of a base or in base ten. -/
def magnitude? : List Char → Option Nat
  | '0' :: 'x' :: digits => natural? 16 digits
  | '0' :: 'o' :: digits => natural? 8 digits
  | '0' :: 'b' :: digits => natural? 2 digits
  | digits => natural? 10 digits

/-- What follows the sign of a number, if it has one. -/
def dropSign : List Char → List Char
  | '-' :: rest => rest
  | '+' :: rest => rest
  | rest => rest

/-- Whether a scalar consists of digits, the first of several being zero. -/
def isZeroLed (cs : List Char) : Bool :=
  match dropSign cs with
  | '0' :: rest => !rest.isEmpty && rest.all Char.isDigit
  | _ => false

/-- The whole number that a scalar stands for. Numbers of more than 128 bits are no whole numbers. -/
def integer? (cs : List Char) : Option Int :=
  if isZeroLed cs then none
  else match cs with
    | '-' :: rest => do
      let n ← magnitude? rest
      if n ≤ Decimal.twoPow 127 then some (-n) else none
    | cs => do
      let n ← magnitude? (dropSign cs)
      if n < Decimal.twoPow 128 then some n else none

/-! ## Decimals -/

/-- The exponent that may end a decimal; nothing else may. -/
def exponent? : List Char → Option Int
  | [] => some 0
  | mark :: rest =>
    if mark = 'e' ∨ mark = 'E' then do
      let n ← natural? 10 (dropSign rest)
      some (if rest.head? = some '-' then -n else n)
    else none

/-- The digits after the point, if there is one, and what follows them. -/
def fraction : List Char → List Char × List Char
  | '.' :: rest => (rest.takeWhile Char.isDigit, rest.dropWhile Char.isDigit)
  | rest => ([], rest)

/-- The decimal that a number without a sign stands for: digits before or after a point, and a
power of ten. -/
def unsignedDecimal? (negative : Bool) (cs : List Char) : Option Float := do
  let whole := cs.takeWhile Char.isDigit
  let (places, rest) := fraction (cs.dropWhile Char.isDigit)
  let n ← natural? 10 (whole ++ places)
  let power ← exponent? rest
  return Decimal.Binary64.ofDecimal negative n (power - places.length)

def isFinite (x : Float) : Bool :=
  match Decimal.Binary64.ofFloat x with
  | .finite _ _ _ => true
  | _ => false

/-- The decimals that have names. -/
def namedDecimal? (s : String) : Option Float :=
  if s ∈ [".inf", ".Inf", ".INF", "+.inf", "+.Inf", "+.INF"] then some (1.0 / 0.0)
  else if s ∈ ["-.inf", "-.Inf", "-.INF"] then some (-1.0 / 0.0)
  else if s ∈ [".nan", ".NaN", ".NAN"] then some (0.0 / 0.0)
  else none

/-- The decimal that a scalar stands for. -/
def decimal? (s : String) : Option Float :=
  match namedDecimal? s with
  | some x => some x
  | none =>
    if isZeroLed s.toList then none
    else (unsignedDecimal? (s.startsWith "-") (dropSign s.toList)).filter isFinite

/-! ## Reading -/

/-- What a plain scalar stands for. -/
def Plain.ofText (s : String) : Plain :=
  if isNullWord s then null
  else match boolean? s with
    | some b => boolean b
    | none =>
      match integer? s.toList with
      | some n => integer n
      | none =>
        match decimal? s with
        | some x => decimal x
        | none => text

end SetupRecipe.Node.Yaml
