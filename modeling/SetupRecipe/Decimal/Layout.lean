import SetupRecipe.Decimal.Shortest

/-!
# Written numbers

A format decides four things about its numbers: how ties between shortest decimals go, which
magnitudes are written without an exponent, whether a whole number keeps `.0`, and whether a
positive exponent has a sign.
-/

namespace SetupRecipe.Decimal

/-- The decisions of a format about its numbers. -/
structure Layout where
  tie : Tie
  /-- The powers of ten of the leading digit that need no exponent; all of them without a range. -/
  positional : Option (Int × Int)
  keepsPoint : Bool
  exponentPlus : Bool

namespace Layout

/-- Digits with the point at its place, filled with zeros where there are none. -/
def positionalText (layout : Layout) (d : Digits) : List Char :=
  if d.point ≤ 0 then
    ['0', '.'] ++ List.replicate (-d.point).toNat '0' ++ d.digits
  else
    let before := d.point.toNat
    if before < d.digits.length then d.digits.take before ++ '.' :: d.digits.drop before
    else
      d.digits ++ List.replicate (before - d.digits.length) '0'
        ++ (if layout.keepsPoint then ['.', '0'] else [])

/-- One digit before the point, the others after it, and the power of ten. -/
def exponentText (layout : Layout) (d : Digits) : List Char :=
  let power := d.point - 1
  let sign := if power < 0 then ['-'] else if layout.exponentPlus then ['+'] else []
  d.digits.take 1 ++ (if d.digits.length ≤ 1 then [] else '.' :: d.digits.drop 1)
    ++ 'e' :: sign ++ Nat.toDigits 10 power.natAbs

/-- The text of `m * 2 ^ q`. -/
def magnitudeText (layout : Layout) (m : Nat) (q : Int) : List Char :=
  if m = 0 then '0' :: (if layout.keepsPoint then ['.', '0'] else [])
  else
    let d := shortest layout.tie m q
    match layout.positional with
    | none => layout.positionalText d
    | some (least, greatest) =>
      if least ≤ d.point - 1 ∧ d.point - 1 ≤ greatest then layout.positionalText d
      else layout.exponentText d

/-- The text of a finite number, a zero with its sign. -/
def write? (layout : Layout) (x : Float) : Option String :=
  match Binary64.ofFloat x with
  | .finite negative m q =>
    some (String.ofList ((if negative then ['-'] else []) ++ layout.magnitudeText m q))
  | _ => none

end Layout

end SetupRecipe.Decimal
