/-!
# Permission values

Permissions are written as four octal digits: the special bits, then the bits of user, group and
others.
-/

namespace SetupRecipe.Shell

/-- The octal digits of a number, without leading zeros. -/
def octalDigits (mode : UInt32) : String :=
  String.ofList (Nat.toDigits 8 mode.toNat)

/-- The largest permission value that four octal digits can hold. -/
def maxMode : UInt32 := 0o7777

/-- Four octal digits, if the value has no more. -/
def octalMode? (mode : UInt32) : Option String :=
  if mode ≤ maxMode then
    some (String.ofList ((Nat.toDigits 8 mode.toNat).leftpad 4 '0'))
  else none

/-! ## Reading -/

/-- The value of an octal digit. -/
def octalDigit? (c : Char) : Option Nat :=
  if '0' ≤ c ∧ c ≤ '7' then some (c.toNat - '0'.toNat) else none

/-- The number that a run of octal digits stands for. -/
def octalValue? (digits : List Char) : Option Nat :=
  digits.foldlM (fun n c => (octalDigit? c).map (8 * n + ·)) 0

/-- What follows the marks of an octal number, any number of them. -/
def dropOctalMarks : List Char → List Char
  | '0' :: 'o' :: rest => dropOctalMarks rest
  | digits => digits

/-- What follows a plus sign, if one stands at the front. -/
def dropPlus : List Char → List Char
  | '+' :: rest => rest
  | digits => digits

/-- The permission value that an author wrote in octal digits, with marks before them or not. The
value may be larger than a script can use. -/
def readMode? (text : String) : Option UInt32 :=
  match dropPlus (dropOctalMarks text.toList) with
  | [] => none
  | digits => do
    let n ← octalValue? digits
    if n < UInt32.size then some n.toUInt32 else none

end SetupRecipe.Shell
