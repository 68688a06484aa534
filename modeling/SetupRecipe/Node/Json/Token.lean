import SetupRecipe.Decimal.Layout
import SetupRecipe.Node.Value

/-!
# Tokens of JSON

A JSON text is a sequence of tokens with blanks between them. This file spells tokens and reads
them. Node data has no null, so `null` is no token that can be read; it is only written, in the
place of a decimal that JSON cannot express.
-/

namespace SetupRecipe.Node.Json

/-- A token, the scalar ones with their values. -/
inductive Token where
  | openArray
  | closeArray
  | openObject
  | closeObject
  | comma
  | colon
  | boolean (b : Bool)
  | integer (i : Int64)
  | decimal (x : Float)
  | text (s : String)

/-! ## Spelling -/

/-- Decimals keep a point or an exponent, so that they do not read back as whole numbers. -/
def decimalLayout : Decimal.Layout :=
  { tie := .even, positional := some (-5, 15), keepsPoint := true, exponentPlus := true }

/-- The two hexadecimal digits of a number below 256. -/
def hexPair (n : Nat) : List Char := (Nat.toDigits 16 n).leftpad 2 '0'

/-- A character inside quotes. Control characters below the blank have no spelling of their own. -/
def escapeChar (c : Char) : List Char :=
  if c = '"' then ['\\', '"']
  else if c = '\\' then ['\\', '\\']
  else if c = '\n' then ['\\', 'n']
  else if c = '\r' then ['\\', 'r']
  else if c = '\t' then ['\\', 't']
  else if c = '\x08' then ['\\', 'b']
  else if c = '\x0c' then ['\\', 'f']
  else if c.toNat < 32 then ['\\', 'u', '0', '0'] ++ hexPair c.toNat
  else [c]

def quoted (s : String) : List Char := '"' :: s.toList.flatMap escapeChar ++ ['"']

def Token.spelling : Token → List Char
  | openArray => ['[']
  | closeArray => [']']
  | openObject => ['\x7b']
  | closeObject => ['\x7d']
  | comma => [',']
  | colon => [':']
  | boolean true => "true".toList
  | boolean false => "false".toList
  | integer i => (toString i.toInt).toList
  | decimal x => ((decimalLayout.write? x).getD "null").toList
  | text s => quoted s

/-! ## Numbers -/

/-- The parts of a written number. -/
structure Numeral where
  negative : Bool
  whole : List Char
  fraction : List Char
  /-- The power of ten after `e`, if there is one. -/
  exponent : Option Int
  /-- Whether there is a point or an exponent. -/
  isDecimal : Bool

def digitValue (c : Char) : Nat := c.toNat - '0'.toNat

/-- The greatest number of 64 bits. -/
def wordMax : Nat := Decimal.twoPow 64 - 1

/-- The number of the leading digits that fit 64 bits after those of `n`, and the digits left. -/
def leadingWord (n : Nat) : List Char → Nat × List Char
  | [] => (n, [])
  | d :: rest =>
    if wordMax < 10 * n + digitValue d then (n, d :: rest)
    else leadingWord (10 * n + digitValue d) rest

def tenPower (e : Nat) : Float := Decimal.Binary64.nearest false (Decimal.tenPow e) 1

/-- `x * 10 ^ e` in floating point steps whose powers of ten are finite; none when the result is
too large. -/
def scale? (x : Float) (e : Int) : Option Float :=
  if 0 ≤ e then
    if e ≤ 308 then
      let y := x * tenPower e.toNat
      if y.isInf then none else some y
    else if x == 0 then some x else none
  else if -308 ≤ e then some (x / tenPower (-e).toNat)
  else if -616 ≤ e then some (x / tenPower 308 / tenPower (-e - 308).toNat)
  else some 0

namespace Numeral

/-- The decimal of a numeral: its leading digits as one word, scaled by a power of ten. -/
def decimal? (numeral : Numeral) : Option Float :=
  let (high, skipped) := leadingWord 0 numeral.whole
  let (word, unread) := leadingWord high numeral.fraction
  let places : Int := (numeral.fraction.length : Int) - unread.length
  let power := (skipped.length : Int) - places + numeral.exponent.getD 0
  (scale? (UInt64.ofNat word).toFloat power).map fun x => if numeral.negative then -x else x

/-- Whole numbers that fit become integers, all others decimals; `-0` is a decimal, for integers
have one zero. -/
def token? (numeral : Numeral) : Option Token :=
  let magnitude := numeral.whole.foldl (fun n d => 10 * n + digitValue d) 0
  if numeral.isDecimal then numeral.decimal?.map .decimal
  else if numeral.negative then
    if 0 < magnitude ∧ magnitude ≤ Decimal.twoPow 63 then some (.integer (Int64.ofInt (-magnitude)))
    else numeral.decimal?.map .decimal
  else if magnitude < Decimal.twoPow 63 then some (.integer (Int64.ofInt magnitude))
  else numeral.decimal?.map .decimal

end Numeral

/-- The digits that start a text, if there is one, and the rest. -/
def digits? (cs : List Char) : Option (List Char × List Char) :=
  match cs.takeWhile Char.isDigit with
  | [] => none
  | digits => some (digits, cs.dropWhile Char.isDigit)

/-- The digits before the point: a leading zero stands alone. -/
def whole? : List Char → Option (List Char × List Char)
  | '0' :: rest => some (['0'], rest)
  | cs => digits? cs

/-- The digits after a point; a point without a digit is refused. -/
def fraction? : List Char → Option (Option (List Char) × List Char)
  | '.' :: rest => (digits? rest).map fun (digits, rest) => (some digits, rest)
  | cs => some (none, cs)

/-- The sign of an exponent: whether it is negative. -/
def exponentSign : List Char → Bool × List Char
  | '-' :: rest => (true, rest)
  | '+' :: rest => (false, rest)
  | rest => (false, rest)

/-- The exponent that may follow a number. -/
def exponent? : List Char → Option (Option Int × List Char)
  | c :: rest =>
    if c = 'e' ∨ c = 'E' then
      let (negative, rest) := exponentSign rest
      (digits? rest).map fun (digits, rest) =>
        let n : Int := (digits.foldl (fun n d => 10 * n + digitValue d) 0 : Nat)
        (some (if negative then -n else n), rest)
    else some (none, c :: rest)
  | [] => some (none, [])

/-- The number that starts a text, and the rest. -/
def number? (cs : List Char) : Option (Token × List Char) :=
  let (negative, cs) := match cs with
    | '-' :: rest => (true, rest)
    | rest => (false, rest)
  do
    let (whole, cs) ← whole? cs
    let (fraction, cs) ← fraction? cs
    let (exponent, cs) ← exponent? cs
    let token ← Numeral.token?
      { negative, whole, fraction := fraction.getD [], exponent
        isDecimal := fraction.isSome || exponent.isSome }
    return (token, cs)

/-! ## Texts -/

def hexValue? (c : Char) : Option Nat :=
  if c.isDigit then some (digitValue c)
  else if 'a' ≤ c ∧ c ≤ 'f' then some (c.toNat - 'a'.toNat + 10)
  else if 'A' ≤ c ∧ c ≤ 'F' then some (c.toNat - 'A'.toNat + 10)
  else none

/-- The number of four hexadecimal digits. -/
def hexWord? (a b c d : Char) : Option Nat := do
  return ((16 * (16 * (16 * (← hexValue? a) + (← hexValue? b)) + (← hexValue? c))) + (← hexValue? d))

/-- What one letter after a backslash stands for. -/
def simpleEscape? (c : Char) : Option Char :=
  if c = '"' then some '"'
  else if c = '\\' then some '\\'
  else if c = '/' then some '/'
  else if c = 'b' then some '\x08'
  else if c = 'f' then some '\x0c'
  else if c = 'n' then some '\n'
  else if c = 'r' then some '\r'
  else if c = 't' then some '\t'
  else none

/-- The character of two halves of a surrogate pair. -/
def surrogatePair? (high low : Nat) : Option Char :=
  if 0xD800 ≤ high ∧ high < 0xDC00 ∧ 0xDC00 ≤ low ∧ low < 0xE000 then
    some (Char.ofNat (0x10000 + (high - 0xD800) * 0x400 + (low - 0xDC00)))
  else none

/-- The characters up to the closing quote, and what follows it. Raw control characters and halves
of surrogate pairs are refused. -/
def textBody? : List Char → Option (List Char × List Char)
  | [] => none
  | '"' :: rest => some ([], rest)
  | '\\' :: 'u' :: a :: b :: c :: d :: rest => do
    let n ← hexWord? a b c d
    if n < 0xD800 ∨ 0xE000 ≤ n then
      let (more, rest) ← textBody? rest
      return (Char.ofNat n :: more, rest)
    else
      match rest with
      | '\\' :: 'u' :: e :: f :: g :: h :: rest =>
        let char ← surrogatePair? n (← hexWord? e f g h)
        let (more, rest) ← textBody? rest
        return (char :: more, rest)
      | _ => none
  | '\\' :: c :: rest => do
    let char ← simpleEscape? c
    let (more, rest) ← textBody? rest
    return (char :: more, rest)
  | c :: rest =>
    if c = '\\' ∨ c.toNat < 32 then none
    else do
      let (more, rest) ← textBody? rest
      return (c :: more, rest)

/-! ## Reading -/

def isBlank (c : Char) : Bool := c = ' ' || c = '\n' || c = '\r' || c = '\t'

/-- The token that starts a text, and the rest. -/
def next? : List Char → Option (Token × List Char)
  | [] => none
  | '[' :: rest => some (.openArray, rest)
  | ']' :: rest => some (.closeArray, rest)
  | '\x7b' :: rest => some (.openObject, rest)
  | '\x7d' :: rest => some (.closeObject, rest)
  | ',' :: rest => some (.comma, rest)
  | ':' :: rest => some (.colon, rest)
  | '"' :: rest => (textBody? rest).map fun (s, rest) => (.text (String.ofList s), rest)
  | 't' :: 'r' :: 'u' :: 'e' :: rest => some (.boolean true, rest)
  | 'f' :: 'a' :: 'l' :: 's' :: 'e' :: rest => some (.boolean false, rest)
  | cs => number? cs

/-- The tokens of a text, read in at most `fuel` steps. -/
def tokensWithin? : Nat → List Char → Option (List Token)
  | 0, _ => none
  | fuel + 1, cs =>
    match cs.dropWhile isBlank with
    | [] => some []
    | cs => do
      let (token, rest) ← next? cs
      return token :: (← tokensWithin? fuel rest)

/-- The tokens of a text. Every token has a character, so there are no more tokens than characters. -/
def tokens? (cs : List Char) : Option (List Token) := tokensWithin? (cs.length + 1) cs

end SetupRecipe.Node.Json
