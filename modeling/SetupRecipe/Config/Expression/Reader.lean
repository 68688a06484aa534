import SetupRecipe.Config.Expression.Printer
import SetupRecipe.Config.Expression.Template

/-!
# Reading expressions

An expression is a term, or a term with an operator or the branches of a condition and a further
expression after it. Operators of equal rank group from the right, and a condition binds only the
term directly before its question mark. An expression ends with its line, unless it stands in
parentheses or has come past a term in parentheses.
-/

namespace SetupRecipe.Config

open Reader

/-- Where an expression stands: on one line, or where it may go on over several. -/
inductive Place where
  | line
  | lines

/-- The blanks that may stand between the parts of an expression. -/
def Place.gap : Place → Reader Unit
  | line => spaces
  | lines => blanks

/-- Readers for what is nested in an expression. -/
structure Nested where
  read : Place → Reader Expression
  /-- Reads an expression for the sake of its spelling: its templates get no meaning. -/
  skim : Place → Reader Expression
  /-- The meaning of the text of a template. -/
  parts? : List Char → Option (List Part)

/-- An expression on a line of its own, or on a part of a line. -/
def Nested.inLine (nested : Nested) : Reader Expression := nested.read .line

/-! ## Numbers -/

def digitsValue (digits : List Char) : Nat :=
  digits.foldl (fun n d => 10 * n + (d.toNat - '0'.toNat)) 0

/-- The digits after a point. -/
def fractionDigits : Reader (List Char) := do
  char '.'
  takeWhile1 Char.isDigit

/-- The power of ten of a number. -/
def exponent : Reader Int := do
  match ← any with
  | 'e' | 'E' => pure ()
  | _ => failure
  let negative ← accepts ['-']
  if !negative then discard (accepts ['+'])
  let digits ← takeWhile1 Char.isDigit
  return if negative then -(digitsValue digits : Int) else digitsValue digits

/-- A number without a sign. Whole numbers are those of 64 bits. -/
def unsignedNumber : Reader Number := do
  let whole ← takeWhile1 Char.isDigit
  let fraction ← option fractionDigits
  let power ← option exponent
  if fraction.isNone && power.isNone then
    return ← (Number.ofInt? (digitsValue whole) : Option Number)
  let digits := fraction.getD []
  let x := Decimal.Binary64.ofDecimal false (digitsValue (whole ++ digits))
    (power.getD 0 - digits.length)
  (Number.ofFloat? x : Option Number)

/-- A minus sign and a number, blanks between them. -/
def negativeNumber : Reader Number := do
  char '-'
  spaces
  return (← unsignedNumber).negate

def number : Reader Expression := Expression.number <$> (negativeNumber <|> unsignedNumber)

/-! ## Lists and objects -/

/-- Whether a comprehension follows; its first word needs a blank or the start of a comment after
it. -/
def isLoopAhead : Reader Bool :=
  isAhead do
    blanks
    exact ['f', 'o', 'r']
    if (← any) ∈ [' ', '\t', '#', '/'] then return () else failure

/-- The part of a comprehension up to the colon. -/
def loopHead (nested : Nested) : Reader (LoopNames × Expression) := do
  blanks
  exact ['f', 'o', 'r']
  let head ← loopSource nested.inLine
  char ':'
  return head

/-- The condition at the end of a comprehension; no blank need follow its word. -/
def loopFilter (nested : Nested) : Reader (Option Expression) :=
  option do
    blanks
    exact ['i', 'f']
    padded nested.inLine

def listLoop (nested : Nested) : Reader Expression := do
  let (names, source) ← loopHead nested
  let value ← padded nested.inLine
  let filter ← loopFilter nested
  return .forList names source value filter

/-- Items separated by commas; a comma may end them. -/
def items (nested : Nested) : Reader Expression := do
  let all ← separated (padded nested.inLine)
  if !all.isEmpty then discard (accepts [','])
  blanks
  return .list all

def listOrLoop (nested : Nested) : Reader Expression := do
  char '['
  let read ← if ← isLoopAhead then listLoop nested else items nested
  char ']'
  return read

/-- An object comprehension. Only its condition may stand apart from the three dots. -/
def objectLoop (nested : Nested) : Reader Expression := do
  let (names, source) ← loopHead nested
  let key ← padded nested.inLine
  exact ['=', '>']
  let value ← padded nested.inLine
  let grouped ← accepts ['.', '.', '.']
  let filter ← loopFilter nested
  return .forObject names source key value grouped filter

/-- The key of an entry; a lone name stands for itself. -/
def entryKey (nested : Nested) : Reader Key := do
  match ← nested.inLine with
  | .variable s => return .name s
  | e => return .computed e

/-- An entry of an object, with the blanks before it and with what ends it. -/
structure Entry where
  key : Key
  value : Expression
  spelling : List Char

/-- An entry ends with a comma, a line end, or the closing brace, which is not taken. -/
def entry (nested : Nested) : Reader Entry := do
  let ((key, value), spelling) ← withSpelling do
    blanks
    let key ← entryKey nested
    spaces
    char '=' <|> char ':'
    spaces
    let value ← nested.inLine
    spaces
    discard (option lineComment)
    match ← peek? with
    | some ',' => char ','
    | some '\x7d' => pure ()
    | _ => spelledAs (fun _ => ['\n']) newline
    return (key, value)
  return ⟨key, value, spelling⟩

/-- Whether two keys are written alike, blanks aside; a bare name differs from every expression. -/
def Key.same : Key → Key → Bool
  | .name s, .name t => s == t
  | .computed d, .computed e => d.textIn .canonical == e.textIn .canonical
  | _, _ => false

/-- Adds an entry; it takes the place of an entry with the same key. -/
def insertEntry (entries : List Entry) (entry : Entry) : List Entry :=
  if entries.any fun other => other.key.same entry.key then
    entries.map fun other => if other.key.same entry.key then entry else other
  else entries ++ [entry]

/-- The entries of an object. Those that others have taken the place of are not even kept in the
spelling. -/
def entries (nested : Nested) : Reader Expression := do
  let kept ← spelledAs (fun kept => kept.flatMap Entry.spelling) do
    return (← many (entry nested)).foldl insertEntry []
  blanks
  return .object (kept.map fun entry => (entry.key, entry.value))

def objectOrLoop (nested : Nested) : Reader Expression := do
  char '\x7b'
  let read ← if ← isLoopAhead then objectLoop nested else entries nested
  char '\x7d'
  return read

/-! ## Terms -/

def parenthesis (nested : Nested) : Reader Expression := do
  char '('
  let inner ← padded (nested.read .lines)
  char ')'
  return .parenthesis inner

/-- A call of the function of the given name. Arguments are separated by commas; a comma or three
dots may end them. -/
def callOf (nested : Nested) (function : String) : Reader Expression := do
  char '('
  let arguments ← separated (padded nested.inLine)
  let spread ← if arguments.isEmpty then pure false else accepts ['.', '.', '.']
  if !arguments.isEmpty && !spread then discard (accepts [','])
  blanks
  char ')'
  return .call function arguments spread

/-- A name: a literal, a call or a variable. -/
def named (nested : Nested) : Reader Expression := do
  let word ← name
  match ← option (do blanks; callOf nested word) with
  | some call => return call
  | none =>
    match word with
    | "true" => return .bool true
    | "false" => return .bool false
    | "null" => return .null
    | _ => return .variable word

/-- A position after a dot: digits without leading zeros, within the range of numbers. -/
def position : Reader Nat := do
  let digits ← takeWhile1 Char.isDigit
  if digits.head? = some '0' ∧ 1 < digits.length then failure
  if digitsValue digits < UInt64.size then return digitsValue digits else failure

/-- A step of a look-up after its dot or in brackets. -/
def step (nested : Nested) : Reader Step := do
  match ← any with
  | '.' =>
    blanks
    if ← accepts ['*'] then return .namesOfAll
    else Step.index <$> position <|> Step.name <$> name
  | '[' =>
    let step ← padded (do
      if ← accepts ['*'] then return .all else return .at (← nested.inLine))
    char ']'
    return step
  | _ => failure

/-- A term without operators and look-up, and where the expression goes on after it. -/
def atom (nested : Nested) (place : Place) : Reader (Expression × Place) := do
  match ← peek? with
  | some '"' => return (← quoted (nested.skim .line) nested.parts?, place)
  | some '<' => return (← heredoc (nested.skim .line) nested.parts?, place)
  | some '[' => return (← listOrLoop nested, place)
  | some '\x7b' => return (← objectOrLoop nested, place)
  | some '(' => return (← parenthesis nested, .lines)
  | some c =>
    return (← if c.isDigit || c == '-' then number else named nested, place)
  | none => failure

/-- An operator before a term, with the blanks after it. A minus sign before a number belongs to the
number. -/
def unaryOperator : Reader UnaryOperator := do
  if ← isAhead negativeNumber then failure
  let operator ← match ← any with
    | '!' => pure UnaryOperator.not
    | '-' => pure UnaryOperator.negate
    | _ => failure
  spaces
  return operator

/-- The operators before a term. Only the last one counts; those before it are not even kept in the
spelling, and neither are the blanks. -/
def unaryOperators : Reader (Option UnaryOperator) := do
  spelledAs (fun last => (last.map fun operator => operator.spelling.toList).getD []) do
    return (← many unaryOperator).getLast?

/-- The steps of a look-up. The blanks before the first one are kept in the spelling, those before
the others are not. -/
def steps (nested : Nested) (place : Place) : Reader (List Step) := do
  let first ← option do
    place.gap
    step nested
  match first with
  | none => return []
  | some first =>
    let more ← many do
      spelledAs (fun _ => []) place.gap
      step nested
    return first :: more

/-- A term: an operator, an atom and the steps of a look-up, which starts from the value that the
operator gives. Beside it, where the expression goes on. -/
def term (nested : Nested) (place : Place) : Reader (Expression × Place) := do
  let operator ← unaryOperators
  let (inner, place) ← atom nested place
  let base := match operator with
    | some operator => Expression.unary operator inner
    | none => inner
  match ← steps nested place with
  | [] => return (base, place)
  | steps =>
    if ← isAhead (do place.gap; char '.') then failure
    return (.traversal base steps, place)

/-! ## Chains -/

/-- The spellings of the operators, the longer ones first. -/
def binaryOperators : List BinaryOperator :=
  [.equal, .notEqual, .lessOrEqual, .greaterOrEqual, .and, .or, .less, .greater, .plus, .minus,
    .times, .divide, .remainder]

/-- The first of some operators that the text starts with. -/
def operatorAmong : List BinaryOperator → Reader BinaryOperator
  | [] => failure
  | operator :: rest =>
    (do exact operator.spelling.toList; return operator) <|> operatorAmong rest

/-- An operator between two terms; a slash that starts a comment is none. -/
def binaryOperator : Reader BinaryOperator := do
  if ← isAhead (lineComment <|> blockComment) then failure
  operatorAmong binaryOperators

/-- Puts an operand before an expression: it takes in the operands of a tighter operator, and
stands beside those of an equal or looser one. -/
def attach (left : Expression) (operator : BinaryOperator) : Expression → Expression
  | .binary other middle right =>
    if other.rank < operator.rank then .binary other (attach left operator middle) right
    else .binary operator left (.binary other middle right)
  | right => .binary operator left right

/-- An operator and the expression after it, to be completed by the term before it. -/
def operation (nested : Nested) (place : Place) : Reader (Expression → Expression) := do
  let operator ← binaryOperator
  place.gap
  let right ← nested.read place
  return fun left => attach left operator right

/-- The branches of a condition, to be completed by the condition. -/
def branches (nested : Nested) (place : Place) : Reader (Expression → Expression) := do
  char '?'
  place.gap
  let yes ← nested.read place
  place.gap
  char ':'
  place.gap
  let no ← nested.read place
  return fun condition => .conditional condition yes no

/-- An expression without the blanks around it. -/
def expressionWith (nested : Nested) (place : Place) : Reader Expression := do
  let (first, place) ← term nested place
  match ← option (do place.gap; operation nested place <|> branches nested place) with
  | some complete => return complete first
  | none => return first

/-- An expression with parts nested less than `depth` deep; templates get a meaning if asked for. -/
def expressionWithin : Nat → Bool → Place → Reader Expression
  | 0, _ => fun _ => failure
  | depth + 1, meaning =>
    expressionWith {
      read := expressionWithin depth meaning
      skim := expressionWithin depth false
      parts? := fun text =>
        if meaning then partsOf? (expressionWithin depth true .line) text else none }

/-- An expression on a line of its own; no text has parts nested deeper than it is long. -/
def expression : Reader Expression := fun s => expressionWithin (s.size + 1) true .line s

end SetupRecipe.Config
