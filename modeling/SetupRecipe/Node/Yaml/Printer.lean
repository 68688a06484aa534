import SetupRecipe.Node.Yaml.Reader

/-!
# Writing node data as YAML

Every collection is laid out by indentation, two columns per level; only empty ones stand in
brackets. Items of a list below a key start in the column of the key. A text is written without
quotes if it reads back as a text that way, in single quotes if they can hold it, and otherwise in
double quotes with escapes; a text of several lines is written line by line.
-/

namespace SetupRecipe.Node.Yaml

/-! ## The form of a text -/

/-- How a scalar is written. -/
inductive Style where
  | plain
  | single
  | double
  | lines
deriving DecidableEq, Repr

/-- Whether a text must be told apart from a value of another kind. -/
def isAmbiguous (s : String) : Bool :=
  match Plain.ofText s with
  | .text => isZeroLed s.toList
  | _ => true

/-- The style that a text asks for. -/
def wantedStyle (s : String) : Style :=
  if s.toList.contains '\n' then .lines
  else if isAmbiguous s then .single
  else .plain

/-- Whether a character is written as itself. -/
def isPrintable (c : Char) : Bool :=
  let n := c.toNat
  c == '\n' || 0x20 ≤ n && n ≤ 0x7E || 0xA0 ≤ n && n ≤ 0xFFFD && n != 0xFEFF || 0x10000 ≤ n

/-- Whether some character with the one property is directly followed by one with the other. -/
def hasPair (first second : Char → Bool) : List Char → Bool
  | c :: d :: rest => first c && second d || hasPair first second (d :: rest)
  | _ => false

def isSpace (c : Char) : Bool := c == ' '

/-- A blank, a line end, or a character that ends texts. -/
def isGap (c : Char) : Bool := isBlank c || isBreak c || c == '\x00'

/-- Characters that give the start of a plain scalar another meaning. -/
def isLeadingMark (c : Char) : Bool :=
  ['#', ',', '[', ']', '\x7b', '\x7d', '&', '*', '!', '|', '>', '\'', '"', '%', '@', '\x60'].contains c

/-- Whether a text starts with a mark that has another meaning there. -/
def startsMarked : List Char → Bool
  | '-' :: '-' :: '-' :: _ => true
  | '.' :: '.' :: '.' :: _ => true
  | c :: rest =>
    isLeadingMark c || (c == '?' || c == ':' || c == '-') && (rest.head?.all isGap)
  | [] => false

/-- Whether a text has marks that would end a plain scalar. -/
def hasMarks (cs : List Char) : Bool :=
  startsMarked cs || hasPair (· == ':') isGap cs || cs.getLast? == some ':'
    || hasPair isGap (· == '#') cs

/-- Whether a text can be escaped only: it has hidden characters, or spaces before a line end. -/
def needsEscapes (cs : List Char) : Bool := !cs.all isPrintable || hasPair isSpace isBreak cs

/-- Whether a text can stand without quotes. -/
def allowsPlain (cs : List Char) : Bool :=
  !(needsEscapes cs || cs.any isBreak || hasMarks cs || cs.head?.any isSpace
    || cs.getLast?.any isSpace)

/-- Whether a text can stand in single quotes. -/
def allowsSingle (cs : List Char) : Bool := !(needsEscapes cs || hasPair isBreak isSpace cs)

/-- Whether a text can be written line by line. -/
def allowsLines (cs : List Char) : Bool := !(needsEscapes cs || cs.getLast?.any isSpace)

/-- The style that a text is written in. -/
def style (s : String) : Style :=
  let cs := s.toList
  let quoted := if allowsSingle cs then Style.single else .double
  match wantedStyle s with
  | .plain => if allowsPlain cs then .plain else quoted
  | .single => quoted
  | .lines => if allowsLines cs then .lines else .double
  | .double => .double

/-! ## Texts -/

def pad (indent : Nat) : List Char := List.replicate indent ' '

/-- The rest of a text in single quotes. Lines after the first are indented. -/
def singleBody (indent : Nat) (afterBreak : Bool) : List Char → List Char
  | [] => if afterBreak then pad indent else []
  | c :: rest =>
    if isBreak c then c :: singleBody indent true rest
    else
      (if afterBreak then pad indent else []) ++ (if c = '\'' then ['\'', '\''] else [c])
        ++ singleBody indent false rest

/-- Upper-case hexadecimal digits, at least as many as given. -/
def hexDigits (count n : Nat) : List Char := ((Nat.toDigits 16 n).map Char.toUpper).leftpad count '0'

/-- The letter that stands for a character after a backslash. -/
def escapeLetter? (c : Char) : Option Char :=
  [('\x00', '0'), ('\x07', 'a'), ('\x08', 'b'), ('\t', 't'), ('\n', 'n'), ('\x0b', 'v'),
    ('\x0c', 'f'), ('\r', 'r'), ('\x1b', 'e'), ('"', '"'), ('\\', '\\'), ('\u0085', 'N'),
    ('\u00a0', '_'), ('\u2028', 'L'), ('\u2029', 'P')].lookup c

/-- A character inside double quotes. -/
def doubleChar (c : Char) : List Char :=
  if isPrintable c && !isBreak c && c != '"' && c != '\\' then [c]
  else match escapeLetter? c with
    | some letter => ['\\', letter]
    | none =>
      let n := c.toNat
      if n ≤ 0xFF then '\\' :: 'x' :: hexDigits 2 n
      else if n ≤ 0xFFFF then '\\' :: 'u' :: hexDigits 4 n
      else '\\' :: 'U' :: hexDigits 8 n

/-- The lines of a text, each but an empty one indented. -/
def linesBody (indent : Nat) (afterBreak : Bool) : List Char → List Char
  | [] => []
  | c :: rest =>
    if isBreak c then c :: linesBody indent true rest
    else (if afterBreak then pad indent else []) ++ c :: linesBody indent false rest

/-- The marks for lines that start with blanks, and for the line ends at the end. -/
def linesHints (cs : List Char) : List Char :=
  let start := if cs.head?.any fun c => isSpace c || isBreak c then ['2'] else []
  let final := match cs.reverse with
    | c :: d :: _ => if !isBreak c then ['-'] else if isBreak d then ['+'] else []
    | [c] => if isBreak c then ['+'] else ['-']
    | [] => ['-']
  start ++ final

/-- A text whose lines after the first are indented by a number of columns. -/
def textAt (indent : Nat) (s : String) : List Char :=
  let cs := s.toList
  match style s with
  | .plain => cs
  | .single => '\'' :: singleBody indent false cs ++ ['\'']
  | .double => '"' :: cs.flatMap doubleChar ++ ['"']
  | .lines => '|' :: linesHints cs ++ '\n' :: linesBody indent true cs

/-! ## Values -/

/-- A text that ends its line; one that ends with a line end of any kind does so already. -/
def endLine (text : List Char) : List Char :=
  if text.getLast?.any isBreak then text else text ++ ['\n']

/-- The longest key that stands on the line of its value. -/
def maxKeySize : Nat := 128

/-- Whether a key stands on the line of its value. -/
def isShortKey (key : String) : Bool :=
  !key.toList.any isBreak && key.utf8ByteSize ≤ maxKeySize

mutual

/-- A value after its key in a mapping at an indentation. -/
def afterKey (indent : Nat) : Value → List Char
  | .array (item :: items) => '\n' :: itemsText indent (pad indent) (item :: items)
  | .object (entry :: entries) =>
    '\n' :: entriesText (indent + 2) (pad (indent + 2)) (entry :: entries)
  | .array [] => [' ', '[', ']']
  | .object [] => [' ', '\x7b', '\x7d']
  | .boolean b => ' ' :: (if b then "true" else "false").toList
  | .integer i => ' ' :: (toString i.toInt).toList
  | .decimal x => ' ' :: (decimalText x).toList
  | .text s => ' ' :: textAt (indent + 2) s

/-- A value after a mark that stands at an indentation. -/
def afterMark (indent : Nat) : Value → List Char
  | .array (item :: items) => itemsText (indent + 2) [' '] (item :: items)
  | .object (entry :: entries) => entriesText (indent + 2) [' '] (entry :: entries)
  | .array [] => [' ', '[', ']']
  | .object [] => [' ', '\x7b', '\x7d']
  | .boolean b => ' ' :: (if b then "true" else "false").toList
  | .integer i => ' ' :: (toString i.toInt).toList
  | .decimal x => ' ' :: (decimalText x).toList
  | .text s => ' ' :: textAt (indent + 2) s

/-- Items at an indentation, of which the first stands after `lead`. -/
def itemsText (indent : Nat) (lead : List Char) : List Value → List Char
  | [] => []
  | item :: items =>
    endLine (lead ++ '-' :: afterMark indent item) ++ itemsText indent (pad indent) items

/-- Entries at an indentation, of which the first stands after `lead`. -/
def entriesText (indent : Nat) (lead : List Char) : List (String × Value) → List Char
  | [] => []
  | (key, value) :: entries =>
    let entry :=
      if isShortKey key then lead ++ textAt (indent + 2) key ++ ':' :: afterKey indent value
      else
        endLine (lead ++ '?' :: ' ' :: textAt (indent + 2) key)
          ++ pad indent ++ ':' :: afterMark indent value
    endLine entry ++ entriesText indent (pad indent) entries

end

end SetupRecipe.Node.Yaml

namespace SetupRecipe

/-- Node data as a YAML document. -/
def NodeData.yaml (node : NodeData) : String :=
  if node.isEmpty then "\x7b\x7d\n"
  else String.ofList (Node.Yaml.entriesText 0 [] node.entries)

end SetupRecipe
