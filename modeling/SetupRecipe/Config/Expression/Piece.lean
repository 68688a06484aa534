import SetupRecipe.Config.Expression.Printer
import SetupRecipe.Config.Reader

/-!
# Pieces of templates

A template is first read as a flat sequence of texts and markers. Backslashes escape in texts inside
double quotes only, and there only outside of directives: between a directive and its end, and in
here-documents, a backslash is a character like any other.
-/

namespace SetupRecipe.Config

open Reader

/-- What a marker between braces says. -/
inductive Directive where
  | interpolate (e : Expression)
  | beginIf (condition : Expression)
  | otherwise
  | endIf
  | beginFor (names : LoopNames) (source : Expression)
  | endFor

/-- A piece of a template: a text, or a marker with its tildes on the left and on the right and the
way it is written. -/
inductive Piece where
  | text (s : List Char)
  | marker (left : Bool) (directive : Directive) (right : Bool) (spelling : List Char)

/-! ## Texts -/

/-- The value of four or eight hexadecimal digits as a character; surrogates are none. -/
def charOfHex? (digits : List Char) : Option Char := do
  let value ← digits.foldlM (fun n c =>
    if c.isDigit then some (16 * n + (c.toNat - '0'.toNat))
    else if 'a' ≤ c ∧ c ≤ 'f' then some (16 * n + (c.toNat - 'a'.toNat + 10))
    else if 'A' ≤ c ∧ c ≤ 'F' then some (16 * n + (c.toNat - 'A'.toNat + 10))
    else none) 0
  if h : value.isValidChar then some (Char.ofNatAux value h) else none

/-- The character that a backslash and what follows it stand for. -/
def escape : Reader Char := do
  char '\\'
  match ← any with
  | '"' => return '"'
  | '\\' => return '\\'
  | '/' => return '/'
  | 'n' => return '\n'
  | 'r' => return '\r'
  | 't' => return '\t'
  | 'b' => return '\x08'
  | 'f' => return '\x0c'
  | 'u' => do
    let digits := [← any, ← any, ← any, ← any]
    (charOfHex? digits : Option Char)
  | 'U' => do
    let digits := [← any, ← any, ← any, ← any, ← any, ← any, ← any, ← any]
    (charOfHex? digits : Option Char)
  | _ => failure

/-- A doubled mark before an opening brace stands for the mark and the brace. -/
def escapedMark : Reader (List Char) := do
  match ← any, ← any, ← any with
  | '$', '$', '\x7b' => return ['$', '\x7b']
  | '%', '%', '\x7b' => return ['%', '\x7b']
  | _, _, _ => failure

/-- A character that starts no marker. -/
def plainChar (p : Char → Bool) : Reader (List Char) := do
  if ← isAhead (exact ['$', '\x7b'] <|> exact ['%', '\x7b']) then failure
  let c ← any
  if p c then return [c] else failure

/-- A text of at least one character. -/
def textOf (character : Reader (List Char)) : Reader (List Char) := do
  match ← many character with
  | [] => failure
  | runs => return runs.flatten

/-- Text inside double quotes, where backslashes escape. It ends at a backslash that escapes nothing,
which is dropped with the character after it, if that is an ASCII character. -/
def quotedText : Reader (List Char) := do
  let text ← textOf (escapedMark <|> (fun c => [c]) <$> escape
    <|> plainChar fun c => c != '"' && c != '\\')
  if ← accepts ['\\'] then
    let dropped ← any
    if 128 ≤ dropped.toNat then failure
  return text

/-- Text without escapes. -/
def plainText : Reader (List Char) := textOf (escapedMark <|> plainChar fun _ => true)

/-- The closing tag of a here-document and the blanks before it. -/
def closingTag (tag : String) : Reader (List Char) := do
  let indentation ← takeWhile isSpace
  exact tag.toList
  return indentation

/-- The end of a here-document: a line end, which belongs to the content, and a line that starts with
the tag, blanks aside. -/
def heredocEnd (tag : String) : Reader (List Char × List Char) := do
  let (_, lineEnd) ← withSpelling newline
  return (lineEnd, ← closingTag tag)

/-- Text of a here-document outside of directives. -/
def heredocText (tag : String) : Reader (List Char) :=
  textOf do
    if ← isAhead (heredocEnd tag) then failure
    escapedMark <|> plainChar fun _ => true

/-! ## Markers -/

/-- The variables of a comprehension. -/
def loopNames : Reader LoopNames := do
  let first ← name
  blanks
  if ← accepts [','] then
    blanks
    let value ← name
    return { key := some first, value }
  else return { key := none, value := first }

/-- The variables of a comprehension and what it goes through; no blank need follow the word `in`. -/
def loopSource (expression : Reader Expression) : Reader (LoopNames × Expression) := do
  let names ← padded loopNames
  exact ['i', 'n']
  return (names, ← padded expression)

/-- What stands between the braces of a directive; no blank need follow its word. -/
def directive (expression : Reader Expression) : Reader Directive := do
  if ← accepts ['i', 'f'] then return .beginIf (← padded expression)
  else if ← accepts ['e', 'l', 's', 'e'] then return .otherwise
  else if ← accepts ['e', 'n', 'd', 'i', 'f'] then return .endIf
  else if ← accepts ['e', 'n', 'd', 'f', 'o', 'r'] then return .endFor
  else
    exact ['f', 'o', 'r']
    let (names, source) ← loopSource expression
    return .beginFor names source

/-- A marker: an interpolation or a directive. -/
def marker (expression : Reader Expression) : Reader Piece := do
  let ((left, inner, right), spelling) ← withSpelling do
    let interpolates ← accepts ['$', '\x7b']
    if !interpolates then exact ['%', '\x7b']
    let left ← accepts ['~']
    let inner ← padded
      (if interpolates then Directive.interpolate <$> expression else directive expression)
    let right ← accepts ['~']
    char '\x7d'
    return (left, inner, right)
  return .marker left inner right spelling

/-! ## Sequences -/

/-- The number of open directives after a piece; none if it ends one that is not open. -/
def Piece.depthAfter? (depth : Nat) : Piece → Option Nat
  | text _ => some depth
  | marker _ directive _ _ =>
    match directive, depth with
    | .interpolate _, depth => some depth
    | .beginIf _, depth | .beginFor _ _, depth => some (depth + 1)
    | .otherwise, depth + 1 => some (depth + 1)
    | .endIf, depth + 1 | .endFor, depth + 1 => some depth
    | _, 0 => none

/-- Pieces after `depth` open directives, at most `fuel` of them; texts outside of directives are
read by `text`. -/
def piecesWithin (text : Reader (List Char)) (expression : Reader Expression) :
    Nat → Nat → Reader (List Piece)
  | 0, _ => pure []
  | fuel + 1, depth => do
    let next ← option do
      let piece ← Piece.text <$> (if depth = 0 then text else plainText) <|> marker expression
      return (piece, ← (piece.depthAfter? depth : Option Nat))
    match next with
    | none => return []
    | some (piece, depth) => return piece :: (← piecesWithin text expression fuel depth)

/-- As many pieces as there are. -/
def pieces (text : Reader (List Char)) (expression : Reader Expression) : Reader (List Piece) :=
  fun s => piecesWithin text expression s.size 0 s

/-! ## Spelling -/

/-- What stands between the braces of a marker, without the blanks that its author chose. -/
def Directive.canonicalText : Directive → String
  | interpolate e => e.textIn .canonical
  | beginIf condition => "if " ++ condition.textIn .canonical
  | otherwise => "else"
  | endIf => "endif"
  | beginFor names source => "for " ++ names.text ++ " in " ++ source.textIn .canonical
  | endFor => "endfor"

/-- The character before the braces of a marker. -/
def Directive.mark : Directive → Char
  | interpolate _ => '$'
  | _ => '%'

/-- A piece without the blanks inside of its marker. -/
def Piece.canonicalText : Piece → List Char
  | text s => escapeMarks s
  | marker left directive right _ =>
    let tilde (isThere : Bool) := if isThere then ['~'] else []
    directive.mark :: '\x7b' :: tilde left ++ directive.canonicalText.toList ++ tilde right ++ ['\x7d']

/-- A piece without quotes around it: escapes are resolved, apart from doubled marks. -/
def Piece.content : Piece → List Char
  | text s => escapeMarks s
  | marker _ _ _ spelling => spelling

/-- Whether a character has no shape of its own. -/
def isControl (c : Char) : Bool := c.toNat < 32 || 127 ≤ c.toNat && c.toNat < 160

/-- A character inside quotes inside of a marker. Control characters without a short spelling are
written by their numbers. -/
def escapeControl (c : Char) : List Char :=
  match Node.Json.escapeChar c with
  | ['\\', short] => ['\\', short]
  | _ =>
    if isControl c then
      '\\' :: 'u' :: ((Nat.toDigits 16 c.toNat).map Char.toUpper).leftpad 4 '0'
    else [c]

/-- The pieces as a text in double quotes with the necessary escapes. -/
def quotedPieces (pieces : List Piece) : List Char :=
  let inner := pieces.flatMap fun
    | .text s => (escapeMarks s).flatMap escapeControl
    | .marker _ _ _ spelling => spelling
  '"' :: inner ++ ['"']

end SetupRecipe.Config
