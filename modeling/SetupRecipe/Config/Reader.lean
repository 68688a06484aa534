/-!
# Reading text

A reader takes what it understands from the front of a text and leaves the rest; it fails when the
text does not start with what it reads. Repetition is bounded by the size of the whole text, which a
reader that takes at least one character each time cannot exceed. What has been taken is kept, so
that a part of a text can be shown as it is written; a reader may put its own spelling in its place.
-/

namespace SetupRecipe.Config

/-- A text of which some has been read. -/
structure Source where
  rest : List Char
  /-- How the text before the rest is written, the last character first. -/
  taken : List Char
  /-- The number of characters of the whole text. -/
  size : Nat

/-- A text of which nothing has been read. -/
def Source.ofText (text : List Char) : Source := { rest := text, taken := [], size := text.length }

/-- Reads a value from the front of a text. -/
abbrev Reader := StateT Source Option

namespace Reader

/-- What is read from a whole text, if nothing is left of it. -/
def readAll? (read : Reader α) (text : List Char) : Option α := do
  let (a, s) ← read (Source.ofText text)
  if s.rest.isEmpty then some a else none

/-- The next character, which is not taken. -/
def peek? : Reader (Option Char) := fun s => some (s.rest.head?, s)

/-- Takes one character. -/
def any : Reader Char := fun s =>
  match s.rest with
  | [] => none
  | c :: rest => some (c, { s with rest, taken := c :: s.taken })

/-- Succeeds at the end of the text only. -/
def atEnd : Reader Unit := fun s => if s.rest.isEmpty then some ((), s) else none

/-- What is left of a text that starts with the given characters. -/
def strip? : List Char → List Char → Option (List Char)
  | [], cs => some cs
  | _ :: _, [] => none
  | w :: word, c :: cs => if w = c then strip? word cs else none

/-- Takes the given characters. -/
def exact (word : List Char) : Reader Unit := fun s =>
  (strip? word s.rest).map fun rest => ((), { s with rest, taken := word.reverse ++ s.taken })

/-- Takes the given character. -/
def char (c : Char) : Reader Unit := exact [c]

/-- Takes the characters up to the first one without the property. -/
def takeWhile (p : Char → Bool) : Reader (List Char) := fun s =>
  let word := s.rest.takeWhile p
  some (word, { s with rest := s.rest.dropWhile p, taken := word.reverse ++ s.taken })

/-- Takes at least one character with the property. -/
def takeWhile1 (p : Char → Bool) : Reader (List Char) := do
  match ← takeWhile p with
  | [] => failure
  | taken => return taken

/-- Takes what the reader takes, or nothing. -/
def option (read : Reader α) : Reader (Option α) := fun s =>
  match read s with
  | some (a, next) => some (some a, next)
  | none => some (none, s)

/-- Whether the text goes on with what the reader takes, which is left there. -/
def isAhead (read : Reader α) : Reader Bool := fun s => some ((read s).isSome, s)

/-- Whether the text goes on with the given characters, which are taken if so. -/
def accepts (word : List Char) : Reader Bool := do return (← option (exact word)).isSome

def manyWithin (read : Reader α) : Nat → Reader (List α)
  | 0 => pure []
  | n + 1 => fun s =>
    match read s with
    | none => some ([], s)
    | some (a, next) => (manyWithin read n next).map fun (more, last) => (a :: more, last)

/-- Takes as many pieces as there are. -/
def many (read : Reader α) : Reader (List α) := fun s => manyWithin read s.size s

/-- Takes pieces with a comma between two of them, or none. -/
def separated (read : Reader α) : Reader (List α) := do
  match ← option read with
  | none => return []
  | some first =>
    let more ← many do
      char ','
      read
    return first :: more

/-! ## Spelling -/

/-- The value that a reader reads, and how it is written. -/
def withSpelling (read : Reader α) : Reader (α × List Char) := fun s =>
  (read { s with taken := [] }).map fun (a, next) =>
    ((a, next.taken.reverse), { next with taken := next.taken ++ s.taken })

/-- Reads a value and gives it a spelling of its own. -/
def spelledAs (spelling : α → List Char) (read : Reader α) : Reader α := fun s =>
  (read s).map fun (a, next) => (a, { next with taken := (spelling a).reverse ++ s.taken })

/-! ## Blanks and comments -/

/-- What is taken up to the end mark of a comment, and the rest after the mark. -/
def commentEnd? (taken : List Char) : List Char → Option (List Char × List Char)
  | '*' :: '/' :: rest => some ('/' :: '*' :: taken, rest)
  | c :: rest => commentEnd? (c :: taken) rest
  | [] => none

/-- A comment between `/*` and `*/`. -/
def blockComment : Reader Unit := do
  exact ['/', '*']
  fun s => (commentEnd? s.taken s.rest).map fun (taken, rest) => ((), { s with rest, taken })

/-- A line end. -/
def newline : Reader Unit := exact ['\n'] <|> exact ['\r', '\n']

/-- A comment that runs to the end of the line; a carriage return in it must belong to that. -/
def lineComment : Reader Unit := do
  exact ['#'] <|> exact ['/', '/']
  discard (takeWhile fun c => c != '\n' && c != '\r')
  if (← peek?) = some '\r' ∧ !(← isAhead newline) then failure

def isSpace (c : Char) : Bool := c == ' ' || c == '\t'

def isBlank (c : Char) : Bool := isSpace c || c == '\n' || c == '\r'

/-- Blanks and comments within a line. -/
def spaces : Reader Unit := discard (many (discard (takeWhile1 isSpace) <|> blockComment))

/-- Blanks and comments over any number of lines. -/
def blanks : Reader Unit :=
  discard (many (discard (takeWhile1 isBlank) <|> lineComment <|> blockComment))

/-- What stands between blanks. -/
def padded (read : Reader α) : Reader α := do
  blanks
  let a ← read
  blanks
  return a

/-! ## Names -/

def isNameStart (c : Char) : Bool := c.isAlpha || c == '_'

def isNamePart (c : Char) : Bool := c.isAlphanum || c == '_' || c == '-'

/-- A name: a letter or underscore, then letters, digits, underscores and dashes. -/
def name : Reader String := do
  match ← peek? with
  | some c => if isNameStart c then return String.ofList (← takeWhile isNamePart) else failure
  | none => failure

end Reader

end SetupRecipe.Config
