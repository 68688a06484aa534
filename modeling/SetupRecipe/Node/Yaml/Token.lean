import SetupRecipe.Node.Yaml.Scalar

/-!
# Tokens of YAML

Lists and mappings of a YAML text are laid out by indentation or stand in brackets. This file turns
the text into tokens in which both look alike: a collection that is laid out by indentation gets
tokens for its start and its end. Whether a scalar is a key shows only at the colon after it. The
place of every scalar that may be a key is kept until then, and the token that announces a key is put
in there.
-/

namespace SetupRecipe.Node.Yaml

inductive Token where
  | documentStart
  | documentEnd
  /-- The start of a list that is laid out by indentation. -/
  | listStart
  /-- The start of a mapping that is laid out by indentation. -/
  | mappingStart
  /-- The end of either. -/
  | layoutEnd
  | openBracket
  | closeBracket
  | openBrace
  | closeBrace
  /-- The dash before an item. -/
  | item
  | comma
  /-- What follows is a key. -/
  | key
  /-- What follows is the value of the key before. -/
  | value
  | scalar (text : String) (plain : Bool)
deriving DecidableEq, Repr

/-- A token with the line and column that it starts at. -/
structure Located where
  token : Token
  line : Nat
  column : Nat

/-- What is left of a text, and where it starts. -/
structure Cursor where
  rest : List Char
  line : Nat
  column : Nat
  /-- The number of bytes before it. -/
  offset : Nat

namespace Cursor

/-- The cursor after one more character. -/
def advance (cursor : Cursor) (c : Char) : Cursor :=
  let offset := cursor.offset + c.utf8Size
  if isBreak c then ⟨cursor.rest.drop 1, cursor.line + 1, 0, offset⟩
  else ⟨cursor.rest.drop 1, cursor.line, cursor.column + 1, offset⟩

/-- The cursor after some characters. -/
def skip (cursor : Cursor) (count : Nat) : Cursor :=
  (cursor.rest.take count).foldl advance cursor

/-- The cursor at the end of what is left. -/
def moveTo (cursor : Cursor) (rest : List Char) : Cursor :=
  cursor.skip (cursor.rest.length - rest.length)

end Cursor

/-- The place of a scalar or bracket that may turn out to start a key. -/
structure Candidate where
  /-- The number of tokens before it. -/
  index : Nat
  line : Nat
  column : Nat
  offset : Nat
  /-- Whether nothing but a key may stand there. -/
  required : Bool

/-- How far a text has been read. -/
structure Scan where
  cursor : Cursor
  tokens : Array Located
  /-- The columns of the open collections that are laid out by indentation, the innermost first. -/
  indents : List Nat
  /-- The candidates for keys: one for every open bracket, the innermost first, and one outside. -/
  candidates : List (Option Candidate)
  /-- Whether a key may start here. -/
  keyAllowed : Bool

namespace Scan

def start (text : List Char) : Scan :=
  { cursor := ⟨text, 0, 0, 0⟩, tokens := #[], indents := [], candidates := [none]
    keyAllowed := true }

def inBrackets (scan : Scan) : Bool := 1 < scan.candidates.length

/-- The least column that belongs to the innermost collection beyond its own. -/
def least (scan : Scan) : Nat :=
  match scan.indents with
  | [] => 0
  | column :: _ => column + 1

def push (scan : Scan) (token : Token) : Scan :=
  { scan with tokens := scan.tokens.push ⟨token, scan.cursor.line, scan.cursor.column⟩ }

/-- Adds the token of some characters that follow. -/
def take (scan : Scan) (token : Token) (count : Nat) : Scan :=
  { scan.push token with cursor := scan.cursor.skip count }

/-! ## Indentation -/

/-- Ends the collections that are laid out deeper than a number of columns. -/
def unroll (scan : Scan) (least : Nat) : Scan :=
  if scan.inBrackets then scan
  else
    let ended := scan.indents.takeWhile (least ≤ ·)
    { ended.foldl (fun scan _ => scan.push .layoutEnd) scan with
      indents := scan.indents.dropWhile (least ≤ ·) }

/-- Starts a collection at a column, unless one is open there; its token stands at an index. -/
def roll (scan : Scan) (token : Token) (index line column : Nat) : Scan :=
  if scan.inBrackets || column < scan.least then scan
  else
    { scan with
      indents := column :: scan.indents
      tokens := scan.tokens.insertIdxIfInBounds index ⟨token, line, column⟩ }

/-- Starts a collection at the cursor. -/
def rollHere (scan : Scan) (token : Token) : Scan :=
  scan.roll token scan.tokens.size scan.cursor.line scan.cursor.column

/-! ## Candidates for keys -/

/-- Drops a candidate; one that had to be a key must not be dropped. -/
def dropCandidate (scan : Scan) : Option Scan :=
  match scan.candidates with
  | some candidate :: others =>
    if candidate.required then none else some { scan with candidates := none :: others }
  | _ => some scan

/-- Makes what follows a candidate, if a key may start here. -/
def saveCandidate (scan : Scan) : Option Scan :=
  if scan.keyAllowed then do
    let scan ← scan.dropCandidate
    let cursor := scan.cursor
    let candidate : Candidate :=
      { index := scan.tokens.size, line := cursor.line, column := cursor.column
        offset := cursor.offset
        required := !scan.inBrackets && scan.indents.head? == some cursor.column }
    return { scan with candidates := some candidate :: scan.candidates.drop 1 }
  else some scan

/-- The greatest distance between the start of a key and its colon, in bytes. -/
def keyReach : Nat := 1024

/-- Drops the candidates on other lines and those too far away. -/
def dropStale (scan : Scan) : Option Scan := do
  let candidates ← scan.candidates.mapM fun
    | some candidate =>
      if candidate.line < scan.cursor.line ∨ candidate.offset + keyReach < scan.cursor.offset then
        if candidate.required then none else some none
      else some (some candidate)
    | none => some none
  return { scan with candidates }

/-! ## Tokens -/

/-- Where the blanks before a token have been read up to. -/
inductive BlankPlace where
  | lineStart
  | inLine
  | comment
deriving DecidableEq, Repr

/-- The number of characters before the next token, and whether a key may start there. A byte order
mark at the start of a line counts as a blank of one column. -/
def blankCount (inBrackets : Bool) : Bool → BlankPlace → List Char → Nat × Bool
  | keyAllowed, _, [] => (0, keyAllowed)
  | keyAllowed, place, c :: rest =>
    let go (keyAllowed : Bool) (place : BlankPlace) :=
      let (count, allowed) := blankCount inBrackets keyAllowed place rest
      (count + 1, allowed)
    if isBreak c then go (keyAllowed || !inBrackets) .lineStart
    else if place = .comment then go keyAllowed .comment
    else if place = .lineStart ∧ c = '\ufeff' then go keyAllowed .inLine
    else if c == ' ' || c == '\t' && (inBrackets || !keyAllowed) then go keyAllowed .inLine
    else if c = '#' then go keyAllowed .comment
    else (0, keyAllowed)

/-- Skips blanks, comments and line ends. -/
def skipBlanks (scan : Scan) : Scan :=
  let place := if scan.cursor.column = 0 then BlankPlace.lineStart else .inLine
  let (count, keyAllowed) := blankCount scan.inBrackets scan.keyAllowed place scan.cursor.rest
  { scan with cursor := scan.cursor.skip count, keyAllowed }

/-- The start or the end of a document. -/
def documentMark (scan : Scan) (token : Token) : Option Scan := do
  let scan ← (scan.unroll 0).dropCandidate
  return { scan.take token 3 with keyAllowed := false }

/-- An opening bracket or brace. -/
def openMark (scan : Scan) (token : Token) : Option Scan := do
  let scan ← scan.saveCandidate
  let scan := scan.take token 1
  return { scan with candidates := none :: scan.candidates, keyAllowed := true }

/-- A closing bracket or brace. -/
def closeMark (scan : Scan) (token : Token) : Option Scan := do
  let scan ← scan.dropCandidate
  let candidates := if scan.inBrackets then scan.candidates.drop 1 else scan.candidates
  return { scan.take token 1 with candidates, keyAllowed := false }

def commaMark (scan : Scan) : Option Scan := do
  let scan ← scan.dropCandidate
  return { scan.take .comma 1 with keyAllowed := true }

/-- The dash of an item, which may start a list. -/
def itemMark (scan : Scan) : Option Scan := do
  if !scan.inBrackets && !scan.keyAllowed then none
  let scan ← (scan.rollHere .listStart).dropCandidate
  return { scan.take .item 1 with keyAllowed := true }

/-- The question mark of a key, which may start a mapping. -/
def keyMark (scan : Scan) : Option Scan := do
  if !scan.inBrackets && !scan.keyAllowed then none
  let scan ← (scan.rollHere .mappingStart).dropCandidate
  return { scan.take .key 1 with keyAllowed := !scan.inBrackets }

/-- The colon of a value: the candidate before it becomes a key, and may start a mapping. -/
def valueMark (scan : Scan) : Option Scan :=
  match scan.candidates with
  | some candidate :: others =>
    let key : Located := ⟨.key, candidate.line, candidate.column⟩
    let scan := { scan with tokens := scan.tokens.insertIdxIfInBounds candidate.index key }
    let scan := scan.roll .mappingStart candidate.index candidate.line candidate.column
    some { scan.take .value 1 with candidates := none :: others, keyAllowed := false }
  | _ =>
    if scan.inBrackets then some { scan.take .value 1 with keyAllowed := false }
    else if scan.keyAllowed then
      some { (scan.rollHere .mappingStart).take .value 1 with keyAllowed := true }
    else none

/-- A scalar in quotes. -/
def quoted (scan : Scan) (quote : Char) : Option Scan := do
  let scan ← scan.saveCandidate
  let (text, rest) ← quotedScalar? quote (scan.cursor.rest.drop 1)
  let next := scan.push (.scalar (String.ofList text) false)
  return { next with cursor := scan.cursor.moveTo rest, keyAllowed := false }

/-- A scalar without quotes. -/
def plain (scan : Scan) : Option Scan := do
  let scan ← scan.saveCandidate
  let (text, rest, broken) ← plainScalar? scan.inBrackets scan.least scan.cursor.rest
  let next := scan.push (.scalar (String.ofList text) true)
  return { next with cursor := scan.cursor.moveTo rest, keyAllowed := broken }

/-- The characters that a plain scalar does not start with. -/
def isIndicator (c : Char) : Bool :=
  ['-', '?', ':', ',', '[', ']', '\x7b', '\x7d', '#', '&', '*', '!', '|', '>', '\'', '"', '%', '@',
    '\x60'].contains c

/-- Whether a plain scalar starts here. -/
def startsPlain (inBrackets : Bool) (c : Char) (rest : List Char) : Bool :=
  !isIndicator c && !isBlank c || c == '-' && !(rest.head?.any isBlank)
    || !inBrackets && (c == '?' || c == ':') && !startsBlank rest

/-- Reads the token at the cursor. Anchors, tags, directives and scalars in blocks of their own are
refused. -/
def token (scan : Scan) (c : Char) (rest : List Char) : Option Scan :=
  let scan := scan.unroll (scan.cursor.column + 1)
  let atLineStart := scan.cursor.column == 0
  let inBrackets := scan.inBrackets
  if atLineStart && c == '%' then none
  else if atLineStart && isDocumentMark (c :: rest) then
    scan.documentMark (if c = '-' then .documentStart else .documentEnd)
  else if c = '[' then scan.openMark .openBracket
  else if c = '\x7b' then scan.openMark .openBrace
  else if c = ']' then scan.closeMark .closeBracket
  else if c = '\x7d' then scan.closeMark .closeBrace
  else if c = ',' then scan.commaMark
  else if c == '-' && startsBlank rest then scan.itemMark
  else if c == '?' && (inBrackets || startsBlank rest) then scan.keyMark
  else if c == ':' && (inBrackets || startsBlank rest) then scan.valueMark
  else if c = '\'' ∨ c = '"' then scan.quoted c
  else if startsPlain inBrackets c rest then scan.plain
  else none

/-- The tokens of what is left, in at most `fuel` steps. -/
def finish : Nat → Scan → Option (List Located)
  | 0, _ => none
  | fuel + 1, scan => do
    let scan ← scan.skipBlanks.dropStale
    match scan.cursor.rest with
    | [] => return (← (scan.unroll 0).dropCandidate).tokens.toList
    | c :: rest => finish fuel (← scan.token c rest)

end Scan

/-- The tokens of a text. Every token has a character of its own, apart from those that indentation
adds. -/
def tokens? (cs : List Char) : Option (List Located) :=
  let text := normalizeBreaks cs
  if text.all isAllowed then (Scan.start text).finish (text.length + 1) else none

end SetupRecipe.Node.Yaml
