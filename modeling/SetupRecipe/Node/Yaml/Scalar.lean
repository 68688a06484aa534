import SetupRecipe.Node.Yaml.Plain

/-!
# Scalars in a YAML text

A scalar may run over several lines. A line end inside a scalar counts as one blank, and empty lines
count as line ends; blanks around line ends do not count. Plain scalars end where a mark follows
that would give the text another meaning, quoted ones at their quote.
-/

namespace SetupRecipe.Node.Yaml

/-! ## Characters -/

def isBlank (c : Char) : Bool := c == ' ' || c == '\t'

def isBreak (c : Char) : Bool :=
  c == '\n' || c == '\r' || c == '\u0085' || c == '\u2028' || c == '\u2029'

/-- Every line end that stands for a newline as a newline. -/
def normalizeBreaks : List Char → List Char
  | '\r' :: '\n' :: rest => '\n' :: normalizeBreaks rest
  | '\r' :: rest => '\n' :: normalizeBreaks rest
  | '\u0085' :: rest => '\n' :: normalizeBreaks rest
  | c :: rest => c :: normalizeBreaks rest
  | [] => []

/-- Whether a character may stand in a text at all. -/
def isAllowed (c : Char) : Bool :=
  let n := c.toNat
  c == '\t' || c == '\n' || c == '\r' || n == 0x85 || 0x20 ≤ n && n ≤ 0x7E
    || 0xA0 ≤ n && n ≤ 0xFFFD || 0x10000 ≤ n

/-- Whether a text ends here, or goes on with a blank or a line end. -/
def startsBlank : List Char → Bool
  | [] => true
  | c :: _ => isBlank c || isBreak c

/-- Whether a line starts with the mark that opens or closes a document. -/
def isDocumentMark : List Char → Bool
  | '-' :: '-' :: '-' :: rest => startsBlank rest
  | '.' :: '.' :: '.' :: rest => startsBlank rest
  | _ => false

/-! ## Line ends -/

/-- What stands between two words of a scalar. -/
structure Gap where
  blanks : List Char
  /-- The line ends; the blanks do not count if there is one. -/
  breaks : List Char
  /-- The columns since the last line end, or since the gap began. -/
  column : Nat
  rest : List Char

/-- Line ends and the blanks at the starts of lines. A tab must not stand before the column that the
lines have to reach. -/
def lineStarts (least column : Nat) : List Char → Option Gap
  | [] => some ⟨[], [], column, []⟩
  | c :: rest =>
    if isBreak c then
      (lineStarts least 0 rest).map fun gap => { gap with breaks := c :: gap.breaks }
    else if isBlank c then
      if c = '\t' ∧ column < least then none else lineStarts least (column + 1) rest
    else some ⟨[], [], column, c :: rest⟩

/-- The gap at the front of a text. -/
def gap (least : Nat) (cs : List Char) : Option Gap :=
  let blanks := cs.takeWhile isBlank
  match cs.dropWhile isBlank with
  | [] => some ⟨blanks, [], blanks.length, []⟩
  | c :: rest =>
    if isBreak c then
      (lineStarts least 0 rest).map fun gap => { gap with blanks, breaks := c :: gap.breaks }
    else some ⟨blanks, [], blanks.length, c :: rest⟩

/-- What a gap counts as: a lone line end as a blank, further ones as themselves. -/
def Gap.folded (gap : Gap) : List Char :=
  match gap.breaks with
  | [] => gap.blanks
  | ['\n'] => [' ']
  | '\n' :: more => more
  | breaks => breaks

/-! ## Plain scalars -/

/-- The marks that separate the parts of lists and mappings in brackets. -/
def isFlowMark (c : Char) : Bool :=
  c == ',' || c == '[' || c == ']' || c == '\x7b' || c == '\x7d'

/-- The characters of a plain scalar up to a blank or a mark that ends it. In brackets, a colon
directly before a mark is refused. -/
def plainWord (inBrackets : Bool) : List Char → Option (List Char × List Char)
  | [] => some ([], [])
  | c :: rest =>
    if startsBlank (c :: rest) || c == ':' && startsBlank rest || inBrackets && isFlowMark c then
      some ([], c :: rest)
    else if inBrackets && c == ':' && rest.head?.any (fun d => isFlowMark d || d == '?') then none
    else (plainWord inBrackets rest).map fun (word, rest) => (c :: word, rest)

/-- The words of a plain scalar and the gaps between them, up to `fuel` words; beside them what
follows the scalar, and whether a line end comes before that. -/
def plainWords? (inBrackets : Bool) (least : Nat) :
    Nat → List Char → Option (List Char × List Char × Bool)
  | 0, _ => none
  | fuel + 1, cs => do
    let (word, rest) ← plainWord inBrackets cs
    let gap ← gap least rest
    let broken := !gap.breaks.isEmpty
    let ends := !startsBlank rest || rest.isEmpty || !inBrackets && broken && gap.column < least
      || broken && gap.column == 0 && isDocumentMark gap.rest || gap.rest.head? == some '#'
    if ends then return (word, gap.rest, broken)
    else
      let (next, _) ← plainWord inBrackets gap.rest
      if next.isEmpty then return (word, gap.rest, broken)
      else
        let (more, rest, ended) ← plainWords? inBrackets least fuel gap.rest
        return (word ++ gap.folded ++ more, rest, ended)

/-- The plain scalar at the front of a text. -/
def plainScalar? (inBrackets : Bool) (least : Nat) (cs : List Char) :
    Option (List Char × List Char × Bool) :=
  plainWords? inBrackets least (cs.length + 1) cs

/-! ## Quoted scalars -/

/-- The number of hexadecimal digits. -/
def character? (digits : List Char) : Option Char := do
  let n ← natural? 16 digits
  if n < 0xD800 ∨ 0xDFFF < n ∧ n ≤ 0x10FFFF then some (Char.ofNat n) else none

/-- What a letter after a backslash stands for. -/
def letterEscape? (c : Char) : Option Char :=
  [('0', '\x00'), ('a', '\x07'), ('b', '\x08'), ('t', '\t'), ('\t', '\t'), ('n', '\n'),
    ('v', '\x0b'), ('f', '\x0c'), ('r', '\r'), ('e', '\x1b'), (' ', ' '), ('"', '"'), ('/', '/'),
    ('\\', '\\'), ('N', '\u0085'), ('_', '\u00a0'), ('L', '\u2028'), ('P', '\u2029')].lookup c

/-- The number of hexadecimal digits after a letter that announces some. -/
def hexCount? (c : Char) : Option Nat := [('x', 2), ('u', 4), ('U', 8)].lookup c

/-- The character that follows a backslash, and the rest. -/
def escape? : List Char → Option (Char × List Char)
  | [] => none
  | c :: rest =>
    match hexCount? c with
    | some count =>
      if rest.length < count then none
      else (character? (rest.take count)).map fun c => (c, rest.drop count)
    | none => (letterEscape? c).map fun c => (c, rest)

/-- The text of a quoted scalar up to its quote, in at most `fuel` steps, and what follows it. -/
def quotedText? (quote : Char) : Nat → List Char → Option (List Char × List Char)
  | 0, _ => none
  | _, [] => none
  | fuel + 1, c :: rest =>
    if c = quote then
      if quote = '\'' ∧ rest.head? = some '\'' then
        (quotedText? quote fuel (rest.drop 1)).map fun (text, rest) => ('\'' :: text, rest)
      else some ([], rest)
    else if startsBlank (c :: rest) then do
      let gap ← gap 0 (c :: rest)
      let (text, rest) ← more fuel gap
      return (gap.folded ++ text, rest)
    else if c = '\\' ∧ quote = '"' then
      match rest with
      | d :: after =>
        if isBreak d then do
          let gap ← lineStarts 0 0 after
          let (text, rest) ← more fuel gap
          return (gap.breaks ++ text, rest)
        else do
          let (e, after) ← escape? rest
          let (text, rest) ← quotedText? quote fuel after
          return (e :: text, rest)
      | [] => none
    else (quotedText? quote fuel rest).map fun (text, rest) => (c :: text, rest)
where
  /-- Goes on after a gap; a document mark must not stand inside quotes. -/
  more (fuel : Nat) (gap : Gap) : Option (List Char × List Char) :=
    if gap.column == 0 && isDocumentMark gap.rest then none
    else quotedText? quote fuel gap.rest

/-- The scalar after an opening quote, and what follows its closing quote. -/
def quotedScalar? (quote : Char) (cs : List Char) : Option (List Char × List Char) :=
  quotedText? quote (cs.length + 1) cs

end SetupRecipe.Node.Yaml
