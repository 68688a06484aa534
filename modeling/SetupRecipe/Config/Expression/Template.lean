import SetupRecipe.Config.Expression.Spacing

/-!
# Reading templates

The markers of directives are matched: every `if` with its `endif`, every `for` with its `endfor`.
A text in double quotes without markers is a string. Otherwise its escapes are resolved first, and
the text that results is read once more as a template without escapes: that gives it its meaning.
So it is with here-documents, whose text has no escapes of its own but may hold quoted texts that do.
-/

namespace SetupRecipe.Config

open Reader

/-! ## Matching directives -/

/-- A directive whose end is still to come, with the parts that stand before it. -/
inductive Pending where
  | choice (condition : Expression) (before : List Part)
  | alternative (condition : Expression) (yes before : List Part)
  | loop (names : LoopNames) (source : Expression) (before : List Part)

/-- The open directives, the innermost first, and the parts read inside of it. -/
structure Assembly where
  pending : List Pending
  parts : List Part

/-- Adds one piece. -/
def Assembly.add? (assembly : Assembly) : Piece → Option Assembly
  | .text s => some { assembly with parts := assembly.parts ++ [.text (String.ofList s)] }
  | .marker _ directive _ _ =>
    match directive, assembly.pending with
    | .interpolate e, _ => some { assembly with parts := assembly.parts ++ [.interpolation e] }
    | .beginIf condition, pending => some ⟨.choice condition assembly.parts :: pending, []⟩
    | .beginFor names source, pending => some ⟨.loop names source assembly.parts :: pending, []⟩
    | .otherwise, .choice condition before :: pending =>
      some ⟨.alternative condition assembly.parts before :: pending, []⟩
    | .endIf, .choice condition before :: pending =>
      some ⟨pending, before ++ [.choice condition assembly.parts []]⟩
    | .endIf, .alternative condition yes before :: pending =>
      some ⟨pending, before ++ [.choice condition yes assembly.parts]⟩
    | .endFor, .loop names source before :: pending =>
      some ⟨pending, before ++ [.loop names source assembly.parts]⟩
    | _, _ => none

/-- The parts that a sequence of pieces makes up, if every directive has its end. -/
def assemble? (pieces : List Piece) : Option (List Part) := do
  let assembly ← (trimPieces false pieces).foldlM Assembly.add? ⟨[], []⟩
  if assembly.pending.isEmpty then some assembly.parts else none

/-! ## Quoted texts and here-documents -/

/-- The meaning of a text without escapes. -/
def partsOf? (expression : Reader Expression) (text : List Char) : Option (List Part) := do
  assemble? (← readAll? (pieces plainText expression) text)

/-- A template of some pieces between marks; `parts?` gives its text a meaning. -/
def templateOf? (parts? : List Char → Option (List Part)) (marks : TemplateMarks)
    (pieces : List Piece) : Option Expression := do
  discard (assemble? pieces)
  let text := pieces.flatMap Piece.content
  let canonicalText := String.ofList (pieces.flatMap Piece.canonicalText)
  return .template ⟨marks, String.ofList text, canonicalText, parts? text⟩

/-- A text in double quotes. -/
def quoted (expression : Reader Expression) (parts? : List Char → Option (List Part)) :
    Reader Expression := do
  let read ← spelledAs quotedPieces do
    char '"'
    let read ← pieces quotedText expression
    char '"'
    return read
  match read with
  | [] => return .string ""
  | [.text s] => return .string (String.ofList s)
  | read => (templateOf? parts? .quotes read : Option Expression)

/-- The pieces with a line end after them. -/
def endWith (lineEnd : List Char) : List Piece → List Piece
  | [] => [.text lineEnd]
  | [.text s] => [.text (s ++ lineEnd)]
  | piece :: rest => piece :: endWith lineEnd rest

/-- A text over whole lines, up to a line that starts with its tag. -/
structure Heredoc where
  tag : String
  /-- The indentation that is removed. -/
  indentation : Option Nat
  /-- The content without the indentation. -/
  pieces : List Piece
  /-- The blanks before the closing tag. -/
  closing : List Char

namespace Heredoc

def marks (heredoc : Heredoc) : TemplateMarks := .heredoc heredoc.tag heredoc.indentation.isSome

/-- How a here-document is written inside of a marker: with its indentation. -/
def spelling (heredoc : Heredoc) : List Char :=
  let pieces := match heredoc.indentation with
    | some n => indent n heredoc.pieces
    | none => heredoc.pieces
  heredoc.marks.opening.toList ++ pieces.flatMap Piece.content ++ heredoc.closing
    ++ heredoc.tag.toList

end Heredoc

/-- The content of a here-document up to its closing tag, and the blanks before that. There is no
content if the first line is the end, and no other line is. -/
def heredocContent (tag : String) (expression : Reader Expression) :
    Reader (List Piece × List Char) :=
  (do
    let read ← pieces (heredocText tag) expression
    let (lineEnd, closing) ← heredocEnd tag
    return (endWith lineEnd read, closing))
  <|> do return ([], ← closingTag tag)

/-- A here-document. With a dash before its tag, the indentation of its content is removed. -/
def heredoc (expression : Reader Expression) (parts? : List Char → Option (List Part)) :
    Reader Expression := do
  let read ← spelledAs Heredoc.spelling do
    exact ['<', '<']
    let dashed ← accepts ['-']
    let tag ← name
    newline
    let (read, closing) ← heredocContent tag expression
    match if dashed then commonIndentation? read else none with
    | some n => return ⟨tag, some n, dedent n read, closing⟩
    | none => return ⟨tag, none, read, closing⟩
  (templateOf? parts? read.marks read.pieces : Option Expression)

end SetupRecipe.Config
