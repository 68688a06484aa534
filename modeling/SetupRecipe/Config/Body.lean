import SetupRecipe.Config.Expression.Reader

/-!
# Bodies of recipe files

A body is a sequence of attributes and blocks, each on lines of its own. A block has labels and a
body in braces; a body of at most one attribute may stand on the line of its braces. No attribute is
given twice in one body.
-/

namespace SetupRecipe.Config

mutual

/-- An attribute or a block. -/
inductive Structure where
  | assignment (key : String) (value : Expression)
  | block (word : String) (labels : List String) (body : Body)

structure Body where
  structures : List Structure

end

namespace Structure

/-- The key of an attribute. -/
def key? : Structure → Option String
  | assignment key _ => some key
  | block _ _ _ => none

end Structure

open Reader

/-! ## Reading -/

/-- A label in quotes: one text at most, without the markers of templates. -/
def quotedLabel : Reader String := do
  char '"'
  let text ← option quotedText
  char '"'
  return String.ofList (text.getD [])

def label : Reader String := quotedLabel <|> name

/-- An attribute after its key. -/
def assigned : Reader Expression := do
  char '='
  spaces
  let value ← expression
  spaces
  return value

/-- A body without lines: nothing, or one attribute. -/
def shortBody : Reader Body := do
  spaces
  let only ← option do
    let key ← name
    spaces
    return Structure.assignment key (← assigned)
  return ⟨only.toList⟩

/-- The end of a structure: blanks and a comment up to the line end, or the end of the text. -/
def lineEnd : Reader Unit := do
  spaces
  discard (option lineComment)
  newline <|> atEnd

/-- Whether no attribute is given twice. -/
def distinctKeys (structures : List Structure) : Bool :=
  decide (structures.filterMap Structure.key?).Nodup

/-- A body in braces. -/
def bracedBody (lines : Reader Body) : Reader Body := do
  char '\x7b'
  let body ← (do lineEnd; lines) <|> shortBody
  char '\x7d'
  return body

/-- An attribute or a block with everything up to its line end. -/
def structure? (lines : Reader Body) : Reader Structure := do
  blanks
  let word ← name
  spaces
  let read ← match ← peek? with
    | some '=' => pure (.assignment word (← assigned))
    | _ =>
      let labels ← many do
        let text ← label
        spaces
        return text
      pure (.block word labels (← bracedBody lines))
  lineEnd
  return read

/-- Attributes and blocks on lines of their own, with the blanks after them. -/
def linesWith (nested : Reader Body) : Reader Body := do
  let structures ← many (structure? nested)
  blanks
  if distinctKeys structures then return ⟨structures⟩ else failure

/-- A body with blocks nested less than `depth` deep. -/
def linesWithin : Nat → Reader Body
  | 0 => failure
  | depth + 1 => linesWith (linesWithin depth)

/-- The body of a recipe file; no text has blocks nested deeper than it is long. -/
def Body.ofText? (source : String) : Option Body :=
  readAll? (linesWithin (source.length + 1)) source.toList

end SetupRecipe.Config
