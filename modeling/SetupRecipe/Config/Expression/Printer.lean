import SetupRecipe.Config.Expression.Basic
import SetupRecipe.Config.Value

/-!
# Writing expressions

Messages show the expression that failed. It is written in one canonical way: operands and operators
with single blanks between them, templates with their own text. Lists and objects take several
lines, except in the arguments of a call and in conditions, where everything stays on one line. No
separator is written between brackets that enclose nothing and the item or entry after them.
-/

namespace SetupRecipe.Config

/-- The variables of a comprehension. -/
def LoopNames.text (names : LoopNames) : String :=
  match names.key with
  | some key => key ++ ", " ++ names.value
  | none => names.value

/-- The bracket that opens a comprehension, with its variables. -/
def loopOpening (bracket : String) (names : LoopNames) : String :=
  bracket ++ "for " ++ names.text ++ " in "

/-! ## Shapes -/

/-- How an expression is written: its lists and objects over several lines, or everything on one line
of a nesting level. -/
inductive Shape where
  | lines (level : Nat)
  | oneLine (level : Nat)
  /-- On one line, and templates without the blanks that their author chose. -/
  | canonical
deriving DecidableEq, Repr

namespace Shape

/-- The nesting level that a shape stands at. -/
def level : Shape → Nat
  | lines level | oneLine level => level
  | canonical => 0

/-- The shape of what stands inside a list or an object. -/
def inner : Shape → Shape
  | lines level => lines (level + 1)
  | shape => shape

/-- The shape of what has to stay on one line. -/
def flat : Shape → Shape
  | lines level => oneLine level
  | shape => shape

/-- Items or entries between brackets, each with whether a separator goes after it. -/
def bracketed (opening separator blank closing : String) (parts : List (String × Bool)) :
    Shape → String
  | lines level =>
    let line (part : String × Bool) (isLast : Bool) :=
      indentation (level + 1) ++ part.1 ++ (if isLast || !part.2 then "\n" else separator ++ "\n")
    opening ++ "\n" ++ join line parts ++ indentation level ++ closing
  | _ =>
    let piece (part : String × Bool) (isLast : Bool) :=
      part.1 ++ (if isLast then "" else if part.2 then ", " else blank)
    opening ++ blank ++ join piece parts ++ blank ++ closing
where
  /-- Writes parts one after the other; the last one is told apart. -/
  join (write : String × Bool → Bool → String) : List (String × Bool) → String
    | [] => ""
    | [part] => write part true
    | part :: parts => write part false ++ join write parts

/-- A list of items, with whether a separator goes after them. -/
def list (items : List (String × Bool)) (shape : Shape) : String :=
  if items.isEmpty then "[]" else shape.bracketed "[" "," "" "]" items

/-- An object of entries, with whether a separator goes after them. -/
def object (entries : List (String × Bool)) (shape : Shape) : String :=
  if entries.isEmpty then "\x7b\x7d" else shape.bracketed "\x7b" "" " " "\x7d" entries

end Shape

namespace TemplateMarks

/-- What stands before the text of a template. -/
def opening : TemplateMarks → String
  | quotes => "\""
  | heredoc tag dedented => (if dedented then "<<-" else "<<") ++ tag ++ "\n"

/-- A text between marks. The tag that ends a here-document stands on a line of its own. -/
def enclose (level : Nat) (text : String) (marks : TemplateMarks) : String :=
  marks.opening ++ text ++ match marks with
    | quotes => "\""
    | heredoc tag dedented =>
      (if text.endsWith "\n" then "" else "\n") ++ (if dedented then indentation level else "") ++ tag

end TemplateMarks

/-! ## Empty brackets -/

mutual

/-- Whether the last bracket that is opened in a text up to the end of an expression encloses
nothing; `before` is whether that holds for the text before it. -/
def Expression.endsEmpty (before : Bool) : Expression → Bool
  | .list items => itemsEndEmpty true items
  | .object entries => entriesEndEmpty true entries
  | .traversal base steps => stepsEndEmpty (base.endsEmpty before) steps
  | .call _ arguments _ => argumentsEndEmpty before arguments
  | .parenthesis inner => inner.endsEmpty before
  | .conditional condition yes no => no.endsEmpty (yes.endsEmpty (condition.endsEmpty before))
  | .unary _ operand => operand.endsEmpty before
  | .binary _ left right => right.endsEmpty (left.endsEmpty before)
  | .forList _ source value filter =>
    filterEndsEmpty (value.endsEmpty (source.endsEmpty before)) filter
  | .forObject _ source key value _ filter =>
    filterEndsEmpty (value.endsEmpty (key.endsEmpty (source.endsEmpty before))) filter
  | _ => before

def itemsEndEmpty (before : Bool) : List Expression → Bool
  | [] => before
  | item :: items => itemsEndEmpty (item.endsEmpty false) items

def entriesEndEmpty (before : Bool) : List (Key × Expression) → Bool
  | [] => before
  | (key, value) :: entries => entriesEndEmpty (value.endsEmpty (key.endsEmpty false)) entries

def Key.endsEmpty (before : Bool) : Key → Bool
  | .name _ => before
  | .computed e => e.endsEmpty before

def stepsEndEmpty (before : Bool) : List Step → Bool
  | [] => before
  | step :: steps => stepsEndEmpty (step.endsEmpty before) steps

def Step.endsEmpty (before : Bool) : Step → Bool
  | .at e => e.endsEmpty before
  | _ => before

def argumentsEndEmpty (before : Bool) : List Expression → Bool
  | [] => before
  | argument :: arguments => argumentsEndEmpty (argument.endsEmpty before) arguments

def filterEndsEmpty (before : Bool) : Option Expression → Bool
  | none => before
  | some condition => condition.endsEmpty before

end

/-! ## Texts -/

mutual

/-- The text of an expression in a shape. -/
def Expression.textIn (shape : Shape) : Expression → String
  | .null => "null"
  | .bool b => if b then "true" else "false"
  | .number n => n.text
  | .string s => quotedString s
  | .list items => shape.list (itemTextsIn shape.inner items)
  | .object entries => shape.object (entryTextsIn shape.inner entries)
  | .template t => t.textIn shape
  | .variable name => name
  | .traversal base steps => base.textIn shape ++ stepsTextIn shape steps
  | .call name arguments spread =>
    name ++ "(" ++ ", ".intercalate (textsIn shape.flat arguments) ++ (if spread then "..." else "")
      ++ ")"
  | .parenthesis inner => "(" ++ inner.textIn shape ++ ")"
  | .conditional condition yes no =>
    condition.textIn shape.flat ++ " ? " ++ yes.textIn shape.flat ++ " : " ++ no.textIn shape.flat
  | .unary operator operand => operator.spelling ++ operand.textIn shape
  | .binary operator left right =>
    left.textIn shape ++ " " ++ operator.spelling ++ " " ++ right.textIn shape
  | .forList names source value filter =>
    loopOpening "[" names ++ source.textIn shape ++ " : " ++ value.textIn shape
      ++ filterTextIn shape filter ++ "]"
  | .forObject names source key value grouped filter =>
    loopOpening "\x7b" names ++ source.textIn shape ++ " : " ++ key.textIn shape ++ " => "
      ++ value.textIn shape ++ (if grouped then "..." else "") ++ filterTextIn shape filter ++ "\x7d"

def Template.textIn (shape : Shape) : Template → String
  | ⟨marks, text, canonicalText, _⟩ =>
    marks.enclose shape.level (if shape = .canonical then canonicalText else text)

def Key.textIn (shape : Shape) : Key → String
  | .name s => s
  | .computed e => e.textIn shape

def Step.textIn (shape : Shape) : Step → String
  | .name s => "." ++ s
  | .index n => "." ++ toString n
  | .at e => "[" ++ e.textIn shape ++ "]"
  | .namesOfAll => ".*"
  | .all => "[*]"

def textsIn (shape : Shape) : List Expression → List String
  | [] => []
  | e :: es => e.textIn shape :: textsIn shape es

def itemTextsIn (shape : Shape) : List Expression → List (String × Bool)
  | [] => []
  | item :: items => (item.textIn shape, !item.endsEmpty false) :: itemTextsIn shape items

def entryTextsIn (shape : Shape) : List (Key × Expression) → List (String × Bool)
  | [] => []
  | (key, value) :: entries =>
    (key.textIn shape ++ " = " ++ value.textIn shape, !value.endsEmpty (key.endsEmpty false))
      :: entryTextsIn shape entries

def stepsTextIn (shape : Shape) : List Step → String
  | [] => ""
  | step :: steps => step.textIn shape ++ stepsTextIn shape steps

def filterTextIn (shape : Shape) : Option Expression → String
  | none => ""
  | some condition => " if " ++ condition.textIn shape

end

/-- The text of an expression. -/
def Expression.text (expression : Expression) : String := expression.textIn (.lines 0)

end SetupRecipe.Config
