import SetupRecipe.Config.Number

/-!
# Expressions of recipe files

The value of an attribute is an expression: a literal, a list or an object, a template, a look-up in
a variable, an operation or a comprehension. Templates are texts with interpolated expressions and
with directives that choose and repeat parts of them; a template keeps its own text.
-/

namespace SetupRecipe.Config

inductive UnaryOperator where
  | not
  | negate
deriving DecidableEq, Repr

inductive BinaryOperator where
  | equal
  | notEqual
  | less
  | lessOrEqual
  | greater
  | greaterOrEqual
  | plus
  | minus
  | times
  | divide
  | remainder
  | and
  | or
deriving DecidableEq, Repr

namespace BinaryOperator

/-- Operators of a higher rank bind tighter. -/
def rank : BinaryOperator → Nat
  | times | divide | remainder => 6
  | plus | minus => 5
  | less | lessOrEqual | greater | greaterOrEqual => 4
  | equal | notEqual => 3
  | and => 2
  | or => 1

def spelling : BinaryOperator → String
  | equal => "=="
  | notEqual => "!="
  | less => "<"
  | lessOrEqual => "<="
  | greater => ">"
  | greaterOrEqual => ">="
  | plus => "+"
  | minus => "-"
  | times => "*"
  | divide => "/"
  | remainder => "%"
  | and => "&&"
  | or => "||"

end BinaryOperator

def UnaryOperator.spelling : UnaryOperator → String
  | not => "!"
  | negate => "-"

/-- The variables that a comprehension binds: the key, if it is wanted, and the value. -/
structure LoopNames where
  key : Option String
  value : String
deriving DecidableEq, Repr

/-- The marks around a template: double quotes, or the tag of a here-document whose indentation is
removed or not. -/
inductive TemplateMarks where
  | quotes
  | heredoc (tag : String) (dedented : Bool)
deriving DecidableEq, Repr

mutual

inductive Expression where
  | null
  | bool (b : Bool)
  | number (n : Number)
  | string (s : String)
  | list (items : List Expression)
  | object (entries : List (Key × Expression))
  | template (t : Template)
  | variable (name : String)
  | traversal (base : Expression) (steps : List Step)
  | call (name : String) (arguments : List Expression) (spread : Bool)
  | parenthesis (inner : Expression)
  | conditional (condition yes no : Expression)
  | unary (operator : UnaryOperator) (operand : Expression)
  | binary (operator : BinaryOperator) (left right : Expression)
  /-- A list comprehension. -/
  | forList (names : LoopNames) (source value : Expression) (filter : Option Expression)
  /-- An object comprehension; grouped ones collect the values of a key in a list. -/
  | forObject (names : LoopNames) (source key value : Expression) (grouped : Bool)
      (filter : Option Expression)

/-- The key of an object entry: a bare name, or an expression. -/
inductive Key where
  | name (s : String)
  | computed (e : Expression)

/-- A step of a look-up. -/
inductive Step where
  | name (s : String)
  | index (n : Nat)
  | at (e : Expression)
  /-- Applies the names that follow to every item. -/
  | namesOfAll
  /-- Applies everything that follows to every item. -/
  | all

/-- A text with interpolated parts between marks. If the text makes no sense as a template, it has no
parts. -/
structure Template where
  marks : TemplateMarks
  /-- The text with its escapes resolved. -/
  text : String
  /-- The text with its markers written in the canonical way, whatever their blanks are. -/
  canonicalText : String
  parts : Option (List Part)

inductive Part where
  | text (s : String)
  | interpolation (e : Expression)
  | choice (condition : Expression) (yes no : List Part)
  | loop (names : LoopNames) (source : Expression) (body : List Part)

end

end SetupRecipe.Config
