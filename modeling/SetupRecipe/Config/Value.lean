import SetupRecipe.Config.Number
import SetupRecipe.Node.Json.Printer

/-!
# Values of recipe files

Expressions of recipe files evaluate to values. Node data becomes such a value under the name
`node`. A value is written as in a recipe file: one item or entry per line, items separated by commas.
There is no comma after an item that ends with an empty list or object.
-/

namespace SetupRecipe.Config

/-- The value of an expression. -/
inductive Value where
  | null
  | bool (b : Bool)
  | number (n : Number)
  | string (s : String)
  | list (items : List Value)
  | object (entries : List (String × Value))

namespace Value

/-! ## Node data -/

mutual

/-- A piece of node data as a value; a decimal that is not finite has no number. -/
def ofNode : Node.Value → Value
  | .boolean b => bool b
  | .integer i => number (.ofInt64 i)
  | .decimal x =>
    match Number.ofFloat? x with
    | some n => number n
    | none => null
  | .text s => string s
  | .array items => list (ofNodeItems items)
  | .object entries => object (ofNodeEntries entries)

def ofNodeItems : List Node.Value → List Value
  | [] => []
  | item :: items => ofNode item :: ofNodeItems items

def ofNodeEntries : List (String × Node.Value) → List (String × Value)
  | [] => []
  | (key, value) :: entries => (key, ofNode value) :: ofNodeEntries entries

end

/-- All node data as one object. -/
def ofNodeData (node : NodeData) : Value := object (ofNodeEntries node.entries)

/-! ## Looking up -/

/-- The value of a key of an object. -/
def get? (value : Value) (key : String) : Option Value :=
  match value with
  | object entries => Node.Entries.get? entries key
  | _ => none

/-- The value that a path of keys leads to. -/
def at? (value : Value) : List String → Option Value
  | [] => some value
  | key :: path => (value.get? key).bind fun inner => inner.at? path

/-- The word for the type of a value in messages. -/
def typeWord : Value → String
  | null => "null"
  | bool _ => "bool"
  | number _ => "number"
  | string _ => "string"
  | list _ => "list"
  | object _ => "object"

end Value

/-! ## Writing -/

/-- Doubles the mark before an opening brace, which would start a template. -/
def escapeMarks : List Char → List Char
  | '$' :: '\x7b' :: rest => '$' :: '$' :: '\x7b' :: escapeMarks rest
  | '%' :: '\x7b' :: rest => '%' :: '%' :: '\x7b' :: escapeMarks rest
  | c :: rest => c :: escapeMarks rest
  | [] => []

/-- A text as a string of a recipe file. -/
def quotedString (s : String) : String :=
  String.ofList ('"' :: (escapeMarks s.toList).flatMap Node.Json.escapeChar ++ ['"'])

def indentation (level : Nat) : String := String.ofList (List.replicate (2 * level) ' ')

namespace Value

mutual

/-- Whether the last thing in a value, brackets aside, is an empty list or object. -/
def endsEmpty : Value → Bool
  | list items => itemsEndEmpty items
  | object entries => entriesEndEmpty entries
  | _ => false

def itemsEndEmpty : List Value → Bool
  | [] => true
  | [item] => item.endsEmpty
  | _ :: items => itemsEndEmpty items

def entriesEndEmpty : List (String × Value) → Bool
  | [] => true
  | [(_, value)] => value.endsEmpty
  | _ :: entries => entriesEndEmpty entries

end

mutual

/-- The text of a value that stands at a nesting level. -/
def textAt (level : Nat) : Value → String
  | null => "null"
  | bool b => if b then "true" else "false"
  | number n => n.text
  | string s => quotedString s
  | list items =>
    if items.isEmpty then "[]" else "[\n" ++ itemsAt (level + 1) items ++ indentation level ++ "]"
  | object entries =>
    if entries.isEmpty then "\x7b\x7d"
    else "\x7b\n" ++ entriesAt (level + 1) entries ++ indentation level ++ "\x7d"

def itemsAt (level : Nat) : List Value → String
  | [] => ""
  | item :: items =>
    indentation level ++ item.textAt level
      ++ (if items.isEmpty || item.endsEmpty then "\n" else ",\n") ++ itemsAt level items

def entriesAt (level : Nat) : List (String × Value) → String
  | [] => ""
  | (key, value) :: entries =>
    indentation level ++ quotedString key ++ " = " ++ value.textAt level ++ "\n"
      ++ entriesAt level entries

end

/-- The text of a value. -/
def text (value : Value) : String := value.textAt 0

end Value

end SetupRecipe.Config
