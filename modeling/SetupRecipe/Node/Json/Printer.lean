import SetupRecipe.Node.Data
import SetupRecipe.Node.Json.Token

/-!
# Writing JSON

The compact text of a value is the spelling of its tokens without a blank. The indented text has
every item and every entry on a line of its own.
-/

namespace SetupRecipe

namespace Node

namespace Json

/-- Lists of tokens with a comma between two of them. -/
def separated : List (List Token) → List Token
  | [] => []
  | [item] => item
  | item :: items => item ++ .comma :: separated items

end Json

namespace Value

open Json

mutual

/-- The tokens of a value in the order of its items and entries. -/
def tokens : Value → List Token
  | boolean b => [.boolean b]
  | integer i => [.integer i]
  | decimal x => [.decimal x]
  | text s => [.text s]
  | array items => .openArray :: separated (itemTokens items) ++ [.closeArray]
  | object entries => .openObject :: separated (entryTokens entries) ++ [.closeObject]

def itemTokens : List Value → List (List Token)
  | [] => []
  | item :: items => item.tokens :: itemTokens items

def entryTokens : List (String × Value) → List (List Token)
  | [] => []
  | (key, value) :: entries => (.text key :: .colon :: value.tokens) :: entryTokens entries

end

/-- The compact text of a value. -/
def json (value : Value) : String := String.ofList (value.tokens.flatMap Token.spelling)

/-- A line end and the indentation of a nesting level. -/
def newline (level : Nat) : List Char := '\n' :: List.replicate (2 * level) ' '

mutual

/-- The indented text of a value that stands at a nesting level. -/
def indented (level : Nat) : Value → List Char
  | boolean b => (Token.boolean b).spelling
  | integer i => (Token.integer i).spelling
  | decimal x => (Token.decimal x).spelling
  | text s => (Token.text s).spelling
  | array items =>
    if items.isEmpty then ['[', ']']
    else '[' :: indentedItems level items ++ newline level ++ [']']
  | object entries =>
    if entries.isEmpty then ['\x7b', '\x7d']
    else '\x7b' :: indentedEntries level entries ++ newline level ++ ['\x7d']

def indentedItems (level : Nat) : List Value → List Char
  | [] => []
  | item :: items =>
    newline (level + 1) ++ item.indented (level + 1)
      ++ (if items.isEmpty then [] else [',']) ++ indentedItems level items

def indentedEntries (level : Nat) : List (String × Value) → List Char
  | [] => []
  | (key, value) :: entries =>
    newline (level + 1) ++ quoted key ++ [':', ' '] ++ value.indented (level + 1)
      ++ (if entries.isEmpty then [] else [',']) ++ indentedEntries level entries

end

/-- The indented text of a value. -/
def prettyJson (value : Value) : String := String.ofList (value.indented 0)

/-- Decimals as they are shown to people: no exponent, and a whole one without a point. -/
def displayLayout : Decimal.Layout :=
  { tie := .up, positional := none, keepsPoint := false, exponentPlus := false }

/-- A decimal with the names of the numbers that have no digits. -/
def decimalDisplay (x : Float) : String :=
  (displayLayout.write? x).getD (if x.isNaN then "NaN" else if x < 0 then "-inf" else "inf")

/-- A value as it is inserted into a text: a text as it is, lists and objects as compact JSON. -/
def display : Value → String
  | boolean b => if b then "true" else "false"
  | integer i => toString i.toInt
  | decimal x => decimalDisplay x
  | text s => s
  | array items => (array items).json
  | object entries => (object entries).json

end Value

end Node

namespace NodeData

/-- The compact JSON text of the data, an object. -/
def json (node : NodeData) : String := (Node.Value.object node.entries).json

/-- The indented JSON text of the data. -/
def prettyJson (node : NodeData) : String := (Node.Value.object node.entries).prettyJson

end NodeData

end SetupRecipe
