import SetupRecipe.Node.Entries

/-!
# Values of node data

A value is a truth value, a whole number of 64 bits, a decimal, a text, a list or an object. There is
no null. Two values of different kinds are different, even when they stand for the same number.
-/

namespace SetupRecipe.Node

/-- A piece of node data. -/
inductive Value where
  | boolean (b : Bool)
  | integer (i : Int64)
  | decimal (x : Float)
  | text (s : String)
  | array (items : List Value)
  | object (entries : List (String × Value))

namespace Value

/-- The text of a value that is a text. -/
def text? : Value → Option String
  | text s => some s
  | _ => none

/-- The value of a key of an object. -/
def get? (value : Value) (key : String) : Option Value :=
  match value with
  | object entries => Entries.get? entries key
  | _ => none

/-- The value that a path of keys leads to. -/
def at? (value : Value) : List String → Option Value
  | [] => some value
  | key :: path => (value.get? key).bind fun inner => inner.at? path

mutual

/-- Equality of values: decimals as numbers, objects whatever the order of their keys. -/
def same : Value → Value → Bool
  | boolean a, b => match b with
    | boolean c => a == c
    | _ => false
  | integer a, b => match b with
    | integer c => a == c
    | _ => false
  | decimal a, b => match b with
    | decimal c => a == c
    | _ => false
  | text a, b => match b with
    | text c => a == c
    | _ => false
  | array items, b => match b with
    | array others => sameItems items others
    | _ => false
  | object entries, b => match b with
    | object others => entries.length == others.length && sameEntries entries others
    | _ => false

def sameItems : List Value → List Value → Bool
  | [], others => others.isEmpty
  | item :: items, others => match others with
    | [] => false
    | other :: more => item.same other && sameItems items more

/-- Whether every entry has its equal among the others. -/
def sameEntries : List (String × Value) → List (String × Value) → Bool
  | [], _ => true
  | (key, value) :: entries, others =>
    (match others.lookup key with
      | some other => value.same other
      | none => false) && sameEntries entries others

end

end Value

end SetupRecipe.Node
