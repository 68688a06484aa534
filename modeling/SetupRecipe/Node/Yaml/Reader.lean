import SetupRecipe.Decimal.Layout
import SetupRecipe.Node.Data
import SetupRecipe.Node.Yaml.Tree
import SetupRecipe.Text.Quoted

/-!
# Reading node data from YAML

Node data is a mapping; a document without content is an empty one. Its keys may be any scalars and
are taken as they are written, while keys further in must be texts. There is no null, and whole
numbers that need more than 64 bits have no value. As JSON is YAML, node data in JSON is read as
well.
-/

namespace SetupRecipe

namespace Node.Yaml

/-- The deepest nesting of collections that is read. -/
def maxDepth : Nat := 128

/-- The value of a whole number: one that does not fit is a decimal, up to 64 bits without sign. -/
def integerValue? (n : Int) : Option Value :=
  if -Decimal.twoPow 63 ≤ n ∧ n < Decimal.twoPow 63 then some (.integer (Int64.ofInt n))
  else if 0 ≤ n ∧ n < Decimal.twoPow 64 then some (.decimal (Decimal.Binary64.nearest false n.toNat 1))
  else none

def scalarValue? (text : String) (plain : Bool) : Option Value :=
  if plain then
    match Plain.ofText text with
    | .null => none
    | .boolean b => some (.boolean b)
    | .integer n => integerValue? n
    | .decimal x => some (.decimal x)
    | .text => some (.text text)
  else some (.text text)

namespace Tree

/-- The key that a tree stands for inside of node data; it is a text. -/
def innerKey? : Tree → Option String
  | scalar text plain =>
    match scalarValue? text plain with
    | some (.text s) => some s
    | _ => none
  | _ => none

/-- The key that a tree stands for in node data itself. -/
def rootKey? : Tree → Option String
  | scalar text _ => some text
  | _ => none

mutual

/-- The piece of node data that a tree stands for. -/
def value? : Tree → Option Value
  | scalar text plain => scalarValue? text plain
  | list items => (itemValues? items).map .array
  | mapping entries => (entryValues? entries).map fun entries => .object (Entries.ofList entries)

def itemValues? : List Tree → Option (List Value)
  | [] => some []
  | item :: items => do
    let value ← item.value?
    return value :: (← itemValues? items)

def entryValues? : List (Tree × Tree) → Option (List (String × Value))
  | [] => some []
  | (key, value) :: entries => do
    let k ← key.innerKey?
    let v ← value.value?
    return (k, v) :: (← entryValues? entries)

end

/-- The entries of node data. -/
def rootEntries? (entries : List (Tree × Tree)) : Option (List (String × Value)) :=
  entries.mapM fun (key, value) => do return (← key.rootKey?, ← value.value?)

end Tree

/-! ## Refusals -/

/-- Why a text holds no node data. -/
inductive ReadError where
  /-- The text is no YAML. -/
  | malformed
  /-- Something is nested too deep. -/
  | tooDeep
  /-- The document holds something else, which starts at a line and column. -/
  | notMapping (found : Tree) (line column : Nat)
  /-- A part of the mapping is no piece of node data. -/
  | noValue (line column : Nat)
  /-- Something follows the document. -/
  | manyDocuments

/-- A place in a text, unless it is the start. -/
def placeText (line column : Nat) : String :=
  if line = 0 ∧ column = 0 then ""
  else " at line " ++ toString (line + 1) ++ " column " ++ toString (column + 1)

/-- Decimals keep a point or an exponent. -/
def decimalLayout : Decimal.Layout :=
  { tie := .even, positional := some (-5, 15), keepsPoint := true, exponentPlus := false }

/-- The text of a decimal; those that are not finite have names. -/
def decimalText (x : Float) : String :=
  match decimalLayout.write? x with
  | some text => text
  | none => if x.isNaN then ".nan" else if x < 0 then "-.inf" else ".inf"

/-- What was found in the place of a mapping. -/
def Tree.foundText : Tree → String
  | list _ => "sequence"
  | mapping _ => "map"
  | scalar text true =>
    match Plain.ofText text with
    | .null => "unit value"
    | .boolean b => "boolean `" ++ (if b then "true" else "false") ++ "`"
    | .integer n => "integer `" ++ toString n ++ "`"
    | .decimal x => "floating point `" ++ decimalText x ++ "`"
    | .text => "string " ++ Text.quoted text
  | scalar text false => "string " ++ Text.quoted text

def ReadError.message : ReadError → String
  | malformed => "malformed YAML"
  | tooDeep => "recursion limit exceeded"
  | notMapping found line column =>
    "invalid type: " ++ found.foundText ++ ", expected a map" ++ placeText line column
  | noValue line column =>
    "data did not match any variant of untagged enum Value" ++ placeText line column
  | manyDocuments => "deserializing from YAML containing more than one document is not supported"

/-- The node data in a document. -/
def Document.nodeData (document : Document) : Except ReadError NodeData :=
  if maxDepth < document.content.depth then .error .tooDeep
  else match document.content with
    | .scalar "" true => .ok NodeData.empty
    | .mapping entries =>
      match Tree.rootEntries? entries with
      | some entries => .ok (NodeData.ofList entries)
      | none => .error (.noValue document.line document.column)
    | found => .error (.notMapping found document.line document.column)

end Node.Yaml

/-- The node data that a YAML text holds. -/
def NodeData.ofYaml (text : String) : Except Node.Yaml.ReadError NodeData :=
  match Node.Yaml.Document.ofText? text.toList with
  | none => .error .malformed
  | some document => do
    let node ← document.nodeData
    if document.more then .error .manyDocuments else .ok node

end SetupRecipe
