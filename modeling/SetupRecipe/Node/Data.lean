import SetupRecipe.Node.Value

/-!
# Node data

The configuration that every block of a recipe can read: values by key, in the order of the keys.
-/

namespace SetupRecipe

/-- The configuration of one machine. -/
structure NodeData where
  entries : Node.Entries Node.Value

namespace NodeData

def empty : NodeData := ⟨[]⟩

def isEmpty (node : NodeData) : Bool := node.entries.isEmpty

def get? (node : NodeData) (key : String) : Option Node.Value := node.entries.get? key

/-- The value of a key when it is a text. -/
def text? (node : NodeData) (key : String) : Option String := (node.get? key).bind Node.Value.text?

/-- The value that a path of keys leads to; the empty path leads nowhere. -/
def at? (node : NodeData) : List String → Option Node.Value
  | [] => none
  | key :: path => (node.get? key).bind fun value => value.at? path

/-- The data with a value for a key, beside the value that the key had. -/
def insert (node : NodeData) (key : String) (value : Node.Value) : Option Node.Value × NodeData :=
  (node.get? key, ⟨node.entries.insert key value⟩)

/-- Later values of a key replace earlier ones. -/
def ofList (entries : List (String × Node.Value)) : NodeData := ⟨Node.Entries.ofList entries⟩

/-- The same values for the same keys, whatever their order. -/
def same (a b : NodeData) : Bool :=
  (Node.Value.object a.entries).same (Node.Value.object b.entries)

end NodeData

end SetupRecipe
