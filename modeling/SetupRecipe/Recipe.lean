import SetupRecipe.Program.Run

/-!
# Recipes

A recipe is a block that depends on node data. The block is evaluated when its script is asked for,
with the data set by then; the script is computed once, and later changes of the data do not reach
it. Evaluations that show the declaration tree are made anew each time.
-/

namespace SetupRecipe

/-- A recipe with what was asked of it so far. -/
structure Recipe where
  block : NodeData → Block
  node : NodeData
  /-- The script or the error that was answered first. -/
  answer : Option (Except CompileError String)
  /-- How often the block was evaluated. -/
  runs : Nat

namespace Recipe

def ofBlock (block : NodeData → Block) : Recipe :=
  { block, node := NodeData.empty, answer := none, runs := 0 }

/-- The recipe of a program; a program whose run does not end declares nothing. -/
def ofProgram (program : Program) : Recipe :=
  ofBlock fun node =>
    (program.evaluate Program.defaultDepth node).getD (Program.Draft.recipe node).toBlock

def setNode (recipe : Recipe) (node : NodeData) : Recipe := { recipe with node }

/-- Gives a key of the node data a value, beside the value that the key had. -/
def insertNode (recipe : Recipe) (key : String) (value : Node.Value) :
    Option Node.Value × Recipe :=
  let (previous, node) := recipe.node.insert key value
  (previous, recipe.setNode node)

/-- The declaration tree for the current node data. -/
def evaluate (recipe : Recipe) : Block × Recipe :=
  (recipe.block recipe.node, { recipe with runs := recipe.runs + 1 })

/-- The script for the node data of the first time it was asked for. -/
def toScript (recipe : Recipe) : Except CompileError String × Recipe :=
  match recipe.answer with
  | some answer => (answer, recipe)
  | none =>
    let (block, recipe) := recipe.evaluate
    (block.script, { recipe with answer := some block.script })

end Recipe

/-- The script of a block without node data. -/
def compile (block : NodeData → Block) : Except CompileError String := (block .empty).script

end SetupRecipe
