import SetupRecipe.Declaration.CompileError
import SetupRecipe.Declaration.Settings

/-!
# Declaration trees

A block holds what was declared in it, in order: shell commands and resources, of which some have a
block of their own. A tree is complete before anything is rendered.
-/

namespace SetupRecipe

mutual

/-- What was declared in one block. -/
structure Block where
  /-- The resource that the block belongs to; the block of a recipe belongs to none. -/
  owner : Option Origin
  /-- The names of the helpers that were defined here. -/
  helpers : List String
  children : List Child
  /-- The first problem that was found while declaring. -/
  problem : Option CompileError

/-- One declaration of a block. -/
inductive Child where
  | command (text : String)
  | echo (origin : Origin) (message : String)
  | haltOnFailedCommand (origin : Origin)
  | block (origin : Origin) (settings : Settings) (body : Block)

end

namespace Child

/-- Where a resource was declared; commands are no resources. -/
def origin? : Child → Option Origin
  | command _ => none
  | echo origin _ => some origin
  | haltOnFailedCommand origin => some origin
  | block origin _ _ => some origin

/-- The block of a resource that has one. -/
def body? : Child → Option Block
  | block _ _ body => some body
  | _ => none

end Child

namespace Block

/-- The resources of a block in the order of their declaration. -/
def resources (block : Block) : List Origin := block.children.filterMap Child.origin?

def isEmpty (block : Block) : Bool := block.children.isEmpty

/-- Whether a resource other than an echo was declared. -/
def hasDeclarations (block : Block) : Bool :=
  block.resources.any fun origin => origin.kind != .echo

end Block

end SetupRecipe
