import SetupRecipe.Declaration.Render
import SetupRecipe.Program.Statement

/-!
# Blocks under construction

A draft is a block to which declarations are still added. It knows the node data and the helpers
that the blocks around it had defined when it was opened; of anything else around it, it knows
nothing. Every verb of a program or of a recipe file is a function on drafts.
-/

namespace SetupRecipe.Program

/-- Helpers by target and name, in the order of their first definition. -/
abbrev Helpers := List ((Target × String) × Program)

namespace Helpers

def get? (helpers : Helpers) (target : Target) (name : String) : Option Program :=
  helpers.lookup (target, name)

/-- A helper under its name, which keeps its place when it is defined again. -/
def insert (helpers : Helpers) (target : Target) (name : String) (body : Program) : Helpers :=
  match helpers with
  | [] => [((target, name), body)]
  | (key, old) :: rest =>
    if key = (target, name) then (key, body) :: rest
    else (key, old) :: insert rest target name body

def names (helpers : Helpers) : List String := helpers.map fun helper => helper.1.2

end Helpers

/-- A block while it is declared. -/
structure Draft where
  node : NodeData
  /-- The resource that the block belongs to, with its settings so far; none for a recipe. -/
  resource : Option (Origin × Settings)
  /-- The helpers that were defined in this block. -/
  helpers : Helpers
  /-- The helpers of the blocks around it, the nearest block first. -/
  outer : List Helpers
  children : List Child
  problem : Option CompileError

namespace Draft

/-- The empty block of a recipe. -/
def recipe (node : NodeData) : Draft :=
  { node, resource := none, helpers := [], outer := [], children := [], problem := none }

def target (draft : Draft) : Target :=
  match draft.resource with
  | none => .recipe
  | some (_, settings) => .block settings.kind

def owner (draft : Draft) : Option Origin := draft.resource.map Prod.fst

/-- The declarations so far. -/
def toBlock (draft : Draft) : Block :=
  { owner := draft.owner, helpers := draft.helpers.names
    children := draft.children, problem := draft.problem }

/-- The origin of the next resource of the block. -/
def nextOrigin (draft : Draft) (kind : ResourceKind) (label : String) : Origin :=
  { kind, label, position := (draft.children.filterMap Child.origin?).length }

def push (draft : Draft) (child : Child) : Draft :=
  { draft with children := draft.children ++ [child] }

/-- Keeps a problem until the block renders; only the first one is kept. -/
def defer (draft : Draft) (error : CompileError) : Draft :=
  { draft with problem := draft.problem.or (some error) }

/-! ## Resources -/

def echo (draft : Draft) (message : String) : Draft :=
  draft.push (.echo (draft.nextOrigin .echo message) message)

def haltOnFailedCommand (draft : Draft) : Draft :=
  draft.push (.haltOnFailedCommand (draft.nextOrigin .haltOnFailedCommand ""))

/-- The helpers that a block opened now will see: those of this block first. -/
def scope (draft : Draft) : List Helpers :=
  if draft.helpers.isEmpty then draft.outer else draft.helpers :: draft.outer

/-- The empty block of a resource that is about to be declared. -/
def openBlock (draft : Draft) (kind : BlockKind) (label : String) : Draft :=
  { node := draft.node
    resource := some (draft.nextOrigin (.block kind) label, Settings.initial kind)
    helpers := [], outer := draft.scope, children := [], problem := none }

/-- Adds a resource whose block is complete. -/
def closeBlock (draft inner : Draft) : Draft :=
  match inner.resource with
  | some (origin, settings) => draft.push (.block origin settings inner.toBlock)
  | none => draft

/-! ## Attributes -/

/-- Adds a command; only execute blocks have commands. -/
def command (draft : Draft) (text : String) : Draft :=
  if draft.target = .block .execute then draft.push (.command text) else draft

/-- Sets an attribute of the resource that the block belongs to. -/
def set (draft : Draft) (setting : Attribute String) : Draft :=
  { draft with resource := draft.resource.map fun (origin, settings) => (origin, settings.set setting) }

/-- Redirects both output streams to one path. -/
def logTo (draft : Draft) (path : String) : Draft :=
  draft.closeBlock ((draft.openBlock .log path).set (.path path))

/-! ## Helpers -/

def define (draft : Draft) (target : Target) (name : String) (body : Program) : Draft :=
  { draft with helpers := draft.helpers.insert target name body }

/-- The helper of a name for this kind of block: one of this block, or of the nearest block around
it that has one. -/
def helper? (draft : Draft) (name : String) : Option Program :=
  (draft.helpers :: draft.outer).findSome? fun helpers => helpers.get? draft.target name

/-- The block in messages. -/
def scopeText (draft : Draft) : String :=
  match draft.owner with
  | some origin => origin.text
  | none => "recipe"

/-- Records that a helper was called that the block does not see. -/
def deferUnknownHelper (draft : Draft) (name : String) : Draft :=
  draft.defer (.unknownHelper draft.scopeText name)

end Draft

end SetupRecipe.Program
