import SetupRecipe.Declaration.Settings
import SetupRecipe.Node.Json.Printer

/-!
# Programs

A program is a list of statements, run one after the other on a block. Statements declare resources,
run nested programs on the blocks of these resources, set attributes, and define and call helpers.
A helper is a program with one argument.
-/

namespace SetupRecipe.Program

/-- A text that depends on the node data and on the argument of the enclosing helper. -/
inductive Operand where
  | text (s : String)
  | argument
  /-- The display of a value of the node data, empty if there is none. -/
  | display (key : String)
  /-- A value of the node data that is a text, or else a given text. -/
  | textOf (key default : String)
  | concat (parts : List Operand)

namespace Operand

mutual

def eval (node : NodeData) (given : String) : Operand → String
  | .text s => s
  | .argument => given
  | .display key => ((node.get? key).map Node.Value.display).getD ""
  | .textOf key default => (node.text? key).getD default
  | .concat parts => evalAll node given parts

def evalAll (node : NodeData) (given : String) : List Operand → String
  | [] => ""
  | part :: parts => part.eval node given ++ evalAll node given parts

end

end Operand

/-- The blocks that a helper can be called on. -/
inductive Target where
  | recipe
  | block (kind : BlockKind)
deriving DecidableEq, Repr

/-- One step of a program. -/
inductive Statement where
  | echo (message : Operand)
  | haltOnFailedCommand
  /-- Redirects both output streams to one path. -/
  | logTo (path : Operand)
  | block (kind : BlockKind) (label : Operand) (body : List Statement)
  /-- A command of an execute block. -/
  | command (text : Operand)
  | set (setting : Attribute Operand)
  | define (target : Target) (name : String) (body : List Statement)
  | call (name : String) (given : Operand)

mutual

/-- Whether commands and attributes stand only in blocks that have them. -/
def Statement.fits (target : Target) : Statement → Bool
  | .command _ => target = .block .execute
  | .set setting =>
    match target with
    | .recipe => false
    | .block kind => setting.fits kind
  | .block kind _ body => allFit (.block kind) body
  | .define target _ body => allFit target body
  | _ => true

def allFit (target : Target) : List Statement → Bool
  | [] => true
  | statement :: statements => statement.fits target && allFit target statements

end

end SetupRecipe.Program

namespace SetupRecipe

/-- The statements of a recipe, or of a helper. -/
abbrev Program := List Program.Statement

end SetupRecipe
