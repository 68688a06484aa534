import SetupRecipe.Text.Quoted

/-!
# Origins

Every resource knows where it was declared: its kind, the label its author gave it and its position
among the resources of the same block. Labels are for people only; a label becomes part of the
script just where it stands in for a path.
-/

namespace SetupRecipe

/-- The resources that have a block of their own. -/
inductive BlockKind where
  | execute
  | file
  | directory
  | log
  | gemfile
deriving DecidableEq, Repr

/-- The kinds of resources. -/
inductive ResourceKind where
  | block (kind : BlockKind)
  | haltOnFailedCommand
  | echo
deriving DecidableEq, Repr

/-- The word that declares a block in a recipe file and names it in messages. -/
def BlockKind.word : BlockKind → String
  | execute => "execute"
  | file => "file"
  | directory => "directory"
  | log => "log"
  | gemfile => "gemfile"

/-- The word that names a resource in messages. -/
def ResourceKind.word : ResourceKind → String
  | block kind => kind.word
  | haltOnFailedCommand => "halt_on_failed_command"
  | echo => "echo"

/-- Where a resource was declared. -/
structure Origin where
  kind : ResourceKind
  label : String
  position : Nat
deriving DecidableEq, Repr

/-- The origin in messages: the kind, the quoted label if there is one, and the position. -/
def Origin.text (origin : Origin) : String :=
  let label := if origin.label = "" then "" else " " ++ Text.quoted origin.label
  origin.kind.word ++ label ++ " (#" ++ toString origin.position ++ ")"

end SetupRecipe
