import SetupRecipe.Config.Evaluation
import SetupRecipe.Declaration.Origin
import SetupRecipe.Text.Quoted

/-!
# Refused structures

A block takes the attributes and blocks that it knows, with values and labels of the right form.
Whatever it does not take, it refuses for one of the reasons here.
-/

namespace SetupRecipe.Document

/-- Why a block does not take a structure of a recipe file. -/
inductive Refusal where
  /-- The expression of an attribute has no value. -/
  | evaluation (key : String) (failure : Config.Failure)
  /-- An attribute that must be a string has another value. -/
  | notString (key : String) (found : Config.Value)
  /-- A permission value is not written in octal digits. -/
  | notOctal (text : String)
  /-- An attribute that a recipe does not have. -/
  | unknownInRecipe (key : String)
  /-- An attribute that a kind of block does not have. -/
  | unknownInBlock (key : String) (kind : BlockKind)
  /-- An attribute that gems do not have. -/
  | unknownInGem (key : String)
  | unknownBlock (word : String)
  | manyLabels (word : String)
  /-- A gem without a name, or with further labels. -/
  | gemLabels
  /-- The switch that halts on failures has nothing beside its word. -/
  | haltNotBare

/-- The reason in messages. -/
def Refusal.text : Refusal → String
  | evaluation key failure => "`" ++ key ++ "`: " ++ failure.message
  | notString key found => "`" ++ key ++ "` must be a string, found " ++ found.typeWord
  | notOctal text => "`mode` must be an octal string, found " ++ Text.quoted text
  | unknownInRecipe key => "unknown attribute `" ++ key ++ "`"
  | unknownInBlock key kind => "unknown attribute `" ++ key ++ "` in " ++ kind.word
  | unknownInGem key => "unknown attribute `" ++ key ++ "` in gem"
  | unknownBlock word => "unknown block `" ++ word ++ "`"
  | manyLabels word => "`" ++ word ++ "` takes at most one label"
  | gemLabels => "`gem` takes exactly one label, the gem name"
  | haltNotBare => "`halt_on_failed_command` takes no label, attributes or blocks"

end SetupRecipe.Document
