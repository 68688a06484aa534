import SetupRecipe.Declaration.Origin
import SetupRecipe.Shell.Heredoc
import SetupRecipe.Shell.Mode

/-!
# Reasons why a recipe has no script

Rendering stops at the first of these. A problem found while a block is declared is kept on the
block and reported when it renders.
-/

namespace SetupRecipe

/-- Why a recipe cannot be compiled. -/
inductive CompileError where
  /-- Two declarations of one resource exclude each other. -/
  | conflict (origin : Origin) (first second : String)
  /-- An attribute without a default was not given. -/
  | missingAttribute (origin : Origin) (name : String)
  /-- A content would close the here-document that carries it. -/
  | contentCollision (origin : Origin)
  /-- A permission value has more than four octal digits. -/
  | invalidMode (origin : Origin) (mode : UInt32)
  /-- A helper was called that the block does not see. -/
  | unknownHelper (scope name : String)
  /-- A structure of a recipe file was rejected. -/
  | invalidDeclaration (location reason : String)
deriving DecidableEq, Repr

namespace CompileError

def message : CompileError → String
  | conflict origin first second =>
    origin.text ++ ": `" ++ first ++ "` and `" ++ second ++ "` cannot be declared together"
  | missingAttribute origin name => origin.text ++ ": `" ++ name ++ "` is required"
  | contentCollision origin =>
    origin.text ++ ": content contains a line equal to the heredoc tag `" ++ Shell.heredocTag ++ "`"
  | invalidMode origin mode =>
    origin.text ++ ": mode " ++ Shell.octalDigits mode ++ " is not a valid permission value"
  | unknownHelper scope name =>
    scope ++ ": no helper named `" ++ name ++ "` is defined for this kind of block"
  | invalidDeclaration location reason => location ++ ": " ++ reason

end CompileError

end SetupRecipe
