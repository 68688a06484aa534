import SetupRecipe.Declaration.Outline
import SetupRecipe.Document.Store

/-!
# Outlines of stores

An outline of a store shows which documents were loaded and what stands at their roots.
-/

namespace SetupRecipe.Document

open Outline (word record list quoted optional)

/-- A root structure with the number of its document. -/
def structureOutline : Nat × Config.Structure → Outline
  | (number, .assignment key _) =>
    record "Attribute" [("source", word (toString number)), ("key", quoted key)]
  | (number, .block identifier labels _) =>
    record "Block" [("source", word (toString number)), ("identifier", quoted identifier),
      ("labels", list (labels.map quoted))]

def Store.outline (store : Store) : Outline :=
  record "RecipeDocuments" [("sources", list (store.sources.map (optional quoted))),
    ("structures", list (store.structures.map structureOutline))]

end SetupRecipe.Document
