/-!
# Gem manifests

A manifest lists gems, one per line and sorted by name, after the source they come from. The versions
stand in one column: entries with a version are filled up with blanks to the width of the longest
name, counted in bytes.
-/

namespace SetupRecipe

/-- An entry of a manifest. -/
structure Gem where
  name : String
  version : Option String
deriving DecidableEq, Repr

namespace Manifest

/-- The entries by name; entries of the same name keep their order. -/
def sorted (gems : List Gem) : List Gem :=
  gems.mergeSort fun a b => decide (a.name ≤ b.name)

/-- The width of a quoted name with its comma, for the longest name that has a version. -/
def width (gems : List Gem) : Nat :=
  (gems.filter fun gem => gem.version.isSome).foldl (fun w gem => max w (gem.name.utf8ByteSize + 3)) 0

/-- A text filled up with blanks on the right. -/
def padded (width : Nat) (text : String) : String :=
  text ++ String.ofList (List.replicate (width - text.length) ' ')

/-- The line of one entry. -/
def entry (width : Nat) (gem : Gem) : String :=
  let name := "\"" ++ gem.name ++ "\""
  match gem.version with
  | some version => "gem " ++ padded width (name ++ ",") ++ " \"" ++ version ++ "\"\n"
  | none => "gem " ++ name ++ "\n"

/-- The line of the source, and a blank line if entries follow. -/
def sourceLine (gems : List Gem) : Option String → String
  | some source => "source \"" ++ source ++ "\"\n" ++ (if gems.isEmpty then "" else "\n")
  | none => ""

/-- The text of a manifest. -/
def text (source : Option String) (gems : List Gem) : String :=
  sourceLine gems source ++ String.join ((sorted gems).map (entry (width gems)))

theorem text_singleton (source : Option String) (gem : Gem) :
    text source [gem] = sourceLine [gem] source ++ entry (width [gem]) gem := by
  rw [text, sorted, List.mergeSort_singleton, List.map_singleton, String.join_cons, String.join_nil,
    String.append_empty]

end Manifest

end SetupRecipe
