import SetupRecipe.Document.Declare
import SetupRecipe.FileSystem.Basic
import SetupRecipe.Recipe

/-!
# Stores of recipe documents

A recipe is written in one or more documents, each with the path of the file that it came from, if it
came from a file. A store keeps the root structures of all documents in the order in which they were
loaded, each with the number of its document. A document that cannot be loaded leaves the store as it
is; of a directory, the files before the one that fails stay loaded.
-/

namespace SetupRecipe.Document

open Config (Structure Body)
open Program (Draft)

/-- Documents that were loaded. -/
structure Store where
  /-- The path of every document; none if it came from no file. -/
  sources : List (Option String)
  /-- The root structures of the documents, with the number of their document. -/
  structures : List (Nat × Structure)

/-- Why documents are not loaded. -/
inductive LoadError where
  /-- A directory holds no recipe files. -/
  | noFilesFound
  | file (error : FileError)
  /-- A text is no recipe file. -/
  | malformed

def LoadError.message : LoadError → String
  | noFilesFound => "No recipe files found in directory"
  | file _ => "IO error"
  | malformed => "Unable to parse hcl file"

namespace Store

def empty : Store := ⟨[], []⟩

/-- Appends the root structures of a document. -/
def insert (store : Store) (body : Body) (source : Option String) : Store :=
  { sources := store.sources ++ [source]
    structures := store.structures ++ body.structures.map fun s => (store.sources.length, s) }

/-- The number of documents. -/
def sourceCount (store : Store) : Nat := store.sources.length

/-- Every root structure with the path of its document. -/
def located (store : Store) : List (Option String × Structure) :=
  store.structures.map fun (number, s) => (store.sources.getD number none, s)

/-- Appends the document that a text holds. -/
def insertText (store : Store) (text : String) (source : Option String) :
    Except LoadError Store :=
  match Body.ofText? text with
  | some body => .ok (store.insert body source)
  | none => .error .malformed

/-! ## Loading -/

/-- Appends the document in a file, under the canonical path of the file. -/
def loadFile [Monad m] (files : FileSystem m) (store : Store) (path : String) :
    m (Except LoadError Store) := do
  match ← files.canonical path with
  | .error error => return .error (.file error)
  | .ok canonical =>
    match ← files.readText canonical with
    | .error error => return .error (.file error)
    | .ok text => return store.insertText text (some canonical)

/-- Appends the documents in files, up to the first one that fails. -/
def loadFiles [Monad m] (files : FileSystem m) (store : Store) :
    List String → m (Store × Option LoadError)
  | [] => return (store, none)
  | path :: paths => do
    match ← loadFile files store path with
    | .error error => return (store, some error)
    | .ok next => loadFiles files next paths

/-- Whether a name in a directory stands for a recipe file. -/
def isRecipeFile (entry : FileEntry) : Bool :=
  entry.isFile && entry.name.endsWith "galley.hcl"

/-- The names of the recipe files among those in a directory, in ascending order. -/
def recipeNames (entries : List FileEntry) : List String :=
  ((entries.filter isRecipeFile).map FileEntry.name).mergeSort fun a b => decide (a ≤ b)

/-- Appends the documents in the recipe files of a directory. -/
def loadDirectory [Monad m] (files : FileSystem m) (store : Store) (path : String) :
    m (Store × Option LoadError) := do
  match ← files.entries path with
  | .error error => return (store, some (.file error))
  | .ok entries =>
    match recipeNames entries with
    | [] => return (store, some .noFilesFound)
    | names => loadFiles files store (names.map (FileSystem.pathWithin path))

/-! ## Declaring -/

/-- The place of a document in messages. -/
def locationText (source : Option String) : String := source.getD "<stdin>"

/-- What the structures of a document are declared with: the node data under the name `node`. -/
def site (node : NodeData) (source : Option String) : Site :=
  { bindings := [("node", Config.Value.ofNodeData node)], location := locationText source }

/-- Declares every root structure on a block, in load order. -/
def declare (store : Store) (draft : Draft) : Draft :=
  store.located.foldl
    (fun draft (source, s) => declareStructure (site draft.node source) s draft) draft

/-- The block of a recipe that the documents declare. -/
def evaluate (store : Store) (node : NodeData) : Block :=
  (store.declare (.recipe node)).toBlock

/-- The recipe that the documents make up. -/
def toRecipe (store : Store) : Recipe := .ofBlock store.evaluate

end Store

end SetupRecipe.Document
