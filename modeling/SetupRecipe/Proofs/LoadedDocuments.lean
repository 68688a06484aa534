import SetupRecipe.Proofs.RefusalReports

/-!
# Loaded documents

A store is filled with documents as they are, from files and from directories. Whatever is asked of it,
and whatever fails, it holds the root structures of the documents so far in load order, each with the
path that its own document came from. What a file or a directory adds is said here without a store.
-/

namespace SetupRecipe

/-! ## Files -/

namespace FileSystem

def HasText (files : FileSystem Id) (path text : String) : Prop :=
  ∃ bytes, files.read path = .ok bytes ∧ String.fromUTF8? bytes = some text

/-- Why no text can be had from a path. -/
inductive LacksText (files : FileSystem Id) (path : String) : FileError → Prop where
  | unreadable {error : FileError} (h : files.read path = .error error) : LacksText files path error
  | notText {bytes : ByteArray} (h : files.read path = .ok bytes)
    (undecodable : String.fromUTF8? bytes = none) : LacksText files path .notText

end FileSystem

namespace Document

open Config (Body Structure)

/-- A document with the path that it came from. -/
abbrev Loaded := Option String × Body

/-- What a path of a file adds to a store: the document in the file under the canonical path of the
file, or nothing for a reason. -/
inductive FileAdds (files : FileSystem Id) (path : String) :
    List Loaded → Option LoadError → Prop where
  | document {canonical text : String} {body : Body} (place : files.canonical path = .ok canonical)
    (content : files.HasText canonical text) (document : Body.ofText? text = some body) :
    FileAdds files path [(some canonical, body)] none
  | noPlace {error : FileError} (h : files.canonical path = .error error) :
    FileAdds files path [] (some (.file error))
  | noText {canonical : String} {error : FileError} (place : files.canonical path = .ok canonical)
    (h : files.LacksText canonical error) : FileAdds files path [] (some (.file error))
  | malformed {canonical text : String} (place : files.canonical path = .ok canonical)
    (content : files.HasText canonical text) (h : Body.ofText? text = none) :
    FileAdds files path [] (some .malformed)

/-- What several items add one after the other: the first one that fails is the last one to add
anything. -/
inductive InTurn {ι : Type} (adds : ι → List Loaded → Option LoadError → Prop) :
    List ι → List Loaded → Option LoadError → Prop where
  | done : InTurn adds [] [] none
  | next {item : ι} {items : List ι} {documents more : List Loaded} {problem : Option LoadError}
    (first : adds item documents none) (rest : InTurn adds items more problem) :
    InTurn adds (item :: items) (documents ++ more) problem
  | stop {item : ι} {items : List ι} {documents : List Loaded} {error : LoadError}
    (first : adds item documents (some error)) : InTurn adds (item :: items) documents (some error)

/-! ## Directories -/

/-- A regular file that is a recipe file by its name. -/
def IsRecipe (entry : FileEntry) : Prop :=
  entry.isFile = true ∧ "galley.hcl".toList <:+ entry.name.toList

instance : DecidablePred IsRecipe := fun entry =>
  inferInstanceAs (Decidable (entry.isFile = true ∧ "galley.hcl".toList <:+ entry.name.toList))

/-- The names of the recipe files in a directory, in ascending order. -/
structure RecipeFiles (entries : List FileEntry) (names : List String) : Prop where
  complete : names.Perm ((entries.filter (IsRecipe ·)).map FileEntry.name)
  ascending : names.Pairwise (· ≤ ·)

/-- What a path of a directory adds to a store. -/
inductive DirectoryAdds (files : FileSystem Id) (path : String) :
    List Loaded → Option LoadError → Prop where
  | noEntries {error : FileError} (h : files.entries path = .error error) :
    DirectoryAdds files path [] (some (.file error))
  | noFiles {entries : List FileEntry} (h : files.entries path = .ok entries)
    (recipes : RecipeFiles entries []) : DirectoryAdds files path [] (some .noFilesFound)
  | files {entries : List FileEntry} {names : List String} {documents : List Loaded}
    {problem : Option LoadError} (h : files.entries path = .ok entries)
    (recipes : RecipeFiles entries names) (nonempty : names ≠ [])
    (loads : InTurn (FileAdds files) (names.map (FileSystem.pathWithin path)) documents problem) :
    DirectoryAdds files path documents problem

namespace Store

end Store

namespace RecipeFiles

variable {entries relisted : List FileEntry} {names : List String}

end RecipeFiles

namespace Store

/-! ## Stores that grow -/

/-- The store with more documents. -/
def addAll (store : Store) (documents : List Loaded) : Store :=
  documents.foldl (fun store document => store.insert document.2 document.1) store

lemma addAll_append (store : Store) (documents more : List Loaded) :
    store.addAll (documents ++ more) = (store.addAll documents).addAll more := List.foldl_append

/-- A store to which the documents of an attempt were added, with the outcome of the attempt. -/
def Adds (store : Store) (attempt : List Loaded → Option LoadError → Prop)
    (result : Store × Option LoadError) : Prop :=
  ∃ documents, attempt documents result.2 ∧ result.1 = store.addAll documents

/-! ## Loading -/

section

variable {files : FileSystem Id} {store : Store} {path : String}

end

/-- What a store is asked to load. Files may have changed from one call to the next. -/
inductive Call where
  | insert (body : Body) (source : Option String)
  | loadFile (files : FileSystem Id) (path : String)
  | loadDirectory (files : FileSystem Id) (path : String)

/-- What a call adds to a store. -/
def Call.Attempt : Call → List Loaded → Option LoadError → Prop
  | .insert body source => fun documents problem => documents = [(source, body)] ∧ problem = none
  | .loadFile files path => FileAdds files path
  | .loadDirectory files path => DirectoryAdds files path

def perform (store : Store) : Call → Store × Option LoadError
  | .insert body source => (store.insert body source, none)
  | .loadFile files path =>
    match store.loadFile files path with
    | .ok next => (next, none)
    | .error error => (store, some error)
  | .loadDirectory files path => store.loadDirectory files path

def performAll (store : Store) : List Call → Store × List (Option LoadError)
  | [] => (store, [])
  | call :: calls =>
    let (next, problem) := store.perform call
    let (last, problems) := next.performAll calls
    (last, problem :: problems)

def listing : List FileEntry :=
  [⟨"b.galley.hcl", true⟩, ⟨"notes.txt", true⟩, ⟨"old.galley.hcl", false⟩, ⟨"a.galley.hcl", true⟩]

end Store

end Document

end SetupRecipe
