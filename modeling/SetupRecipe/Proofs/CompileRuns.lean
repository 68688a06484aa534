import SetupRecipe.CommandLine.Run
import SetupRecipe.Proofs.LoadedDocuments
import SetupRecipe.Proofs.SpelledOptions

/-!
# Compile runs

A run that compiles goes through stages: it changes directories, loads documents, reads node data and
renders. The script is printed when all of them succeed. Otherwise the run reports the first stage that
fails and prints nothing. This holds whatever the format of node files is.
-/

namespace SetupRecipe

namespace Document

/-! ## Items in turn -/

namespace InTurn

variable {ι κ : Type} {adds : ι → List Loaded → Option LoadError → Prop} {items more : List ι}
  {documents others : List Loaded}

lemma append {problem : Option LoadError} (first : InTurn adds items documents none)
    (rest : InTurn adds more others problem) :
    InTurn adds (items ++ more) (documents ++ others) problem := by
  generalize hnone : (none : Option LoadError) = ended at first
  induction first with
  | done => exact rest
  | next head tail ih =>
    rw [List.append_assoc]
    exact .next head (ih hnone)
  | stop head => cases hnone

lemma map {problem : Option LoadError} {f : κ → ι} {items : List κ}
    (h : InTurn (fun item => adds (f item)) items documents problem) :
    InTurn adds (items.map f) documents problem := by
  induction h with
  | done => exact .done
  | next head tail ih => exact .next head ih
  | stop head => exact .stop head

lemma ne_nil (h : InTurn adds items documents none) (hitems : items ≠ [])
    (hadds : ∀ item documents, adds item documents none → documents ≠ []) : documents ≠ [] := by
  cases h with
  | done => exact absurd rfl hitems
  | next head tail => exact List.append_ne_nil_of_left_ne_nil (hadds _ _ head) _

end InTurn

namespace Store

lemma Call.documents_ne_nil {call : Call} {documents : List Loaded}
    (h : call.Attempt documents none) : documents ≠ [] := by
  have hfile : ∀ {files : FileSystem Id} {path : String} {documents : List Loaded},
      FileAdds files path documents none → documents ≠ [] := by
    intro files path documents h
    cases h with
    | document place content document => exact List.cons_ne_nil _ _
  cases call with
  | insert body source =>
    obtain ⟨rfl, -⟩ := h
    exact List.cons_ne_nil _ _
  | loadFile files path => exact hfile h
  | loadDirectory files path =>
    cases h with
    | files entries recipes nonempty loads =>
      exact loads.ne_nil (by simpa using nonempty) fun path documents => hfile

section

variable {ι : Type} {adds : ι → List Loaded → Option LoadError → Prop} {store next : Store}
  {items : List ι}

lemma Adds.map {κ : Type} {f : κ → ι} {items : List κ} {result : Store × Option LoadError}
    (h : store.Adds (InTurn (fun item => adds (f item)) items) result) :
    store.Adds (InTurn adds (items.map f)) result := by
  obtain ⟨documents, hturn, hstore⟩ := h
  exact ⟨documents, hturn.map, hstore⟩

lemma Adds.append {more : List ι} {result : Store × Option LoadError}
    (first : store.Adds (InTurn adds items) (next, none)) (rest : next.Adds (InTurn adds more) result) :
    store.Adds (InTurn adds (items ++ more)) result := by
  obtain ⟨documents, hfirst, rfl⟩ := first
  obtain ⟨others, hrest, hstore⟩ := rest
  exact ⟨documents ++ others, hfirst.append hrest, hstore.trans (addAll_append _ _ _).symm⟩

end

end Store

end Document

namespace CommandLine

open Document (Loaded LoadError InTurn Store Site declareStructure)
open Document.Store (Call)
open Config (Body Structure)
open Program (Draft)

/-! ## Stages -/

/-- What is loaded for the inputs, in order: the work directory, the files and the directories. -/
def Inputs.calls (inputs : Inputs) (files : FileSystem Id) (directory : String) : List Call :=
  (if inputs.workdir then [.loadDirectory files directory] else []) ++
    inputs.files.map (fun path => .loadFile files (FileSystem.pathWithin directory path)) ++
    inputs.directories.map (fun path => .loadDirectory files (FileSystem.pathWithin directory path))

/-- The documents that the inputs lead to; those on the standard input only without other inputs. -/
inductive Loads (world : Surroundings Id) (directory : String) (inputs : Inputs) :
    Except Failure (List Loaded) → Prop where
  | input {text : String} {body : Body} (only : inputs.isEmpty = true)
    (content : world.standardInput = .ok text) (document : Body.ofText? text = some body) :
    Loads world directory inputs (.ok [(none, body)])
  | noInput {error : FileError} (only : inputs.isEmpty = true)
    (h : world.standardInput = .error error) :
    Loads world directory inputs (.error (.standardInput error))
  | malformed {text : String} (only : inputs.isEmpty = true) (content : world.standardInput = .ok text)
    (h : Body.ofText? text = none) : Loads world directory inputs (.error .malformedInput)
  | sources {documents : List Loaded} (given : inputs.isEmpty = false)
    (loads : InTurn Call.Attempt (inputs.calls world.files directory) documents none) :
    Loads world directory inputs (.ok documents)
  | stopped {documents : List Loaded} {error : LoadError} (given : inputs.isEmpty = false)
    (loads : InTurn Call.Attempt (inputs.calls world.files directory) documents (some error)) :
    Loads world directory inputs (.error (.documents error))

/-- The node data in a file, if there is a file. -/
inductive Reads (format : NodeFormat) (files : FileSystem Id) (directory : String) :
    Option String → Except Failure NodeData → Prop where
  | noFile : Reads format files directory none (.ok ⟨[]⟩)
  | data {path text : String} {node : NodeData}
    (content : files.HasText (FileSystem.pathWithin directory path) text)
    (h : format.read text = .ok node) : Reads format files directory (some path) (.ok node)
  | noText {path : String} {error : FileError}
    (h : files.LacksText (FileSystem.pathWithin directory path) error) :
    Reads format files directory (some path) (.error (.nodeFile error))
  | noData {path text reason : String}
    (content : files.HasText (FileSystem.pathWithin directory path) text)
    (h : format.read text = .error reason) :
    Reads format files directory (some path) (.error (.nodeData reason))

lemma Loads.ne_nil {world : Surroundings Id} {directory : String} {inputs : Inputs}
    {documents : List Loaded} (h : Loads world directory inputs (.ok documents)) :
    documents ≠ [] := by
  cases h with
  | input only content document => exact List.cons_ne_nil _ _
  | sources given loads =>
    refine loads.ne_nil ?_ fun call documents => Call.documents_ne_nil
    intro hcalls
    cases hworkdir : inputs.workdir
    all_goals simp_all [Inputs.calls, Inputs.isEmpty]

end CommandLine

end SetupRecipe
