import SetupRecipe.Config.Body
import SetupRecipe.Document.Attributes

/-!
# Declaring structures

The structures of a recipe file are declared on a block one after the other. A block keeps the first
structure that it refuses as its problem, together with the place where the file came from; the
structures after it are declared all the same, so that the block shows everything it could take.
-/

namespace SetupRecipe.Document

open Config (Structure Body Expression)
open Program (Draft Target)

/-- What the structures of one file have in common. -/
structure Site where
  /-- The variables that expressions see. -/
  bindings : List (String × Config.Value)
  /-- The file in messages. -/
  location : String

namespace Site

/-- Keeps a refusal as the problem of a block. -/
def refuse (site : Site) (draft : Draft) (refusal : Refusal) : Draft :=
  draft.defer (.invalidDeclaration site.location refusal.text)

/-- Makes the edits of a request and keeps its refusal. -/
def grant (site : Site) (draft : Draft) (request : Request) : Draft :=
  let edited := request.edits.foldl Edit.apply draft
  match request.refusal with
  | none => edited
  | some refusal => site.refuse edited refusal

/-- The value of the expression of an attribute. -/
def evaluate (site : Site) (key : String) (e : Expression) : Except Refusal Config.Value :=
  match e.eval site.bindings with
  | .ok value => .ok value
  | .error failure => .error (.evaluation key failure)

/-- What an attribute asks for. Its expression is evaluated before its key is looked at. -/
def assignment (site : Site) (target : Target) (key : String) (e : Expression) : Request :=
  match site.evaluate key e with
  | .ok value => attributeRequest target key value
  | .error refusal => .refuse refusal

end Site

/-! ## Blocks -/

/-- What a block of a recipe file declares. -/
inductive Opening where
  /-- A resource with a block; some attributes are set before the block is read. -/
  | resource (kind : BlockKind) (label : String) (preset : List (Attribute String))
  | haltOnFailedCommand
  | gem (name : String) (version : Option String)

/-- The version among the attributes of a gem; a gem has no other attributes. -/
def gemVersion (site : Site) :
    List Structure → Option String → Except Refusal (Option String)
  | [], version => .ok version
  | .block _ _ _ :: structures, version => gemVersion site structures version
  | .assignment key e :: structures, _ =>
    if key = "version" then do
      let text ← wantString key (← site.evaluate key e)
      gemVersion site structures (some text)
    else .error (.unknownInGem key)

/-- What a gem in a gemfile declares. -/
def gemOpening (site : Site) (labels : List String) (structures : List Structure) :
    Except Refusal Opening :=
  match labels with
  | [name] => return .gem name (← gemVersion site structures none)
  | _ => .error .gemLabels

/-- What a block declares that stands in any block. The label of a log block is its path. -/
def resourceOpening (word label : String) (structures : List Structure) : Except Refusal Opening :=
  match word with
  | "execute" => .ok (.resource .execute label [])
  | "file" => .ok (.resource .file label [])
  | "directory" => .ok (.resource .directory label [])
  | "gemfile" => .ok (.resource .gemfile label [])
  | "log" => .ok (.resource .log "" (if label = "" then [] else [.path label]))
  | "halt_on_failed_command" =>
    if label = "" ∧ structures.isEmpty then .ok .haltOnFailedCommand else .error .haltNotBare
  | _ => .error (.unknownBlock word)

/-- What a block with a word, labels and a body declares. -/
def opening (site : Site) (target : Target) (word : String) (labels : List String)
    (structures : List Structure) : Except Refusal Opening :=
  if target = .block .gemfile ∧ word = "gem" then gemOpening site labels structures
  else if labels.length > 1 then .error (.manyLabels word)
  else resourceOpening word (labels.headD "") structures

/-! ## Structures -/

mutual

/-- Declares one structure on a block. -/
def declareStructure (site : Site) : Structure → Draft → Draft
  | .assignment key e, draft => site.grant draft (site.assignment draft.target key e)
  | .block word labels ⟨structures⟩, draft =>
    match opening site draft.target word labels structures with
    | .error refusal => site.refuse draft refusal
    | .ok .haltOnFailedCommand => draft.haltOnFailedCommand
    | .ok (.gem name version) => draft.set (.gem name version)
    | .ok (.resource kind label preset) =>
      let inner := preset.foldl Draft.set (draft.openBlock kind label)
      draft.closeBlock (declareStructures site structures inner)

/-- Declares structures on a block, one after the other. -/
def declareStructures (site : Site) : List Structure → Draft → Draft
  | [], draft => draft
  | s :: structures, draft =>
    declareStructures site structures (declareStructure site s draft)

end

end SetupRecipe.Document
