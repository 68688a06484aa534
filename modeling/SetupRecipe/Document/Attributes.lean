import SetupRecipe.Document.Refusal
import SetupRecipe.Program.Draft
import SetupRecipe.Shell.Mode

/-!
# Attributes of recipe files

An attribute asks for edits of the block that it stands in. Every block knows `echo`; further
attributes depend on the kind of the block. A list of commands asks for one edit per command, and
those before a refused one are still made.
-/

namespace SetupRecipe.Document

open Program (Draft Target)

/-- One change of a block. -/
inductive Edit where
  | echo (message : String)
  | command (text : String)
  | set (setting : Attribute String)

def Edit.apply (draft : Draft) : Edit → Draft
  | echo message => draft.echo message
  | command text => draft.command text
  | set setting => draft.set setting

/-- The edits that a structure asks for, and why it is refused, if it is. -/
structure Request where
  edits : List Edit
  refusal : Option Refusal

namespace Request

def edit (edit : Edit) : Request := ⟨[edit], none⟩

def refuse (refusal : Refusal) : Request := ⟨[], some refusal⟩

/-- The request for an edit that depends on a value which may be refused. -/
def ofExcept (edit : α → Edit) : Except Refusal α → Request
  | .ok a => Request.edit (edit a)
  | .error refusal => refuse refusal

end Request

/-- The string that an attribute must have as its value. -/
def wantString (key : String) : Config.Value → Except Refusal String
  | .string s => .ok s
  | other => .error (.notString key other)

/-- The permission value that an attribute must have as its value. -/
def wantMode (value : Config.Value) : Except Refusal UInt32 := do
  let text ← wantString "mode" value
  match Shell.readMode? text with
  | some mode => .ok mode
  | none => .error (.notOctal text)

/-- The request of an attribute whose value is a string. -/
def textAttribute (key : String) (make : String → Attribute String) (value : Config.Value) :
    Request :=
  .ofExcept (fun text => .set (make text)) (wantString key value)

/-- The request of an attribute whose value is a permission value. -/
def modeAttribute (value : Config.Value) : Request :=
  .ofExcept (fun mode => .set (.mode mode)) (wantMode value)

/-- The request of a list of commands, up to the first one that is no string. -/
def commandsAttribute : List Config.Value → Request
  | [] => ⟨[], none⟩
  | value :: values =>
    match wantString "command" value with
    | .ok text =>
      let rest := commandsAttribute values
      ⟨.command text :: rest.edits, rest.refusal⟩
    | .error refusal => .refuse refusal

/-- The request of the commands of an execute block: one string, or a list of strings. -/
def commandAttribute : Config.Value → Request
  | .list values => commandsAttribute values
  | value => commandsAttribute [value]

/-- What an attribute of a kind of block asks for. -/
def blockAttribute (kind : BlockKind) (key : String) (value : Config.Value) : Request :=
  match kind, key with
  | .execute, "command" => commandAttribute value
  | .execute, "cwd" => textAttribute key .cwd value
  | .execute, "not_if" => textAttribute key .notIf value
  | .execute, "creates" => textAttribute key .creates value
  | .file, "path" => textAttribute key .path value
  | .file, "content" => textAttribute key .content value
  | .file, "mode" => modeAttribute value
  | .directory, "path" => textAttribute key .path value
  | .directory, "mode" => modeAttribute value
  | .log, "path" => textAttribute key .path value
  | .log, "stdout" => textAttribute key .stdout value
  | .log, "stderr" => textAttribute key .stderr value
  | .gemfile, "path" => textAttribute key .path value
  | .gemfile, "source" => textAttribute key .source value
  | kind, key => .refuse (.unknownInBlock key kind)

/-- What an attribute with a given value asks for. -/
def attributeRequest (target : Target) (key : String) (value : Config.Value) : Request :=
  if key = "echo" then .ofExcept .echo (wantString key value)
  else match target with
    | .recipe => .refuse (.unknownInRecipe key)
    | .block kind => blockAttribute kind key value

end SetupRecipe.Document
