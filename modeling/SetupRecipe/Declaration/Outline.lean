import SetupRecipe.Declaration.Block

/-!
# Outlines of declaration trees

An outline shows a tree as nested records, one field per line and four columns per level, so that
an author can see what was declared before it renders.
-/

namespace SetupRecipe

/-- A record, a labelled list of parts, a list or a single word. -/
inductive Outline where
  | word (text : String)
  | record (name : String) (fields : List (String × Outline))
  | wrapped (name : String) (part : Outline)
  | list (items : List Outline)

namespace Outline

def indentation (level : Nat) : String := String.ofList (List.replicate (4 * level) ' ')

mutual

/-- The text of an outline whose first line is already indented. -/
def textAt (level : Nat) : Outline → String
  | word text => text
  | record name fields => name ++ " \x7b\n" ++ fieldsAt (level + 1) fields ++ indentation level ++ "\x7d"
  | wrapped name part =>
    name ++ "(\n" ++ indentation (level + 1) ++ part.textAt (level + 1) ++ ",\n" ++ indentation level
      ++ ")"
  | list items =>
    if items.isEmpty then "[]" else "[\n" ++ itemsAt (level + 1) items ++ indentation level ++ "]"

def fieldsAt (level : Nat) : List (String × Outline) → String
  | [] => ""
  | (name, value) :: fields =>
    indentation level ++ name ++ ": " ++ value.textAt level ++ ",\n" ++ fieldsAt level fields

def itemsAt (level : Nat) : List Outline → String
  | [] => ""
  | item :: items => indentation level ++ item.textAt level ++ ",\n" ++ itemsAt level items

end

def text (outline : Outline) : String := outline.textAt 0

def quoted (text : String) : Outline := word (Text.quoted text)

def optional (show? : α → Outline) : Option α → Outline
  | some a => wrapped "Some" (show? a)
  | none => word "None"

end Outline

open Outline (word record wrapped list quoted optional)

/-- The word for a kind of resource in an outline. -/
def BlockKind.outlineWord : BlockKind → String
  | execute => "Execute"
  | file => "File"
  | directory => "Directory"
  | log => "Log"
  | gemfile => "Gemfile"

def ResourceKind.outlineWord : ResourceKind → String
  | block kind => kind.outlineWord
  | haltOnFailedCommand => "HaltOnFailedCommand"
  | echo => "Echo"

def Origin.outline (origin : Origin) : Outline :=
  record "Origin" [("kind", word origin.kind.outlineWord), ("label", quoted origin.label),
    ("position", word (toString origin.position))]

def CompileError.outline : CompileError → Outline
  | conflict origin first second =>
    record "DeclarationConflict"
      [("origin", origin.outline), ("first", quoted first), ("second", quoted second)]
  | missingAttribute origin name =>
    record "MissingRequiredAttribute" [("origin", origin.outline), ("attribute", quoted name)]
  | contentCollision origin =>
    record "UnsafeContentCollision" [("origin", origin.outline), ("tag", quoted Shell.heredocTag)]
  | invalidMode origin mode =>
    record "InvalidMode" [("origin", origin.outline), ("mode", word (toString mode.toNat))]
  | unknownHelper scope name =>
    record "UnknownHelper" [("scope", quoted scope), ("name", quoted name)]
  | invalidDeclaration location reason =>
    record "InvalidDeclaration" [("location", quoted location), ("reason", quoted reason)]

def Gem.outline (gem : Gem) : Outline :=
  record "Gem" [("name", quoted gem.name), ("version", optional quoted gem.version)]

/-- The fields that a resource has besides its origin and its block. -/
def Settings.outlineFields : Settings → List (String × Outline)
  | execute s =>
    [("cwd", optional quoted s.cwd), ("not_if", optional quoted s.notIf),
      ("creates", optional quoted s.creates)]
  | file s =>
    [("path", optional quoted s.path), ("content", optional quoted s.content),
      ("content_block", optional quoted s.contentLines),
      ("mode", optional (fun m => word (toString m.toNat)) s.mode)]
  | directory s =>
    [("path", optional quoted s.path), ("mode", optional (fun m => word (toString m.toNat)) s.mode)]
  | log s =>
    [("path", optional quoted s.path), ("stdout", optional quoted s.stdout),
      ("stderr", optional quoted s.stderr)]
  | gemfile s =>
    [("path", optional quoted s.path), ("gems", list (s.gems.map Gem.outline)),
      ("source", optional quoted s.source)]

mutual

def Block.outline : Block → Outline
  | ⟨owner, helpers, children, problem⟩ =>
    record "Context"
      [("owner", optional Origin.outline owner), ("helpers", list (helpers.map quoted)),
        ("children", list (childOutlines children)), ("deferred", optional CompileError.outline problem)]

def Child.outline : Child → Outline
  | .command text => wrapped "Command" (quoted text)
  | .echo origin message =>
    wrapped "Resource" (wrapped "Echo" (record "Echo"
      [("origin", origin.outline), ("message", quoted message)]))
  | .haltOnFailedCommand origin =>
    wrapped "Resource" (wrapped "HaltOnFailedCommand" origin.outline)
  | .block origin settings body =>
    let name := settings.kind.outlineWord
    wrapped "Resource" (wrapped name (record name
      ([("origin", origin.outline), ("body", body.outline)] ++ settings.outlineFields)))

def childOutlines : List Child → List Outline
  | [] => []
  | child :: children => child.outline :: childOutlines children

end

end SetupRecipe
