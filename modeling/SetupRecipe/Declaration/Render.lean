import SetupRecipe.Declaration.Block
import SetupRecipe.Shell.Fragment
import SetupRecipe.Shell.Quote

/-!
# Rendering

Every resource renders to a fragment. What a block declares comes first; then the resource acts on
its own: it changes the directory, writes a file, redirects the output. Guarded resources do all of
this only if their target does not exist yet. The fragments of a recipe are separated by blank lines.
-/

namespace SetupRecipe

open Shell (Fragment)

/-- The path that was declared, or else the label. -/
def requiredPath (origin : Origin) : Option String → Except CompileError String
  | some path => .ok path
  | none =>
    if origin.label = "" then .error (.missingAttribute origin "path") else .ok origin.label

/-- Writes a content to a path through a here-document. -/
def writeFile (origin : Origin) (path content : String) : Except CompileError Fragment :=
  match Shell.Heredoc.ofContent? content with
  | none => .error (.contentCollision origin)
  | some doc =>
    .ok (Fragment.ofCode ("cat " ++ Shell.Heredoc.operator ++ " > " ++ path)
      ++ Fragment.ofLiteral doc.body)

/-- Sets the permissions of a path, if any were declared. -/
def changeMode (origin : Origin) (path : String) : Option UInt32 → Except CompileError Fragment
  | none => .ok Fragment.empty
  | some mode =>
    match Shell.octalMode? mode with
    | none => .error (.invalidMode origin mode)
    | some digits => .ok (Fragment.ofCode ("chmod " ++ digits ++ " " ++ path))

/-- The test of the shell whether a path exists. -/
def existsTest (path : String) : String := "test -e " ++ path

/-- What the resources of a block are called when they conflict with a content. -/
def nestedDeclarations : String := "nested declarations"

namespace ExecuteSettings

/-- The directory change that precedes everything else. -/
def changeDirectory (settings : ExecuteSettings) : Fragment :=
  match settings.cwd with
  | some path => Fragment.ofCode ("cd " ++ path)
  | none => Fragment.empty

/-- The test that lets the block be skipped. -/
def guard? (settings : ExecuteSettings) : Option String :=
  settings.notIf.or (settings.creates.map existsTest)

def render (settings : ExecuteSettings) (body : Except CompileError Fragment) :
    Except CompileError Fragment := do
  let commands := settings.changeDirectory ++ (← body)
  match settings.guard? with
  | some predicate => return Fragment.guarded predicate commands
  | none => return commands

end ExecuteSettings

namespace FileSettings

/-- The content that was declared. There is at most one, and next to it only echoes. -/
def declaredContent (settings : FileSettings) (origin : Origin) (declares : Bool) :
    Except CompileError (Option String) :=
  match settings.content, settings.contentLines with
  | some _, some _ => .error (.conflict origin "content" "content_with")
  | some content, none =>
    if declares then .error (.conflict origin "content" nestedDeclarations) else .ok (some content)
  | none, some content =>
    if declares then .error (.conflict origin "content_with" nestedDeclarations)
    else .ok (some content)
  | none, none => .ok none

/-- Writes the content, or touches the path when there is none. -/
def create (origin : Origin) (path : String) : Option String → Except CompileError Fragment
  | some content => writeFile origin path content
  | none => .ok (Fragment.ofCode ("touch " ++ path))

def render (settings : FileSettings) (origin : Origin) (declares : Bool)
    (body : Except CompileError Fragment) : Except CompileError Fragment := do
  let path ← requiredPath origin settings.path
  let content ← settings.declaredContent origin declares
  let before ← body
  let write ← create origin path content
  let mode ← changeMode origin path settings.mode
  return Fragment.guarded (existsTest path) (before ++ write ++ mode)

end FileSettings

namespace DirectorySettings

def render (settings : DirectorySettings) (origin : Origin) (body : Except CompileError Fragment) :
    Except CompileError Fragment := do
  let path ← requiredPath origin settings.path
  let before ← body
  let mode ← changeMode origin path settings.mode
  return before ++ Fragment.ofCode ("mkdir -p " ++ path) ++ mode

end DirectorySettings

namespace LogSettings

/-- The redirection: of both streams to one path, or of each stream to a path of its own. -/
def redirection (settings : LogSettings) (origin : Origin) : Except CompileError String :=
  match settings.path, settings.stdout, settings.stderr with
  | some _, some _, _ => .error (.conflict origin "path" "stdout")
  | some _, none, some _ => .error (.conflict origin "path" "stderr")
  | some path, none, none => .ok ("exec 1>" ++ path ++ " 2>&1")
  | none, none, none => .error (.missingAttribute origin "path")
  | none, some stdout, none => .ok ("exec 1>" ++ stdout)
  | none, none, some stderr => .ok ("exec 2>" ++ stderr)
  | none, some stdout, some stderr => .ok ("exec 1>" ++ stdout ++ " 2>" ++ stderr)

def render (settings : LogSettings) (origin : Origin) (body : Except CompileError Fragment) :
    Except CompileError Fragment := do
  let redirection ← settings.redirection origin
  let before ← body
  return before ++ Fragment.ofCode redirection

end LogSettings

namespace GemfileSettings

/-- The manifest stands in the directory, however many slashes end the directory's path. -/
def manifestPath (directory : String) : String :=
  String.ofList (directory.toList.reverse.dropWhile (· == '/')).reverse ++ "/Gemfile"

def render (settings : GemfileSettings) (origin : Origin) (declares : Bool)
    (body : Except CompileError Fragment) : Except CompileError Fragment := do
  let directory ← requiredPath origin settings.path
  let path := manifestPath directory
  if !settings.gems.isEmpty && declares then throw (.conflict origin "gem" nestedDeclarations)
  let before ← body
  let write ← writeFile origin path (Manifest.text settings.source settings.gems)
  return Fragment.guarded (existsTest path) (before ++ write)

end GemfileSettings

/-- What a resource with a block renders to, given what its block renders to. -/
def Settings.render (origin : Origin) (declares : Bool) (body : Except CompileError Fragment) :
    Settings → Except CompileError Fragment
  | .execute settings => settings.render body
  | .file settings => settings.render origin declares body
  | .directory settings => settings.render origin body
  | .log settings => settings.render origin body
  | .gemfile settings => settings.render origin declares body

/-- Fragments one after the other. -/
def Shell.Fragment.concat (fragments : List Fragment) : Fragment :=
  fragments.foldr (· ++ ·) Fragment.empty

mutual

/-- The fragments of a block, without the empty ones. A problem of the block comes before
everything that its children might report. -/
def Block.fragments : Block → Except CompileError (List Fragment)
  | ⟨_, _, children, problem⟩ =>
    match problem with
    | some error => .error error
    | none => childFragments children

def Child.render : Child → Except CompileError Fragment
  | .command text => .ok (Fragment.ofCode text)
  | .echo _ message => .ok (Fragment.ofLine ("echo " ++ Shell.singleQuote message))
  | .haltOnFailedCommand _ => .ok (Fragment.ofCode "set -e")
  | .block origin settings body =>
    settings.render origin body.hasDeclarations (body.fragments.map Fragment.concat)

def childFragments : List Child → Except CompileError (List Fragment)
  | [] => .ok []
  | child :: children => do
    let fragment ← child.render
    let more ← childFragments children
    return if fragment.isEmpty then more else fragment :: more

end

namespace Block

/-- The declarations of a block as one fragment. -/
def renderBody (block : Block) : Except CompileError Fragment := block.fragments.map Fragment.concat

/-- A script made of fragments: each ends its line, and a blank line stands between two. -/
def joinScript (fragments : List Fragment) : String :=
  String.intercalate "\n" (fragments.map fun fragment => fragment.text ++ "\n")

/-- The script of the block of a recipe. -/
def script (block : Block) : Except CompileError String := block.fragments.map joinScript

end Block

end SetupRecipe
