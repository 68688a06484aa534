import SetupRecipe.CommandLine.Arguments
import SetupRecipe.Document.Outline
import SetupRecipe.Node.Yaml.Printer

/-!
# Runs of the command line

A run changes the directory, loads documents and node data and prints what was asked for. It prints
nothing unless all of that succeeds; otherwise it reports the first failure. The format of node files
is a parameter, like the file system.
-/

namespace SetupRecipe.CommandLine

open Document (Store LoadError)

/-- What a run finds around it. -/
structure Surroundings (m : Type → Type) where
  files : FileSystem m
  /-- The absolute path of the directory that the run starts in. -/
  directory : String
  standardInput : m (Except FileError String)

/-- A text format for node data. What it reads and how it writes is left open. -/
structure NodeFormat where
  /-- The node data that a text holds, or what is wrong with the text. -/
  read : String → Except String NodeData
  write : NodeData → String

/-! ## Failures -/

/-- Why a run fails. -/
inductive Failure where
  /-- A directory to change to does not exist. -/
  | resolveDirectory (path : String) (error : FileError)
  /-- A path to change to is no directory that can be worked in. -/
  | enterDirectory (path : String) (error : FileError)
  | documents (error : LoadError)
  | standardInput (error : FileError)
  /-- The standard input holds no recipe file. -/
  | malformedInput
  | nodeFile (error : FileError)
  /-- The node file holds no node data, in the words of its format. -/
  | nodeData (reason : String)
  | compilation (error : CompileError)

/-- A line of a report, or the place of the details of what is wrong with a recipe file. -/
inductive ReportLine where
  | text (line : String)
  | syntaxDetails
deriving DecidableEq, Repr

def loadReport (error : LoadError) : List ReportLine :=
  .text error.message :: match error with
    | .noFilesFound => []
    | .file reason => [.text reason.message]
    | .malformed => [.syntaxDetails]

/-- The report of a failure: what failed, then why. -/
def Failure.report : Failure → List ReportLine
  | resolveDirectory path error =>
    [.text ("Failed to resolve path for -C/--directory " ++ path), .text error.message]
  | enterDirectory path error =>
    [.text ("Failed to set work directory to " ++ path), .text error.message]
  | documents error => loadReport error
  | standardInput error => [.text error.message]
  | malformedInput => [.syntaxDetails]
  | nodeFile error => [.text error.message]
  | nodeData reason => [.text reason]
  | compilation error => [.text error.message]

/-- The end of a run. -/
inductive Outcome where
  | printed (text : String)
  | failed (failure : Failure)
  | misused
  | helped

def Outcome.exitCode : Outcome → Nat
  | printed _ | helped => 0
  | failed _ => 1
  | misused => 2

def usageText : String :=
  "Usage: galley [-C <directory>]... <command>\n\n" ++
  "Commands:\n" ++
  "  compile [inputs] [--shebang]                      print the script of a recipe\n" ++
  "  dev [inputs] documents | tree | node [-F <format>]  print what a recipe is made of\n" ++
  "\nInputs: [-w] [-f <file>]... [-d <directory>]... [-n <node file>]"

/-- The text on the standard output. -/
def Outcome.output : Outcome → String
  | printed text => text
  | helped => usageText ++ "\n"
  | failed _ | misused => ""

/-- The lines on the standard error. -/
def Outcome.report : Outcome → List ReportLine
  | printed _ | helped => []
  | failed failure => failure.report
  | misused => [.text usageText]

/-! ## Loading -/

/-- Changes to directories one after the other. -/
def changeDirectory [Monad m] (files : FileSystem m) (directory : String) :
    List String → m (Except Failure String)
  | [] => return .ok directory
  | path :: paths => do
    match ← files.canonical (FileSystem.pathWithin directory path) with
    | .error error => return .error (.resolveDirectory path error)
    | .ok target =>
      match ← files.enter target with
      | .error error => return .error (.enterDirectory target error)
      | .ok _ => changeDirectory files target paths

/-- The documents on the standard input. -/
def loadInput [Monad m] (world : Surroundings m) : m (Except Failure Store) := do
  match ← world.standardInput with
  | .error error => return .error (.standardInput error)
  | .ok text =>
    match Store.empty.insertText text none with
    | .ok store => return .ok store
    | .error _ => return .error .malformedInput

/-- Adds the documents of directories, up to the first failure. -/
def loadDirectories [Monad m] (files : FileSystem m) (store : Store) :
    List String → m (Store × Option LoadError)
  | [] => return (store, none)
  | path :: paths => do
    match ← store.loadDirectory files path with
    | (store, none) => loadDirectories files store paths
    | (store, some error) => return (store, some error)

/-- The documents of the work directory, of files and of directories, in this order. -/
def loadSources [Monad m] (files : FileSystem m) (directory : String) (inputs : Inputs) :
    m (Store × Option LoadError) := do
  let place := FileSystem.pathWithin directory
  match ← loadDirectories files Store.empty (if inputs.workdir then [directory] else []) with
  | (store, some error) => return (store, some error)
  | (store, none) =>
    match ← store.loadFiles files (inputs.files.map place) with
    | (store, some error) => return (store, some error)
    | (store, none) => loadDirectories files store (inputs.directories.map place)

/-- The documents that an invocation asks for. -/
def loadDocuments [Monad m] (world : Surroundings m) (directory : String) (inputs : Inputs) :
    m (Except Failure Store) := do
  if inputs.isEmpty then loadInput world
  else match ← loadSources world.files directory inputs with
    | (store, none) => return .ok store
    | (_, some error) => return .error (.documents error)

/-- The node data in a file, or none. -/
def loadNode [Monad m] (format : NodeFormat) (files : FileSystem m) (directory : String) :
    Option String → m (Except Failure NodeData)
  | none => return .ok NodeData.empty
  | some path => do
    match ← files.readText (FileSystem.pathWithin directory path) with
    | .error error => return .error (.nodeFile error)
    | .ok text =>
      match format.read text with
      | .ok node => return .ok node
      | .error reason => return .error (.nodeData reason)

/-! ## Running -/

/-- What a task prints for documents and node data. -/
def Task.perform (format : NodeFormat) (task : Task) (store : Store) (node : NodeData) :
    Except Failure String :=
  match task with
  | .compile shebang =>
    match ((store.toRecipe.setNode node).toScript).1 with
    | .ok script => .ok ((if shebang then "#!/bin/sh\n" else "") ++ script)
    | .error error => .error (.compilation error)
  | .showDocuments => .ok (store.outline.text ++ "\n")
  | .showTree => .ok ((store.evaluate node).outline.text ++ "\n")
  | .showNode .yaml => .ok (format.write node)
  | .showNode .json => .ok node.prettyJson

/-- Carries out an invocation. -/
def Invocation.run [Monad m] (format : NodeFormat) (invocation : Invocation)
    (world : Surroundings m) : m (Except Failure String) := do
  match ← changeDirectory world.files world.directory invocation.directories with
  | .error failure => return .error failure
  | .ok directory =>
    match ← loadDocuments world directory invocation.inputs with
    | .error failure => return .error failure
    | .ok store =>
      match ← loadNode format world.files directory invocation.node with
      | .error failure => return .error failure
      | .ok node => return invocation.task.perform format store node

/-- The name and version that are printed on request. -/
def versionText : String := "galley 0.1.0\n"

/-- Runs a command line whose node files have a given format. -/
def runWith [Monad m] (format : NodeFormat) (words : List String) (world : Surroundings m) :
    m Outcome := do
  match Invocation.ofWords words with
  | .error .misuse => return .misused
  | .error .help => return .helped
  | .error .version => return .printed versionText
  | .ok invocation =>
    match ← invocation.run format world with
    | .ok text => return .printed text
    | .error failure => return .failed failure

/-- The part of YAML that is read and written here; block scalars, anchors, tags and directives are
refused. -/
def yaml : NodeFormat where
  read text := (NodeData.ofYaml text).mapError Node.Yaml.ReadError.message
  write := NodeData.yaml

/-- Runs a command line whose node files are written in YAML. -/
def run [Monad m] (words : List String) (world : Surroundings m) : m Outcome :=
  runWith yaml words world

end SetupRecipe.CommandLine
