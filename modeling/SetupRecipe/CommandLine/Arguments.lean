/-!
# Arguments of the command line

The words of a command line are read from left to right. A command may be followed by commands of its
own, and every command has options; options of an outer command come before the inner one. The first
word that cannot be read makes the whole command line a misuse, unless the version or the help was
asked for before.
-/

namespace SetupRecipe.CommandLine

/-- How node data is printed. -/
inductive DataFormat where
  | json
  | yaml
deriving DecidableEq, Repr

def DataFormat.ofWord? : String → Option DataFormat
  | "json" => some json
  | "yaml" => some yaml
  | _ => none

/-- The commands, those inside others included. -/
inductive Command where
  | root
  | compile
  | dev
  | documents
  | tree
  | node
deriving DecidableEq, Repr

/-- The command inside a command that a word stands for. -/
def Command.inner? : Command → String → Option Command
  | root, "compile" => some compile
  | root, "dev" => some dev
  | dev, "documents" => some documents
  | dev, "tree" => some tree
  | dev, "node" => some node
  | _, _ => none

/-- Whether a command has commands of its own, one of which must follow. -/
def Command.isOuter (command : Command) : Bool := command = .root ∨ command = .dev

/-- Whether there is help on the command that some words lead to, from command to inner command; the
word for help is an inner command as well. -/
def Command.hasHelpOn (command : Command) : List String → Bool
  | [] => true
  | word :: words =>
    match command.inner? word with
    | some inner => inner.hasHelpOn words
    | none => command.isOuter && word = "help" && words.isEmpty

/-! ## Options -/

inductive Flag where
  | directory
  | inputWorkdir
  | inputFile
  | inputDirectory
  | node
  | shebang
  | outputFormat
  | help
  | version
deriving DecidableEq, Repr

namespace Flag

/-- The letter after one dash. -/
def letter? : Flag → Option Char
  | directory => some 'C'
  | inputWorkdir => some 'w'
  | inputFile => some 'f'
  | inputDirectory => some 'd'
  | node => some 'n'
  | shebang => none
  | outputFormat => some 'F'
  | help => some 'h'
  | version => some 'V'

/-- The word after two dashes. -/
def word : Flag → String
  | directory => "directory"
  | inputWorkdir => "input-workdir"
  | inputFile => "input-file"
  | inputDirectory => "input-dir"
  | node => "node"
  | shebang => "shebang"
  | outputFormat => "output-format"
  | help => "help"
  | version => "version"

def takesValue : Flag → Bool
  | directory | inputFile | inputDirectory | node | outputFormat => true
  | inputWorkdir | shebang | help | version => false

/-- Whether an option may be given more than once. -/
def isRepeatable : Flag → Bool
  | directory | inputFile | inputDirectory => true
  | inputWorkdir | node | shebang | outputFormat | help | version => false

/-- Whether a value can be one of the option: paths are not empty. -/
def accepts (flag : Flag) (value : String) : Bool :=
  match flag with
  | outputFormat => (DataFormat.ofWord? value).isSome
  | _ => value != ""

end Flag

/-- The options that tell where documents and node data come from. -/
def inputFlags : List Flag := [.inputWorkdir, .inputFile, .inputDirectory, .node]

/-- The options of a command. -/
def Command.flags : Command → List Flag
  | root => [.directory, .help, .version]
  | compile => inputFlags ++ [.shebang, .directory, .help]
  | dev => inputFlags ++ [.directory, .help]
  | documents | tree => [.directory, .help]
  | node => [.outputFormat, .directory, .help]

def Command.flagOfLetter? (command : Command) (letter : Char) : Option Flag :=
  command.flags.find? fun flag => flag.letter? = some letter

def Command.flagOfWord? (command : Command) (word : String) : Option Flag :=
  command.flags.find? fun flag => flag.word = word

/-! ## Reading -/

/-- An option that was given to a command; the value is empty for options without one. -/
structure Given where
  command : Command
  flag : Flag
  value : String
deriving DecidableEq, Repr

/-- Why a command line does not lead to a run. -/
inductive Stop where
  | misuse
  | help
  | version
deriving DecidableEq, Repr

/-- The options given so far and one more. -/
def give (given : List Given) (next : Given) : Except Stop (List Given) :=
  if next.flag = .help then .error .help
  else if next.flag = .version then .error .version
  else if !next.flag.isRepeatable && given.any (·.flag == next.flag) then .error .misuse
  else if next.flag.takesValue && !next.flag.accepts next.value then .error .misuse
  else .ok (given ++ [next])

/-- What the words so far amount to: options, and one that still waits for its value. -/
abbrev Reading := Except Stop (List Given × Option Flag)

/-- The options of the letters after one dash. A letter whose option has a value is followed by
the value, with an equals sign between them or not. -/
def readLetters (command : Command) : List Char → List Given → Reading
  | [], given => .ok (given, none)
  | letter :: rest, given =>
    match command.flagOfLetter? letter with
    | none => .error .misuse
    | some flag =>
      if flag.takesValue then
        match rest with
        | [] => .ok (given, some flag)
        | '=' :: value => return (← give given ⟨command, flag, String.ofList value⟩, none)
        | value => return (← give given ⟨command, flag, String.ofList value⟩, none)
      else do readLetters command rest (← give given ⟨command, flag, ""⟩)

/-- The option of a word after two dashes, with a value after an equals sign or without one. -/
def readWord (command : Command) (text : List Char) (given : List Given) : Reading :=
  let word := text.takeWhile (· != '=')
  match command.flagOfWord? (String.ofList word), text.drop word.length with
  | none, _ => .error .misuse
  | some flag, [] =>
    if flag.takesValue then .ok (given, some flag)
    else return (← give given ⟨command, flag, ""⟩, none)
  | some flag, _ :: value =>
    if flag.takesValue then return (← give given ⟨command, flag, String.ofList value⟩, none)
    else .error .misuse

/-- Whether a word cannot be the value of an option before it. -/
def isDashed (word : String) : Bool := word.startsWith "-" && word != "-"

/-- Reads words from left to right, beginning with the options of a command; the result is the
innermost command. -/
def read (command : Command) (given : List Given) :
    List String → Except Stop (Command × List Given)
  | [] => .ok (command, given)
  | word :: words =>
    match command.inner? word with
    | some inner => read inner given words
    | none =>
      if command.isOuter && word = "help" then
        .error (if command.hasHelpOn words then .help else .misuse)
      else if word = "--" then if words.isEmpty then .ok (command, given) else .error .misuse
      else
        let reading : Reading :=
          match word.toList with
          | '-' :: '-' :: text => readWord command text given
          | '-' :: letter :: letters => readLetters command (letter :: letters) given
          | _ => .error .misuse
        match reading, words with
        | .error stop, _ => .error stop
        | .ok (given, none), words => read command given words
        | .ok (_, some _), [] => .error .misuse
        | .ok (given, some flag), value :: words =>
          if isDashed value then .error .misuse
          else match give given ⟨command, flag, value⟩ with
            | .error stop => .error stop
            | .ok given => read command given words

/-! ## Invocations -/

/-- Where documents are loaded from; the standard input if from nowhere else. -/
structure Inputs where
  workdir : Bool
  files : List String
  directories : List String
deriving DecidableEq, Repr

def Inputs.isEmpty (inputs : Inputs) : Bool :=
  !inputs.workdir && inputs.files.isEmpty && inputs.directories.isEmpty

/-- What is done with the documents and the node data. -/
inductive Task where
  | compile (shebang : Bool)
  | showDocuments
  | showTree
  | showNode (format : DataFormat)
deriving DecidableEq, Repr

/-- What a command line asks for. -/
structure Invocation where
  /-- The directories to change to, one after the other. -/
  directories : List String
  inputs : Inputs
  node : Option String
  task : Task
deriving DecidableEq, Repr

/-- The values that an option was given, in order. -/
def valuesOf (given : List Given) (flag : Flag) : List String :=
  (given.filter (·.flag == flag)).map Given.value

/-- The directories of the innermost command that was given any. -/
def directoriesOf (given : List Given) : List String :=
  let directories := given.filter (·.flag == .directory)
  match directories.getLast? with
  | none => []
  | some last => (directories.filter (·.command == last.command)).map Given.value

/-- What the innermost command does; none if it waits for a command of its own. -/
def taskOf? (command : Command) (given : List Given) : Option Task :=
  match command with
  | .root | .dev => none
  | .compile => some (.compile !(valuesOf given .shebang).isEmpty)
  | .documents => some .showDocuments
  | .tree => some .showTree
  | .node =>
    some (.showNode (((valuesOf given .outputFormat).head?.bind DataFormat.ofWord?).getD .yaml))

/-- The invocation that the words of a command line stand for. -/
def Invocation.ofWords (words : List String) : Except Stop Invocation := do
  let (command, given) ← read .root [] words
  match taskOf? command given with
  | none => throw .misuse
  | some task =>
    return {
      directories := directoriesOf given
      inputs :=
        { workdir := !(valuesOf given .inputWorkdir).isEmpty
          files := valuesOf given .inputFile
          directories := valuesOf given .inputDirectory }
      node := (valuesOf given .node).head?
      task }

end SetupRecipe.CommandLine
