import SetupRecipe.CommandLine.Run

/-!
# The command line program

Connects runs of the command line to the disk and to the standard streams.
-/

namespace SetupRecipe

open CommandLine (Surroundings Outcome ReportLine)

/-- The reason of a failed access to the disk. -/
def FileError.ofIO : IO.Error → FileError
  | .noFileOrDirectory _ _ _ => .notFound
  | .inappropriateType _ 20 _ => .notDirectory
  | .inappropriateType _ 21 _ => .isDirectory
  | .invalidArgument _ 36 _ => .nameTooLong
  | error => .other (toString error)

/-- The answer of an access to the disk. -/
def tryAccess (access : IO α) : IO (Except FileError α) :=
  try .ok <$> access catch error => return .error (.ofIO error)

/-- The file system of the machine. -/
def diskFiles : FileSystem IO where
  canonical path := tryAccess do return (← IO.FS.realPath ⟨path⟩).toString
  read path := tryAccess (IO.FS.readBinFile ⟨path⟩)
  entries path := tryAccess do
    let names ← (← IO.FS.realPath ⟨path⟩).readDir
    names.toList.mapM fun entry => do
      return ⟨entry.fileName, (← entry.path.symlinkMetadata).type matches .file⟩
  enter path := do
    match ← tryAccess (IO.FS.realPath ⟨path⟩) with
    | .error error => return .error error
    | .ok target => if ← target.isDir then return .ok () else return .error .notDirectory

/-- The text on the standard input. -/
def readInput : IO (Except FileError String) := do
  match ← tryAccess do (← IO.getStdin).readBinToEnd with
  | .error error => return .error error
  | .ok bytes =>
    match String.fromUTF8? bytes with
    | some text => return .ok text
    | none => return .error .notText

def ReportLine.print : ReportLine → IO Unit
  | .text line => IO.eprintln line
  | .syntaxDetails => IO.eprintln "syntax error"

/-- Prints the end of a run. -/
def printOutcome (outcome : Outcome) : IO Unit := do
  IO.print outcome.output
  outcome.report.forM ReportLine.print

end SetupRecipe

open SetupRecipe in
def main (arguments : List String) : IO UInt32 := do
  let directory := (← IO.FS.realPath ⟨"."⟩).toString
  let outcome ← CommandLine.run arguments ⟨diskFiles, directory, readInput⟩
  printOutcome outcome
  return outcome.exitCode.toUInt32
