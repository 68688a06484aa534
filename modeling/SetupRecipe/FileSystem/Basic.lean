/-!
# File systems

Recipe files and node data are read from a file system. What a file system answers is left open
here; the functions that read from one work for every file system, in memory or on a disk. Paths are
absolute when they get here.
-/

namespace SetupRecipe

/-- Why a file system cannot answer. -/
inductive FileError where
  | notFound
  | notDirectory
  | isDirectory
  | nameTooLong
  /-- The bytes of a file are not the encoding of a text. -/
  | notText
  /-- Any other reason, in the words of the file system. -/
  | other (reason : String)
deriving DecidableEq, Repr

def FileError.message : FileError → String
  | notFound => "No such file or directory (os error 2)"
  | notDirectory => "Not a directory (os error 20)"
  | isDirectory => "Is a directory (os error 21)"
  | nameTooLong => "File name too long (os error 36)"
  | notText => "stream did not contain valid UTF-8"
  | other reason => reason

/-- A name in a directory. -/
structure FileEntry where
  name : String
  /-- Whether the name stands for a regular file. -/
  isFile : Bool
deriving DecidableEq, Repr

/-- The questions that a file system answers. -/
structure FileSystem (m : Type → Type) where
  /-- The shortest absolute path to what a path leads to, without `.` and `..`. -/
  canonical : String → m (Except FileError String)
  /-- The bytes of a file. -/
  read : String → m (Except FileError ByteArray)
  /-- The names in a directory, in any order. -/
  entries : String → m (Except FileError (List FileEntry))
  /-- Whether a path leads to a directory that can be worked in. -/
  enter : String → m (Except FileError Unit)

/-- A path as seen from a directory. -/
def FileSystem.pathWithin (directory path : String) : String :=
  if path.startsWith "/" then path
  else if directory.endsWith "/" then directory ++ path
  else directory ++ "/" ++ path

/-- The text in a file. -/
def FileSystem.readText [Monad m] (files : FileSystem m) (path : String) :
    m (Except FileError String) := do
  match ← files.read path with
  | .error error => return .error error
  | .ok bytes =>
    match String.fromUTF8? bytes with
    | some text => return .ok text
    | none => return .error .notText

end SetupRecipe
