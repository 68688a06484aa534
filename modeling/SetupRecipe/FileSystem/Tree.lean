import SetupRecipe.FileSystem.Basic

/-!
# File systems in memory

A tree of directories is a file system. A path is followed from the root, one name after the other:
only directories can be gone through, `..` leads back to the directory above, and the root is above
itself. A name has at most 255 bytes, and a path that is read has at most 4095.
-/

namespace SetupRecipe

/-- A file or a directory with everything in it. -/
inductive FileTree where
  | file (bytes : ByteArray)
  | directory (entries : List (String × FileTree))

namespace FileTree

/-- Changes what stands under a path of names; names that are missing become directories. -/
def update (change : FileTree → FileTree) : List String → FileTree → FileTree
  | [], tree => change tree
  | name :: names, directory entries =>
    match entries.lookup name with
    | some inner =>
      directory (entries.map fun (n, t) => (n, if n = name then update change names inner else t))
    | none => directory (entries ++ [(name, update change names (directory []))])
  | _ :: _, file bytes => file bytes

/-- The tree with a file of the given bytes, and with the directories on the way to it. -/
def write (tree : FileTree) (names : List String) (bytes : ByteArray) : FileTree :=
  tree.update (fun _ => file bytes) names

/-- The tree with a directory, and with the directories on the way to it. -/
def makeDirectory (tree : FileTree) (names : List String) : FileTree := tree.update id names

/-- A place in a tree: what is there, and the directories on the way with the names in them. -/
structure Place where
  here : FileTree
  above : List (String × FileTree)

namespace Place

/-- The absolute path of a place. -/
def path (place : Place) : String :=
  match place.above with
  | [] => "/"
  | above => String.join (above.reverse.map fun (name, _) => "/" ++ name)

/-- Goes on to a name in a directory. -/
def step (place : Place) (name : String) : Except FileError Place :=
  match place.here with
  | file _ => .error .notDirectory
  | directory entries =>
    if name = "" ∨ name = "." then .ok place
    else if name = ".." then
      match place.above with
      | [] => .ok place
      | (_, parent) :: above => .ok ⟨parent, above⟩
    else if 255 < name.utf8ByteSize then .error .nameTooLong
    else match entries.lookup name with
      | some inner => .ok ⟨inner, (name, place.here) :: place.above⟩
      | none => .error .notFound

end Place

/-- The place that an absolute path leads to. -/
def locate (root : FileTree) (path : String) : Except FileError Place :=
  if path = "" then .error .notFound
  else (path.splitOn "/").foldlM Place.step ⟨root, []⟩

/-- What an absolute path leads to. -/
def find (root : FileTree) (path : String) : Except FileError FileTree :=
  if 4095 < path.utf8ByteSize then .error .nameTooLong else (root.locate path).map Place.here

def bytes : FileTree → Except FileError ByteArray
  | file bytes => .ok bytes
  | directory _ => .error .isDirectory

/-- The names in a directory. -/
def names : FileTree → Except FileError (List FileEntry)
  | file _ => .error .notDirectory
  | directory entries => .ok (entries.map fun (name, inner) => ⟨name, inner.bytes.toBool⟩)

/-- The file system whose root is the tree. -/
def toFileSystem (root : FileTree) : FileSystem Id where
  canonical path := (root.locate path).map Place.path
  read path := (root.find path).bind bytes
  entries path := (root.find path).bind names
  enter path := (root.find path).bind fun tree => tree.names.map fun _ => ()

end FileTree

end SetupRecipe
