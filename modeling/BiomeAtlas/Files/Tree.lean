import BiomeAtlas.Files.Basic

/-! # Trees of files

A `FileTree` is a set of directories and files, together with the directory in which relative paths
start. A position in the tree is the list of names from the root; the root itself is always a
directory. `StateM FileTree` has the operations on files.

A path is followed name by name, and every name but the last one has to lead to a directory. -/

namespace BiomeAtlas

/-- What a name stands for. -/
inductive Node where
  | directory
  | file (bytes : ByteArray)

instance : DecidableEq Node
  | .directory, .directory => isTrue rfl
  | .directory, .file _ | .file _, .directory => isFalse nofun
  | .file bytes, .file other =>
    decidable_of_iff (bytes.data = other.data) (by simp [ByteArray.ext_iff])

/-- Directories and files. -/
structure FileTree where
  /-- What there is, by position. Of several entries for one position the first one counts. -/
  nodes : List (List String × Node) := []
  /-- The position at which relative paths start. -/
  current : List String := []

/-- How many bytes a name may have. -/
def nameLimit : Nat := 255

/-- How many bytes a path may have. -/
def pathLimit : Nat := 4095

namespace FileTree

/-- What there is at a position. -/
def node? (tree : FileTree) (position : List String) : Option Node :=
  if position.isEmpty then some .directory else tree.nodes.lookup position

/-- Puts a node at a position. -/
def put (tree : FileTree) (position : List String) (node : Node) : FileTree :=
  { tree with nodes := (position, node) :: tree.nodes.filter fun entry => entry.1 != position }

/-- Removes the node at a position. -/
def remove (tree : FileTree) (position : List String) : FileTree :=
  { tree with nodes := tree.nodes.filter fun entry => entry.1 != position }

/-- The files, by position. -/
def files (tree : FileTree) : List (List String × ByteArray) :=
  tree.nodes.filterMap fun (position, node) =>
    match node with
    | .file bytes => some (position, bytes)
    | .directory => none

/-- What a name in a directory stands for. A name that is too long stands for nothing, and is
refused. -/
def child? (tree : FileTree) (position : List String) (name : String) :
    Except FileError (Option Node) :=
  if nameLimit < name.utf8ByteSize then .error .nameTooLong
  else .ok (tree.node? (position ++ [name]))

/-- The directory that one part of a path leads to. -/
def enter (tree : FileTree) (position : List String) (part : String) :
    Except FileError (List String) := do
  if part == "." then return position
  if part == ".." then return position.dropLast
  match ← tree.child? position part with
  | some .directory => return position ++ [part]
  | some (.file _) => throw .notADirectory
  | none => throw .notFound

/-- The position at which a path starts. -/
def start (tree : FileTree) (path : Path) : Except FileError (List String) :=
  if path.text.toList.contains '\x00' then .error .zeroCharacter
  else if pathLimit < path.text.utf8ByteSize then .error .nameTooLong
  else if path.text.isEmpty then .error .notFound
  else .ok (if path.isAbsolute then [] else tree.current)

/-- The directory that holds what a path leads to, and its name. There is no name if the path leads
to a directory by its dots, or to the root. -/
def locate (tree : FileTree) (path : Path) : Except FileError (List String × Option String) := do
  let start ← tree.start path
  match path.parts.getLast? with
  | none => return (start, none)
  | some last =>
    let above ← path.parts.dropLast.foldlM tree.enter start
    if last == "." || last == ".." then
      return (← tree.enter above last, none)
    else
      return (above, some last)

/-- What a path leads to. -/
def find (tree : FileTree) (path : Path) : Except FileError Node := do
  match ← tree.locate path with
  | (_, none) => return .directory
  | (above, some name) =>
    match ← tree.child? above name with
    | none => throw .notFound
    | some .directory => return .directory
    | some (.file bytes) => if path.endsWithSlash then throw .notADirectory else return .file bytes

/-- The bytes of the file that a path leads to. -/
def read (tree : FileTree) (path : Path) : Except FileError ByteArray := do
  match ← tree.find path with
  | .directory => throw .isADirectory
  | .file bytes => return bytes

/-- The tree with other bytes in the file that a path leads to. -/
def write (tree : FileTree) (path : Path) (bytes : ByteArray) : Except FileError FileTree := do
  match ← tree.locate path with
  | (_, none) => throw .isADirectory
  | (above, some name) =>
    if path.endsWithSlash then throw .isADirectory
    match ← tree.child? above name with
    | some .directory => throw .isADirectory
    | _ => return tree.put (above ++ [name]) (.file bytes)

/-- Follows the parts of a path and makes the directories that are missing. Dots at the end make
nothing: what they stand for has to be there. The tree holds what was made even if a later part
fails. -/
def makeFrom (tree : FileTree) (position : List String) :
    List String → FileTree × Except FileError Unit
  | [] => (tree, .ok ())
  | part :: later =>
    match tree.enter position part with
    | .ok next => tree.makeFrom next later
    | .error .notFound =>
      if !later.isEmpty && later.all (· == ".") then (tree, .error .notFound)
      else (tree.put (position ++ [part]) .directory).makeFrom (position ++ [part]) later
    | .error .notADirectory =>
      (tree, .error (if later.isEmpty then .alreadyExists else .notADirectory))
    | .error cause => (tree, .error cause)

/-- Makes the directory that a path leads to, and those above it. The empty path needs no
directory. -/
def makeDirectories (tree : FileTree) (path : Path) : FileTree × Except FileError Unit :=
  if path.text.isEmpty then (tree, .ok ())
  else match tree.start path with
    | .ok position => tree.makeFrom position path.parts
    | .error cause => (tree, .error cause)

instance : Files (StateM FileTree) where
  isPresent path := do
    return (← get).find path |>.isOk
  read path := do
    return (← get).read path
  write path bytes := do
    match (← get).write path bytes with
    | .ok tree =>
      set tree
      return .ok ()
    | .error cause => return .error cause
  makeDirectories path := do
    let (tree, result) := (← get).makeDirectories path
    set tree
    return result

end FileTree

end BiomeAtlas
