import SchemaBinding.FilePath
import SchemaBinding.Text.Utf8

/-!
# File trees

A file tree assigns a directory or the bytes of a file to locations below the
top directory.  Paths are followed name by name: every name but the last must
be that of a directory, and a double dot leads to the directory above.  The
length of names and paths is limited.
-/

namespace SchemaBinding

inductive FileFault where
  | notFound
  | isDirectory
  | notDirectory
  | exists
  | busy
  /-- A name or the whole path is too long. -/
  | nameTooLong
  /-- The path holds a null character. -/
  | nullInPath
deriving DecidableEq, Repr

inductive Entry where
  | directory
  | file (bytes : List UInt8)
deriving DecidableEq, Repr

/-- The names from the top directory down to an entry. -/
abbrev Location := List String

/-- Directories and files, with the directory from which relative paths are followed. -/
structure FileTree where
  entries : List (Location × Entry)
  workingDirectory : Location
deriving Repr

namespace FileTree

/-- The top directory always exists. -/
def entry? (tree : FileTree) (location : Location) : Option Entry :=
  if location = [] then some .directory
  else (tree.entries.find? (fun item => item.1 == location)).map Prod.snd

def set (tree : FileTree) (location : Location) (entry : Entry) : FileTree :=
  if (tree.entry? location).isSome then
    { tree with
      entries := tree.entries.map (fun item => if item.1 = location then (location, entry) else item) }
  else { tree with entries := tree.entries ++ [(location, entry)] }

/-- The tree without the entry at a location and everything below it. -/
def erase (tree : FileTree) (location : Location) : FileTree :=
  { tree with entries := tree.entries.filter (fun item => !location.isPrefixOf item.1) }

def maxNameSize : Nat := 255

def maxPathSize : Nat := 4095

/-- Following names from a location on: each step is taken inside a directory. -/
def follow (tree : FileTree) : Location → List String → Except FileFault Location
  | location, [] => .ok location
  | location, part :: rest =>
      match tree.entry? location with
      | some .directory =>
          if maxNameSize < part.utf8ByteSize then .error .nameTooLong
          else follow tree (FilePath.enter location part) rest
      | some (.file _) => .error .notDirectory
      | none => .error .notFound

/-- The location to which a path leads, whether or not something stands there. -/
def locate (tree : FileTree) (path : FilePath) : Except FileFault Location :=
  if path.hasNull then .error .nullInPath
  else if maxPathSize < path.toString.utf8ByteSize then .error .nameTooLong
  else tree.follow (if path.isAbsolute then [] else tree.workingDirectory) path.parts

def lookup? (tree : FileTree) (path : FilePath) : Option Entry :=
  match tree.locate path with
  | .ok location => tree.entry? location
  | .error _ => none

/-- What a path leads to, where a name that is too long is a fault and not only leads nowhere. -/
def probe (tree : FileTree) (path : FilePath) : Except FileFault (Option Entry) :=
  match tree.locate path with
  | .ok location => .ok (tree.entry? location)
  | .error .nameTooLong => .error .nameTooLong
  | .error _ => .ok none

def pathExists (tree : FileTree) (path : FilePath) : Except FileFault Bool :=
  (tree.probe path).map Option.isSome

def isFile (tree : FileTree) (path : FilePath) : Except FileFault Bool :=
  (tree.probe path).map (fun
    | some (.file _) => true
    | _ => false)

def isDirectory (tree : FileTree) (path : FilePath) : Bool :=
  tree.lookup? path == some .directory

/-- The absolute path without double dots, by its names alone. -/
def resolve (tree : FileTree) (path : FilePath) : Except FileFault FilePath :=
  if path.hasNull then .error .nullInPath
  else .ok (.ofLocation (path.resolveFrom tree.workingDirectory))

def read (tree : FileTree) (path : FilePath) : Except FileFault (List UInt8) := do
  let location ← tree.locate path
  match tree.entry? location with
  | some (.file bytes) => return bytes
  | some .directory => throw .isDirectory
  | none => throw .notFound

def below (tree : FileTree) (location : Location) : List (Location × Entry) :=
  tree.entries.filterMap (fun item =>
    if location.isPrefixOf item.1 && item.1.length != location.length then
      some (item.1.drop location.length, item.2)
    else none)

def contents (tree : FileTree) (path : FilePath) : List (Location × Entry) :=
  match tree.locate path with
  | .ok location =>
      if tree.entry? location = some .directory then tree.below location else []
  | .error _ => []

def makeDirectory (tree : FileTree) (path : FilePath) : Except FileFault FileTree := do
  let location ← tree.locate path
  match tree.entry? location with
  | some _ => throw .exists
  | none => return tree.set location .directory

/--
A directory at the end of a path, made with the directories on the way to it
where they are missing.  The tree is returned also when the directory cannot be
made, since directories on the way may have been made by then.
-/
def ensureDirectoryWith : Nat → FilePath → FileTree → Except FileFault Unit × FileTree
  | fuel, path, tree =>
      match tree.makeDirectory path with
      | .ok made => (.ok (), made)
      | .error .notFound =>
          match fuel with
          | 0 => (.error .notFound, tree)
          | fuel + 1 =>
              match ensureDirectoryWith fuel path.parent tree with
              | (.error fault, tree) => (.error fault, tree)
              | (.ok (), tree) =>
                  match tree.makeDirectory path with
                  | .ok made => (.ok (), made)
                  | .error fault =>
                      (if tree.isDirectory path then .ok () else .error fault, tree)
      | .error fault => (if tree.isDirectory path then .ok () else .error fault, tree)

def ensureDirectory (tree : FileTree) (path : FilePath) : Except FileFault Unit × FileTree :=
  ensureDirectoryWith path.parts.length path tree

def writeBytes (tree : FileTree) (path : FilePath) (bytes : List UInt8) :
    Except FileFault FileTree := do
  let location ← tree.locate path
  match tree.entry? location with
  | some .directory => throw .isDirectory
  | _ => return tree.set location (.file bytes)

def writeInPlace (tree : FileTree) (path : FilePath) (text : String) :
    Except FileFault FileTree :=
  tree.writeBytes path (Text.Utf8.encode text.toList)

/-- How many bytes the name of a file beside a target has more than that of the target. -/
def besideSize : Nat := 14

/-- A file can be opened beside a target whose directory exists, by the length of its name. -/
def openBeside (tree : FileTree) (path : FilePath) : Except FileFault Unit := do
  let place ← tree.resolve path.parent
  if path.hasNull then throw .nullInPath
  let size := path.name.utf8ByteSize + besideSize
  if maxNameSize < size || maxPathSize < place.toString.utf8ByteSize + 1 + size then
    throw .nameTooLong

/--
A file that was written beside the target is moved to its place.  The last name
of the target must be the name of an entry in its directory.
-/
def moveIntoPlace (tree : FileTree) (path : FilePath) (text : String) :
    Except FileFault FileTree := do
  if path.parts.isEmpty || path.name = ".." then throw .busy
  tree.writeInPlace path text

/-- The names in a directory, without those in its subdirectories, in their order. -/
def namesIn (tree : FileTree) (path : FilePath) : List String :=
  let names := (tree.contents path).filterMap (fun item =>
    match item.1 with
    | [name] => some name
    | _ => none)
  names.mergeSort (fun a b => decide (a ≤ b))

def removeFile (tree : FileTree) (path : FilePath) : FileTree :=
  match tree.locate path with
  | .ok location => tree.erase location
  | .error _ => tree

end FileTree

end SchemaBinding
