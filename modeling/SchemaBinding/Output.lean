import SchemaBinding.Action

/-!
# Writing output

Texts are written to files of an output directory, which may be cleaned first.
A file is either written in place, or written beside its target and moved to
its place once it is complete.  What cannot be written fails when its turn comes.
-/

namespace SchemaBinding

inductive Content where
  | text (value : String)
  /-- Something else than a text. -/
  | absent
  /-- A text with a surrogate that stands alone, which no bytes encode. -/
  | unpaired
  /-- A text for a file whose name has no bytes. -/
  | misnamed
  /-- A text for a file in a directory whose name has no bytes. -/
  | misplaced
deriving DecidableEq, Repr

abbrev FileAction (α : Type) := Action FileTree α

namespace FileAction

/-- A change of the files that may fail and then changes nothing. -/
def attempt (change : FileTree → Except FileFault FileTree) : FileAction Unit :=
  fun tree =>
    match change tree with
    | .ok changed => (Run.pure (), changed)
    | .error fault => (Run.fail (.file fault), tree)

def ensureDirectory (path : FilePath) : FileAction Unit :=
  fun tree =>
    match tree.ensureDirectory path with
    | (.ok (), tree) => (Run.pure (), tree)
    | (.error fault, tree) => (Run.fail (.file fault), tree)

/--
The file at a path is deleted and its path returned; a directory stays.  A path
that is too long to be looked up fails.
-/
def deleteFile (path : FilePath) : FileAction (List FilePath) :=
  fun tree =>
    match tree.probe path with
    | .error fault => (Run.fail (.file fault), tree)
    | .ok (some .directory) => (Run.pure [], tree)
    | .ok _ => (Run.pure [path], tree.removeFile path)

def deleteFiles : List FilePath → FileAction (List FilePath)
  | [] => return []
  | path :: rest => do
      let deleted ← deleteFile path
      let others ← deleteFiles rest
      return deleted ++ others

/--
The content takes the place of the file, in a directory that is made if it is
missing.  It is first written to a file beside it, which is opened before the
content is looked at.
-/
def replaceFile (path : FilePath) (content : Content) : FileAction Unit := do
  if content = .misplaced then Action.fail .unencodable
  ensureDirectory path.parent
  if content = .misnamed then Action.fail .unencodable
  attempt (fun tree => (fun _ => tree) <$> tree.openBeside path)
  match content with
  | .text text => attempt (fun tree => tree.moveIntoPlace path text)
  | .absent => Action.fail .notText
  | .unpaired | .misnamed | .misplaced => Action.fail .unencodable

/-- The content is written to the file, whose directory must exist. -/
def overwriteFile (path : FilePath) (content : Content) : FileAction Unit :=
  match content with
  | .text text => attempt (fun tree => tree.writeInPlace path text)
  | .absent => Action.fail .notText
  | .unpaired => do
      attempt (fun tree => tree.writeInPlace path "")
      Action.fail .unencodable
  | .misnamed | .misplaced => Action.fail .unencodable

end FileAction

structure Output where
  directory : FilePath
  /-- Whether the files of the directory are deleted first. -/
  isCleaned : Bool
  /-- Whether files are written beside their targets and then moved. -/
  isAtomic : Bool
deriving DecidableEq, Repr

namespace Output

/-- The directory is made, and cleaned if that is asked for; the deleted files are returned. -/
def prepare (output : Output) : FileAction (List FilePath) := do
  FileAction.ensureDirectory output.directory
  if !output.isCleaned then return []
  let tree ← Action.state
  let deleted ← FileAction.deleteFiles
    ((tree.namesIn output.directory).map (fun name => output.directory.join ⟨"", [name]⟩))
  Action.report (.info s!"Cleaned {deleted.length} file(s) from {output.directory.toString}")
  return deleted

def write (output : Output) (fileName : String) (content : Content) : FileAction FilePath := do
  let path := output.directory.join (.ofString fileName)
  if output.isAtomic then FileAction.replaceFile path content
  else FileAction.overwriteFile path content
  Action.report (.info s!"Wrote {path.toString}")
  return path

def writeEach (output : Output) : List (String × Content) → FileAction (List FilePath)
  | [] => return []
  | (fileName, content) :: rest => do
      let path ← output.write fileName content
      let paths ← output.writeEach rest
      return path :: paths

def writeAll (output : Output) (files : List (String × Content)) :
    FileAction (List FilePath) := do
  let _ ← output.prepare
  output.writeEach files

end Output

end SchemaBinding
