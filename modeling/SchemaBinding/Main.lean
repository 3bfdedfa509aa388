import SchemaBinding.CommandLine.Program

/-!
# The executable

The program computes on a file tree.  The part of the disk that it may look at
is learned first: the paths on the command line, the schemas to be loaded and
the documents that they refer to.  Afterwards the changes of the tree are made
on the disk.
-/

namespace SchemaBinding.Disk

open CommandLine

def entryAt (path : FilePath) : IO (Option Entry) := do
  let place := (← IO.currentDir) / path.toString
  if ← place.isDir then return some .directory
  else if ← place.pathExists then
    return some (.file (← IO.FS.readBinFile place).toList)
  else return none

/-- The tree with what stands at a path and on the way to it. -/
def learn (tree : FileTree) (path : FilePath) : IO FileTree :=
  (List.range (path.parts.length + 1)).foldlM
    (fun tree count => do
      let part := { path with parts := path.parts.take count }
      match tree.locate part, ← entryAt part with
      | .ok location, some entry => return tree.set location entry
      | _, _ => return tree)
    tree

/-- The tree with what stands in a directory, and in its subdirectories if that is asked for. -/
partial def learnBelow (recurse : Bool) (tree : FileTree) (path : FilePath) : IO FileTree := do
  let place := (← IO.currentDir) / path.toString
  if !(← place.isDir) then return tree
  let names := (← place.readDir).toList.map (fun found => found.fileName)
  names.foldlM
    (fun tree name => do
      let inner := path.join ⟨"", [name]⟩
      let tree ← learn tree inner
      if recurse then learnBelow recurse tree inner else return tree)
    tree

def referredPath? (source : FilePath) (directive : Directive) : Option FilePath := do
  let location ← directive.location
  let locator ← (Locator.ofString location).toOption
  return source.parent.join (Loader.targetPath location locator)

/-- The tree with the documents that others refer to, however long the way to them is. -/
partial def learnReferences (visited : List FilePath) :
    FileTree → List FilePath → IO FileTree
  | tree, [] => return tree
  | tree, path :: rest => do
      match tree.resolve path with
      | .error _ => learnReferences visited tree rest
      | .ok path =>
      if visited.contains path then learnReferences visited tree rest
      else
        let directives :=
          match (Schema.ofFile tree path).outcome with
          | .ok schema => schema.directives
          | .error _ => []
        let found := directives.filterMap (referredPath? path)
        let tree ← found.foldlM learn tree
        learnReferences (path :: visited) tree (found ++ rest)

/-- The tree with everything that an invocation may look at. -/
def learnFor (tree : FileTree) (invocation : Invocation) : IO FileTree := do
  let recurse :=
    match invocation.configurationOf tree with
    | .ok configuration => configuration.recurse.isTrue
    | .error _ => false
  let tree ← learnBelow recurse tree invocation.path
  let tree ← learnBelow false tree invocation.output
  learnReferences [] tree ((Loader.discover tree invocation.path recurse).toOption.getD [])

def pathsOf (words : List String) : List FilePath :=
  match Arguments.read? (parameters ++ [helpParameter]) words with
  | some arguments =>
      (arguments.positional ++ arguments.given.filterMap Given.value).map FilePath.ofString
  | none => []

/-- The part of the disk that a run with the given words may look at. -/
def learnAll (words : List String) : IO FileTree := do
  let directory := FilePath.ofString (← IO.currentDir).toString
  let start : FileTree := { entries := [], workingDirectory := directory.parts }
  let tree ← learn start directory
  let tree ← (pathsOf words).foldlM learn tree
  let tree ← ((pathsOf words).filterMap (fun path => (tree.resolve path).toOption)).foldlM learn tree
  match Request.ofWords tree words with
  | .invoke invocation => learnFor tree invocation
  | .help | .failed _ | .invalid => return tree

/-- An entry is made on the disk; a file is complete before it takes its place. -/
def put (location : Location) (entry : Entry) : IO Unit := do
  let place := (← IO.currentDir) / (FilePath.ofLocation location).toString
  match entry with
  | .directory => IO.FS.createDirAll place
  | .file bytes =>
      let beside := place.toString ++ ".tmp"
      IO.FS.writeBinFile beside ⟨bytes.toArray⟩
      IO.FS.rename beside place

def apply (before after : FileTree) : IO Unit := do
  for (location, _) in before.entries do
    if (after.entry? location).isNone then
      IO.FS.removeFile ((← IO.currentDir) / (FilePath.ofLocation location).toString)
  for (location, entry) in after.entries do
    if before.entry? location != some entry then put location entry

def usage : String :=
  s!"Usage: {programName} [OPTIONS] PATH OUTPUT"

end SchemaBinding.Disk

open SchemaBinding SchemaBinding.CommandLine

def main (words : List String) : IO UInt32 := do
  let tree ← Disk.learnAll words
  let (report, changed) := execute words tree
  Disk.apply tree changed
  report.lines.forM IO.eprintln
  match report.ending with
  | .misuse => IO.eprintln Disk.usage
  | .help => IO.println Disk.usage
  | .failed failure => IO.eprintln s!"Error: {failure.message}"
  | .done line => IO.println line
  return report.ending.status.toUInt32
