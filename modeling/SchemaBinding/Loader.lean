import SchemaBinding.Action
import SchemaBinding.Catalog
import SchemaBinding.Schema.Reading

/-!
# Loading schemas

The schemas of a directory are loaded in the order of their paths, and each
document is followed at once by those that it refers to.  No document is loaded
twice.  A reference that leads to no file is reported and passed over.
-/

namespace SchemaBinding

structure Loader where
  catalog : Catalog
  /-- The paths of the documents whose loading was begun. -/
  visited : List FilePath
deriving Repr

namespace Loader

def empty : Loader := ⟨.empty, []⟩

/-- Whether a file is a schema, by the suffix of its name in letters of any case. -/
def isSchemaName (path : FilePath) : Bool :=
  path.suffix.map Char.toLower == ".xsd"

/-- The schema files below a directory, in the order of their paths. -/
def schemasBelow (tree : FileTree) (directory : FilePath) (recurse : Bool) : List FilePath :=
  let locations := (tree.contents directory).filterMap (fun (location, entry) =>
    match entry with
    | .file _ => if recurse || location.length == 1 then some location else none
    | .directory => none)
  let ordered := locations.mergeSort FilePath.precedes
  (ordered.map (fun location => directory.join ⟨"", location⟩)).filter isSchemaName

def hasOverlongEntry (tree : FileTree) (directory : FilePath) (recurse : Bool) : Bool :=
  (tree.contents directory).any (fun (location, _) =>
    (recurse || location.length == 1) &&
      decide (FileTree.maxPathSize < (directory.join ⟨"", location⟩).toString.utf8ByteSize))

/--
The schema files at a path: the file itself, or those of the directory.  Whether an
entry of the directory is a file is found out by looking up its path.
-/
def discover (tree : FileTree) (path : FilePath) (recurse : Bool) :
    Except FileFault (List FilePath) := do
  if ← tree.isFile path then return [path]
  else if hasOverlongEntry tree path recurse then throw .nameTooLong
  else return schemasBelow tree path recurse

def targetPath (location : String) (locator : Locator) : FilePath :=
  if location.startsWith "file:" then .ofString locator.path else .ofString location

def resolveLocation (tree : FileTree) (location : String) (referrer : FilePath) :
    Except Failure FilePath :=
  match Locator.ofString location with
  | .error fault => .error (.locator fault)
  | .ok locator => do
      if locator.scheme ≠ "" && locator.scheme ≠ "file" then
        throw (.missingDocument location referrer)
      let path := referrer.parent.join (targetPath location locator)
      if ← (tree.isFile path).mapError .file then (tree.resolve path).mapError .file
      else throw (.missingDocument location referrer)

/-- The loader with the beginning of the loading of a document noted. -/
def visit (loader : Loader) (path : FilePath) : Loader :=
  { loader with visited := loader.visited ++ [path] }

def register (loader : Loader) (schema : Schema) : Loader :=
  { loader with catalog := loader.catalog.register schema }

/-- The document that a directive refers to; one that is missing is reported. -/
def directiveTarget (tree : FileTree) (source : FilePath) (directive : Directive) :
    Run (Option FilePath) :=
  match directive.location with
  | none => do
      Run.report (.debug (source.toString ++ ": " ++ directive.kind.word ++ " of " ++
        directive.uri.getD "None" ++ " has no schemaLocation"))
      return none
  | some location =>
      match resolveLocation tree location source with
      | .ok path => return some path
      | .error (.missingDocument location referrer) => do
          let failure : Failure := .missingDocument location referrer
          Run.report (.warning (failure.message ++ ", skipped"))
          return none
      | .error failure => Run.fail failure

def followDirective (tree : FileTree) (recurse : FilePath → Action Loader (Option Schema))
    (source : FilePath) (directive : Directive) : Action Loader Unit := do
  match ← Action.ofRun (directiveTarget tree source directive) with
  | some target => Functor.discard (recurse target)
  | none => return ()

/--
A document is loaded unless it was loaded before, and those that it refers to are
loaded in the given way.
-/
def loadStep (tree : FileTree) (recurse : FilePath → Action Loader (Option Schema))
    (path : FilePath) : Action Loader (Option Schema) := do
  let path ← Action.ofRun (.ofExcept ((tree.resolve path).mapError .file))
  let loader ← Action.state
  if loader.visited.contains path then
    Action.report (.debug s!"Schema {path.toString} already loaded")
    return none
  Action.change (fun loader => loader.visit path)
  Action.report (.info s!"Loading schema {path.toString}")
  let schema ← Action.ofRun (Schema.ofFile tree path)
  Action.change (fun loader => loader.register schema)
  schema.directives.forM (followDirective tree recurse schema.source)
  return some schema

/-- The first argument bounds the length of a chain of references. -/
def loadWith (tree : FileTree) : Nat → FilePath → Action Loader (Option Schema)
  | 0 => fun _ => return none
  | fuel + 1 => loadStep tree (loadWith tree fuel)

/-- A document is loaded with those that it refers to, unless it was loaded before. -/
def loadFile (tree : FileTree) (path : FilePath) : Action Loader (Option Schema) :=
  loadWith tree (tree.entries.length + 2) path

/-- All schemas at a path are loaded, and all schemas loaded so far are returned. -/
def load (tree : FileTree) (root : String) (recurse : Bool) : Action Loader (List Schema) := do
  let paths ← Action.ofRun (.ofExcept ((discover tree (.ofString root) recurse).mapError .file))
  Action.report (.info s!"Found {paths.length} schema file(s) in {root}")
  paths.forM (fun path => Functor.discard (loadFile tree path))
  return (← Action.state).catalog.schemas

end Loader

end SchemaBinding
