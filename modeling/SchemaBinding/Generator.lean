import SchemaBinding.CSharp.Source
import SchemaBinding.Emission
import SchemaBinding.Loader
import SchemaBinding.Output

/-!
# Generating code

A generator loads the schemas at a path, builds the model for them, renders its
artifacts and writes them to files.  Each step does the ones before it where
they have not been done.
-/

namespace SchemaBinding

/-- What a run works on and what it has computed so far. -/
structure Generator where
  path : FilePath
  configuration : Configuration
  /-- The command line that comments tell. -/
  commandLine : String
  catalog : Option Catalog
  model : Option Model
deriving Repr

namespace Generator

def new (path : FilePath) (configuration : Configuration) (commandLine : String) : Generator :=
  ⟨path, configuration, commandLine, none, none⟩

/-- The schemas are loaded anew; the generator keeps what it had if that fails. -/
def load (tree : FileTree) : Action Generator Catalog := do
  let generator ← Action.state
  let recurse := generator.configuration.recurse.isTrue
  let (run, loader) := Loader.load tree generator.path.toString recurse .empty
  let _ ← Action.ofRun run
  let catalog := loader.catalog
  Action.report (.info (s!"Loaded {catalog.schemas.length} schema(s): " ++
    s!"{catalog.complexTypes.size} complex type name(s), " ++
    s!"{catalog.simpleTypes.size} simple type name(s), " ++
    s!"{catalog.elements.size} global element(s)"))
  Action.change (fun generator => { generator with catalog := some catalog })
  return catalog

/-- The model for a catalogue, with the catalogue that keeps what was computed for it. -/
def modelOf (catalog : Catalog) : Logged (Catalog × Model) := do
  let catalog ← catalog.classifyAll
  let (catalog, emission) ← Emission.empty.emit catalog
  return (catalog, emission.model)

/-- The model for the loaded schemas is built anew; they are loaded if they have not been. -/
def buildModel (tree : FileTree) : Action Generator Model := do
  let generator ← Action.state
  let catalog ← (match generator.catalog with
    | some catalog => return catalog
    | none => load tree)
  let (catalog, model) ← Action.ofRun (.ofLogged (modelOf catalog))
  Action.change (fun generator =>
    { generator with catalog := some catalog, model := some model })
  return model

def putFile (files : List (String × String)) (name text : String) : List (String × String) :=
  Model.assign files name text

def renderNext (configuration : Configuration) (commandLine : String)
    (files : List (String × String)) (artifact : Artifact) : Run (List (String × String)) := do
  let name ← Run.ofExcept (CSharp.fileName configuration artifact)
  if files.any (·.1 == name) then
    Run.report (.warning s!"Artifact {name} overwrites an artifact with the same file name")
  let text ← Run.ofExcept (CSharp.source configuration commandLine artifact)
  return putFile files name text

def renderModel (configuration : Configuration) (commandLine : String) (model : Model) :
    Run (List (String × String)) :=
  model.artifacts.foldlM (renderNext configuration commandLine) []

/-- The files of the model are rendered; it is built if it has not been. -/
def render (tree : FileTree) : Action Generator (List (String × String)) := do
  let generator ← Action.state
  let model ← (match generator.model with
    | some model => return model
    | none => buildModel tree)
  Action.ofRun (renderModel generator.configuration generator.commandLine model)

def outputOf (configuration : Configuration) (directory : String) : Except Failure Output := do
  let settings ← configuration.outputSettings
  return {
    directory := .ofString directory
    isCleaned := configuration.cleanOutput.isTrue
    isAtomic := settings.atomicWrite.isTrue }

/-- The content of a rendered file: a setting in it may hold a surrogate that stands alone. -/
def contentOf (configuration : Configuration) (text : String) : Content :=
  match configuration.misnaming? with
  | some .inDirectory => .misplaced
  | some .inName => .misnamed
  | none => if configuration.isUnpaired then .unpaired else .text text

def generate (directory : String) : Action (Generator × FileTree) (List FilePath) := do
  let (_, tree) ← Action.state
  let files ← Action.onPart Prod.fst (fun generator pair => (generator, pair.2)) (render tree)
  let (generator, _) ← Action.state
  let output ← Action.ofRun (.ofExcept (outputOf generator.configuration directory))
  let written ← Action.onPart Prod.snd (fun tree pair => (pair.1, tree))
    (output.writeAll (files.map (fun (name, text) =>
      (name, contentOf generator.configuration text))))
  Action.report (.info s!"Generated {written.length} file(s) in {directory}")
  return written

end Generator

end SchemaBinding
