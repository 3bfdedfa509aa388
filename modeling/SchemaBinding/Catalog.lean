import SchemaBinding.Action
import SchemaBinding.Model.TypeRef
import SchemaBinding.NamespaceTable
import SchemaBinding.Registry
import SchemaBinding.Schema.Definition
import SchemaBinding.Schema.Merged

/-!
# Catalogues of declarations

A catalogue holds every declaration of the schemas registered in it.  What is
computed from the declarations of a name, its merged definition or the
representation of a simple type, is kept once it is computed.
-/

namespace SchemaBinding

/-- The declarations of a set of schemas. -/
structure Catalog where
  complexTypes : Registry ComplexType
  simpleTypes : Registry SimpleType
  elements : Registry GlobalElement
  namespaces : NamespaceTable
  /-- The schemas in the order of their registration. -/
  schemas : List Schema
  /-- The merged definitions computed so far. -/
  merged : List (String × MergedType)
  /-- The representations of simple types computed so far. -/
  scalars : List (String × ScalarType)
deriving Repr

namespace Catalog

def empty : Catalog where
  complexTypes := .empty
  simpleTypes := .empty
  elements := .empty
  namespaces := .empty
  schemas := []
  merged := []
  scalars := []

/-- The catalogue with a schema: its bindings and all its declarations. -/
def register (catalog : Catalog) (schema : Schema) : Catalog :=
  { catalog with
    schemas := catalog.schemas ++ [schema]
    namespaces := schema.namespaces.foldl
      (fun table (label, uri) => table.register label uri) catalog.namespaces
    complexTypes := schema.complexTypes.foldl
      (fun registry type => registry.append type.name type) catalog.complexTypes
    simpleTypes := schema.simpleTypes.foldl
      (fun registry type => registry.append type.name type) catalog.simpleTypes
    elements := schema.elements.foldl
      (fun registry element => registry.append element.name element) catalog.elements }

/-- The merged definition of a name, if it was computed before. -/
def merged? (catalog : Catalog) (name : String) : Option MergedType :=
  (catalog.merged.find? (·.1 == name)).map Prod.snd

def scalar? (catalog : Catalog) (name : String) : Option ScalarType :=
  (catalog.scalars.find? (·.1 == name)).map Prod.snd

/-- What is reported when so many definitions are merged to so many parts. -/
def mergeRecords (name : String) (count elements attributes : Nat) : List Record :=
  if count = 1 then []
  else
    [.info (s!"Merged {count} definitions of {name}: " ++
      s!"{elements} element(s), {attributes} attribute(s)")]

def mergeDefinitions (catalog : Catalog) (name : String) (definitions : Definitions ComplexType) :
    Logged (Catalog × MergedType) :=
  match catalog.merged? name with
  | some type => return (catalog, type)
  | none =>
      let type := MergedType.fold definitions.first definitions.later
      ⟨mergeRecords name definitions.toList.length type.elements.length type.attributes.length,
        ({ catalog with merged := catalog.merged ++ [(name, type)] }, type)⟩

/-- The merged definition of a name, which the catalogue keeps. -/
def merge (name : String) : Action Catalog MergedType := do
  let catalog ← Action.state
  match catalog.merged? name, catalog.complexTypes.definitions? name with
  | some type, _ => return type
  | none, some definitions =>
      let (after, type) ← Action.ofRun (.ofLogged (catalog.mergeDefinitions name definitions))
      Action.change fun _ => after
      return type
  | none, none => Action.fail (.unregisteredType name)

def mergeEach : List (String × Definitions ComplexType) → Catalog →
    Logged (Catalog × List MergedType)
  | [], catalog => return (catalog, [])
  | (name, definitions) :: rest, catalog => do
      let (catalog, type) ← catalog.mergeDefinitions name definitions
      let (catalog, types) ← mergeEach rest catalog
      return (catalog, type :: types)

def mergeAll (catalog : Catalog) : Logged (Catalog × List MergedType) :=
  mergeEach catalog.complexTypes.entries catalog

end Catalog

end SchemaBinding
