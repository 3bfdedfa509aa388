import SchemaBinding.Proofs.Workspaces

/-!
# Emission in a workspace

Definitions are merged and models are built as objects.  Types of fields are made
first and get the name of their artifact afterwards, in place; a type inside a particle
is merged from its definition and then named; the lists of merged types are copies to
which items are added; a class is made before its fields and a model before its classes.
-/

namespace SchemaBinding

namespace Catalog

def erasedType : ComplexType := {}

/-- What the resolution of names reads of a catalogue: no complex type is looked into. -/
def outline (catalog : Catalog) : Catalog where
  complexTypes := ⟨catalog.complexTypes.entries.map fun entry => (entry.1, ⟨erasedType, []⟩)⟩
  simpleTypes := catalog.simpleTypes
  elements := ⟨catalog.elements.entries.map fun entry =>
    let element := entry.2.first
    (entry.1, ⟨{ element with complexType := element.complexType.map fun _ => erasedType }, []⟩)⟩
  namespaces := .empty
  schemas := []
  merged := []
  scalars := catalog.scalars

end Catalog

namespace Workspace

def listed (workspace : Workspace) (kind : ObjectKind) (list : Handle) : List kind.Content :=
  (workspace.content .list list).map (workspace.content kind)

def withScalars (workspace : Workspace) (scalars : List (String × ScalarType)) : Workspace :=
  { workspace with tables.scalars := scalars }

def outline (workspace : Workspace) : Catalog where
  complexTypes := ⟨workspace.tables.complexTypes.map
    fun entry => (entry.1, ⟨Catalog.erasedType, []⟩)⟩
  simpleTypes := ⟨workspace.tables.simpleTypes.map fun entry =>
    let types := workspace.listed .simpleType entry.2
    (entry.1, ⟨types.headD {}, types.tail⟩)⟩
  elements := ⟨workspace.tables.elements.map fun entry =>
    let element : ElementObject := (workspace.listed .element entry.2).headD default
    (entry.1, ⟨{
      name := element.name
      typeName := element.typeName
      complexType := element.complexType.map fun _ => Catalog.erasedType
      targetNamespace := element.targetNamespace
      source := element.source }, []⟩)⟩
  namespaces := .empty
  schemas := []
  merged := []
  scalars := workspace.tables.scalars

end Workspace

namespace Work

def outline : Work Catalog :=
  return (← get).outline

/-! ## Merging -/

def copyList (list : Handle) : Work Handle := do
  allocate .list (← fetch .list list)

def ofDefinition (definition : Handle) : Work Handle := do
  let type : TypeObject ← fetch .complexType definition
  let elements ← copyList type.elements
  let attributes ← copyList type.attributes
  allocate .merged {
    name := type.name
    elements
    attributes
    base := type.base
    text := type.text
    targetNamespace := type.targetNamespace
    sources := type.source.toList }

def addNew {kind : ObjectKind} (nameOf : kind.Content → String) (list : Handle) :
    List Handle → Work Unit
  | [] => return ()
  | item :: rest => do
      let workspace ← get
      if ((workspace.listed kind list).map nameOf).contains
          (nameOf (workspace.content kind item)) then
        addNew nameOf list rest
      else do
        change .list list (fun items : List Handle => items ++ [item])
        addNew nameOf list rest

/-- A copy of the leading list with the items of the other one that have new names. -/
def mergeLists {kind : ObjectKind} (nameOf : kind.Content → String) (lead other : Handle) :
    Work Handle := do
  let merged ← copyList lead
  addNew nameOf merged (← fetch .list other)
  return merged

/-- What two merged types make together, the first of which leads, as another merged type. -/
def combine (lead other : MergedObject) (name : String) (sources : List FilePath) :
    Work Handle := do
  let elements ← @mergeLists .particle Particle.name lead.elements other.elements
  let attributes ← @mergeLists .attributeUse AttributeUse.name lead.attributes other.attributes
  allocate .merged {
    name
    elements
    attributes
    base := lead.base.or other.base
    text := lead.text.or other.text
    targetNamespace := lead.targetNamespace
    sources }

def mergeNext (folded definition : Handle) : Work Handle := do
  let next ← ofDefinition definition
  let first : MergedObject ← fetch .merged folded
  let second : MergedObject ← fetch .merged next
  let few : List Handle ← fetch .list first.elements
  let many : List Handle ← fetch .list second.elements
  let sources := first.sources ++ second.sources
  if few.length < many.length then combine second first first.name sources
  else combine first second first.name sources

def fold : List Handle → Work Handle
  | [] => return default
  | first :: later => do later.foldlM mergeNext (← ofDefinition first)

/-- The merged type that is kept for a name, or a new one of the definitions in its list. -/
def mergeEntry (name : String) (list : Handle) : Work Handle := do
  match Emission.find? (← get).tables.merged name with
  | some merged => return merged
  | none => do
      let definitions : List Handle ← fetch .list (← copyList list)
      let merged ← fold definitions
      let type : MergedObject ← fetch .merged merged
      let elements : List Handle ← fetch .list type.elements
      let attributes : List Handle ← fetch .list type.attributes
      ofLogged ⟨Catalog.mergeRecords name definitions.length elements.length attributes.length, ()⟩
      modify fun workspace =>
        { workspace with
          tables.merged := workspace.tables.merged ++ [(name, merged)] }
      return merged

def mergeAll : Work (List Handle) := do
  (← get).tables.complexTypes.mapM fun entry => mergeEntry entry.1 entry.2

/-! ## Types of fields -/

def newType (target : Target) : Work Handle :=
  allocate .type (⟨target, false⟩ : TypeRef)

def typeFor (name : QName) : Work Handle := do
  newType ((← outline).targetOf name)

/-- A new type for a particle without a complex type; it becomes a sequence in place. -/
def typeForParticle (particle : Particle Handle) : Work Handle := do
  let plain : ElementParticle := { particle with complexType := none }
  let type ← newType (← ofLogged ((← outline).targetOfParticle plain))
  change .type type fun type : TypeRef => { type with isSequence := particle.isRepeatable }
  return type

def typeForAttribute (use : AttributeUse) : Work Handle :=
  match use.simpleType, use.typeName with
  | some type, _ => do newType ((← outline).classifyInline type).target
  | none, some name => do
      let type ← typeFor name
      let made : TypeRef ← fetch .type type
      match made.target with
      | .structural _ => do
          report (.debug s!"Attribute {use.name} refers to non-simple type {name.toString}")
          newType (.primitive .text)
      | _ => return type
  | none, none => newType (.primitive .text)

def typeForText (name : QName) : Work Handle := do
  let type ← typeFor name
  let made : TypeRef ← fetch .type type
  match made.target with
  | .structural _ => newType (.primitive .text)
  | _ => return type

def rename (type : Handle) : Work Handle := do
  change .type type TypeRef.named
  return type

end Work

/-! ## Classes -/

/-- What a model is emitted with. -/
structure Emitter where
  model : Handle
  emitted : List String
  rootTypes : List (String × Handle)
  roots : List (String × RootElement)

namespace Emitter

open Work
open Emission (find?)

def addRoot (emitter : Emitter) (type : String) (root : RootElement) : Emitter :=
  if (find? emitter.roots type).isSome then emitter
  else { emitter with roots := emitter.roots ++ [(type, root)] }

def addRootType (emitter : Emitter) (name : String) (type : Handle) : Emitter :=
  if (find? emitter.rootTypes name).isSome then
    { emitter with
      rootTypes := emitter.rootTypes.map
        fun entry => if entry.1 = name then (name, type) else entry }
  else { emitter with rootTypes := emitter.rootTypes ++ [(name, type)] }

def collectRoot (emitter : Emitter) (name : String) (element : ElementObject) : Work Emitter :=
  match element.complexType, element.typeName with
  | some type, _ => do
      if (← outline).complexTypes.contains name then
        report (.debug s!"Anonymous type of element {name} collides with complexType {name}")
        return emitter
      else
        return (emitter.addRootType name type).addRoot name ⟨element.name, element.targetNamespace⟩
  | none, some ref => do
      let type : TypeRef ← fetch .type (← typeFor ref)
      match type.target with
      | .structural name => return emitter.addRoot name ⟨element.name, element.targetNamespace⟩
      | _ => return emitter
  | none, none => return emitter

def collectRoots (emitter : Emitter) : Work Emitter := do
  (← get).tables.elements.foldlM
    (fun emitter entry => do
      let elements : List ElementObject := (← get).listed .element entry.2
      emitter.collectRoot entry.1 (elements.headD default))
    emitter

def addMembers (enumeration : Handle) (artifact : String) : List String → List String → Work Unit
  | _, [] => return ()
  | used, literal :: rest => do
      let name := Naming.memberName artifact literal used
      change .enumeration enumeration fun model : EnumModel =>
        { model with members := model.members ++ [⟨name, literal⟩] }
      addMembers enumeration artifact (name :: used) rest

def nameArtifact (emitter : Emitter) (type artifact : String) : Work Unit :=
  change .model emitter.model fun model : ModelObject =>
    { model with names := Model.assign model.names type artifact }

def addEnum (emitter : Emitter) (name : String) : Work Unit := do
  let type := (← outline).simpleTypes.first? name
  let artifact := Naming.typeName name
  let enumeration ← allocate .enumeration
    (⟨artifact, name, type.bind SimpleType.targetNamespace, []⟩ : EnumModel)
  addMembers enumeration artifact [] ((type.map SimpleType.enumerations).getD [])
  emitter.nameArtifact name artifact
  change .model emitter.model fun model : ModelObject =>
    { model with enums := model.enums ++ [enumeration] }

def addEnums (emitter : Emitter) : Work Unit := do
  (← get).tables.scalars.forM fun entry =>
    match entry.2 with
    | .enumeration _ => emitter.addEnum entry.1
    | .primitive _ => return ()

def checkTarget (emitter : Emitter) : Target → Work Unit
  | .structural name => do
      if (← outline).complexTypes.contains name || (find? emitter.rootTypes name).isSome then
        return ()
      else report (.debug s!"Type {name} is not declared by any loaded schema")
  | _ => return ()

def appendField (model : Handle) (field : FieldObject) : Work Handle := do
  let address ← allocate .field field
  change .structural model fun model : ClassObject =>
    { model with fields := model.fields ++ [address] }
  return address

/-- A new field for an element or attribute; it comes to know its flag in place, if it has one. -/
def addField (model : Handle) (used : List String) (particle : String) (type : Handle)
    (binding : Binding) (isOptional : Bool) : Work (List String) := do
  let name := Naming.fieldName particle used
  let used := name :: used
  let field ← appendField model ⟨name, particle, type, binding, !isOptional, .plain⟩
  let made : TypeRef ← fetch .type type
  if isOptional && made.isValue then
    let flag := Naming.flagName name used
    change .field field fun field : FieldObject => { field with role := .flagged flag }
    let boolean ← newType (.primitive .boolean)
    let _ ← appendField model ⟨flag, "", boolean, .ignored, false, .flagOf name false⟩
    return flag :: used
  else return used

/-- A merged type gets a name of its own in place, and the namespace of its owner if it has none. -/
def nameNested (outer : MergedObject) (particle : String) (nested : Handle) : Work Unit := do
  change .merged nested fun type : MergedObject =>
    { type with name := Naming.synthesizedName outer.name particle }
  let type : MergedObject ← fetch .merged nested
  if type.targetNamespace.isNone then
    change .merged nested fun type : MergedObject =>
      { type with targetNamespace := outer.targetNamespace }
  else return ()

def synthesize (outer : MergedObject) (particle : String) (definition : Handle) :
    Work Handle := do
  let nested ← ofDefinition definition
  nameNested outer particle nested
  return nested

variable (inner : Emitter → Handle → Work Emitter)

/--
The type of the field for a particle.  A type inside the particle is merged from its
definition, named in place, and its class is emitted first.
-/
def typeOfElement (emitter : Emitter) (owner : Handle) (particle : Particle Handle) :
    Work (Handle × Emitter) :=
  match particle.complexType with
  | none => do
      let type ← typeForParticle particle
      let made : TypeRef ← fetch .type type
      emitter.checkTarget made.target
      return (← rename type, emitter)
  | some definition => do
      let outer : MergedObject ← fetch .merged owner
      let emitter ← inner emitter (← synthesize outer particle.name definition)
      let name := Naming.typeName (Naming.synthesizedName outer.name particle.name)
      let type ← allocate .type (⟨.structural name, particle.isRepeatable⟩ : TypeRef)
      return (type, emitter)

def addParticles (owner model : Handle) :
    List Handle → List String → Emitter → Work (List String × Emitter)
  | [], used, emitter => return (used, emitter)
  | address :: rest, used, emitter => do
      let particle : Particle Handle ← fetch .particle address
      let (type, emitter) ← emitter.typeOfElement inner owner particle
      let outer : MergedObject ← fetch .merged owner
      let plain : ElementParticle := { particle with complexType := none }
      let binding := .element plain.name ((← outline).namespaceOf plain outer.targetNamespace)
      let used ← addField model used particle.name type binding particle.isOptional
      addParticles owner model rest used emitter

def setBase (emitter : Emitter) (model : Handle) : Option QName → Work Unit
  | none => return ()
  | some base => do
      let type : TypeRef ← fetch .type (← typeFor base)
      match type.target with
      | .structural name => do
          change .structural model fun model : ClassObject =>
            { model with base := some (Naming.typeName name) }
          emitter.checkTarget (.structural name)
      | _ => return ()

def addAttributes (model : Handle) : List Handle → List String → Work (List String)
  | [], used => return used
  | address :: rest, used => do
      let use : AttributeUse ← fetch .attributeUse address
      let type ← rename (← typeForAttribute use)
      addAttributes model rest
        (← addField model used use.name type (.attributeUse use.name) use.isOptional)

def addText (model : Handle) (used : List String) : Option QName → Work Unit
  | none => return ()
  | some text => do
      let type ← rename (← typeForText text)
      let name := Naming.fieldName Naming.textField used
      let _ ← appendField model ⟨name, "", type, .text, false, .plain⟩
      return ()

def addClass (emitter : Emitter) (name : String) (model : Handle) : Work Unit := do
  emitter.nameArtifact name (Naming.typeName name)
  change .model emitter.model fun whole : ModelObject =>
    { whole with classes := whole.classes ++ [model] }

def emitType (emitter : Emitter) (merged : Handle) (isSynthesized : Bool) : Work Emitter := do
  let type : MergedObject ← fetch .merged merged
  if emitter.emitted.contains type.name then
    report (.debug s!"Structural type {type.name} already emitted")
    return emitter
  else do
    let emitter : Emitter := { emitter with emitted := type.name :: emitter.emitted }
    let elements : List Handle ← fetch .list type.elements
    let attributes : List Handle ← fetch .list type.attributes
    let model ← allocate .structural ({
      name := Naming.typeName type.name
      originalName := type.name
      uri := type.targetNamespace
      base := none
      fields := []
      root := find? emitter.roots type.name
      isSynthesized
      isEmpty := elements.isEmpty && attributes.isEmpty && type.text.isNone } : ClassObject)
    emitter.setBase model type.base
    let (used, emitter) ← addParticles inner merged model elements [] emitter
    let used ← addAttributes model attributes used
    addText model used type.text
    emitter.addClass type.name model
    return emitter

/-- The class for a type inside a particle, with types inside its own particles so deep. -/
def emitNested : Nat → Emitter → Handle → Work Emitter
  | 0, emitter, _ => return emitter
  | room + 1, emitter, merged => emitType (emitNested room) emitter merged true

def emit (room : Nat) (emitter : Emitter) : Work Unit := do
  let emitter ← emitter.collectRoots
  emitter.addEnums
  let types ← mergeAll
  let emitter ← types.foldlM
    (fun emitter merged => emitType (emitNested room) emitter merged false) emitter
  let emitter ← emitter.rootTypes.foldlM
    (fun emitter entry => do emitType (emitNested room) emitter (← ofDefinition entry.2) false)
    emitter
  let model : ModelObject ← fetch .model emitter.model
  report (.info
    s!"Emitted {model.enums.length} enum(s) and {model.classes.length} class(es)")

end Emitter

namespace Work

/-- The model for the declarations of a workspace, as a new object. -/
def buildModel (room : Nat) : Work Handle := do
  let catalog ← ofLogged (← outline).classifyAll
  modify (·.withScalars catalog.scalars)
  let model ← allocate .model (⟨[], [], []⟩ : ModelObject)
  Emitter.emit room ⟨model, [], [], []⟩
  return model

def buildModels (room : Nat) : Nat → Work (List Handle)
  | 0 => return []
  | count + 1 => do
      let model ← buildModel room
      let models ← buildModels room count
      return model :: models

end Work

end SchemaBinding
