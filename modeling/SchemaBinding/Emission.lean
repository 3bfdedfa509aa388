import SchemaBinding.Model.Definition
import SchemaBinding.Resolution

/-!
# Emitting models

The model for a catalogue: an enumeration for each enumerated simple type and a
class for each complex type.  A type that is written inside an element gets a
class of its own, which comes before the class of the type around it.  Each
name is given to one class only, the first that asks for it.
-/

namespace SchemaBinding

structure Emission where
  model : Model
  /-- The schema names of the types that have a class or are about to get one. -/
  emitted : List String
  /-- The types written inside global elements, by the names of the elements. -/
  rootTypes : List (String × ComplexType)
  /-- The first global element for each type. -/
  roots : List (String × RootElement)
deriving Repr

structure Draft where
  fields : List Field
  used : List String
deriving Repr

namespace Draft

def empty : Draft := ⟨[], []⟩

/-- The draft with a field for an element or attribute, and a flag if it needs one. -/
def addField (draft : Draft) (particle : String) (type : TypeRef) (binding : Binding)
    (isOptional : Bool) : Draft :=
  let name := Naming.fieldName particle draft.used
  let used := name :: draft.used
  let field : Field := {
    name
    originalName := particle
    type
    binding
    isRequired := !isOptional
    role := .plain }
  if isOptional && type.isValue then
    let flag := Naming.flagName name used
    let companion : Field := {
      name := flag
      originalName := ""
      type := ⟨.primitive .boolean, false⟩
      binding := .ignored
      isRequired := false
      role := .flagOf name false }
    ⟨draft.fields ++ [{ field with role := .flagged flag }, companion], flag :: used⟩
  else ⟨draft.fields ++ [field], used⟩

def addText (draft : Draft) (type : TypeRef) : Draft :=
  let name := Naming.fieldName Naming.textField draft.used
  let field : Field := {
    name
    originalName := ""
    type
    binding := .text
    isRequired := false
    role := .plain }
  ⟨draft.fields ++ [field], name :: draft.used⟩

end Draft

namespace Target

def named : Target → Target
  | .primitive kind => .primitive kind
  | .enumeration name => .enumeration (Naming.typeName name)
  | .structural name => .structural (Naming.typeName name)

end Target

namespace TypeRef

def named (type : TypeRef) : TypeRef :=
  { type with target := type.target.named }

end TypeRef

namespace MergedType

/-- The type inside a particle, as a type of its own beside its owner. -/
def synthesized (owner : MergedType) (particle : String) (type : ComplexType) : MergedType :=
  { MergedType.ofDefinition type with
    name := Naming.synthesizedName owner.name particle
    targetNamespace := type.targetNamespace.or owner.targetNamespace }

end MergedType

namespace Emission

def empty : Emission := ⟨.empty, [], [], []⟩

variable (catalog : Catalog)

def find? {α : Type} (pairs : List (String × α)) (key : String) : Option α :=
  (List.find? (·.1 == key) pairs).map Prod.snd

/-- The emission with a global element for a type, unless an earlier one is kept for it. -/
def addRoot (emission : Emission) (type : String) (element : GlobalElement) : Emission :=
  if (find? emission.roots type).isSome then emission
  else
    let root : RootElement := ⟨element.name, element.targetNamespace⟩
    { emission with roots := emission.roots ++ [(type, root)] }

def addRootType (emission : Emission) (name : String) (type : ComplexType) : Emission :=
  if (find? emission.rootTypes name).isSome then
    { emission with
      rootTypes := emission.rootTypes.map
        (fun entry => if entry.1 = name then (name, type) else entry) }
  else { emission with rootTypes := emission.rootTypes ++ [(name, type)] }

/-- The emission with what the first declaration of a global element is the root for. -/
def collectRoot (emission : Emission) (name : String) (element : GlobalElement) :
    Logged Emission :=
  match element.complexType, element.typeName with
  | some type, _ => do
      if catalog.complexTypes.contains name then
        Logged.report (.debug
          s!"Anonymous type of element {name} collides with complexType {name}")
        return emission
      else return (emission.addRootType name type).addRoot name element
  | none, some ref =>
      match catalog.targetOf ref with
      | .structural type => return emission.addRoot type element
      | _ => return emission
  | none, none => return emission

def collectRoots (emission : Emission) : Logged Emission :=
  catalog.elements.entries.foldlM
    (fun emission (name, definitions) => emission.collectRoot catalog name definitions.first)
    emission

/-- The members for values, after those whose names are in use. -/
def membersOf (enumeration : String) : List String → List String → List Member
  | _, [] => []
  | used, literal :: rest =>
      let name := Naming.memberName enumeration literal used
      ⟨name, literal⟩ :: membersOf enumeration (name :: used) rest

def enumOf (name : String) : EnumModel :=
  let type := catalog.simpleTypes.first? name
  let artifact := Naming.typeName name
  { name := artifact
    originalName := name
    uri := type.bind SimpleType.targetNamespace
    members := membersOf artifact [] ((type.map SimpleType.enumerations).getD []) }

def nameEnum (emission : Emission) (name : String) : Emission :=
  { emission with model := emission.model.rename name (Naming.typeName name) }

def addEnum (emission : Emission) (name : String) : Emission :=
  let named := emission.nameEnum name
  { named with model := { named.model with enums := named.model.enums ++ [enumOf catalog name] } }

/-- The emission with an enumeration for every simple type represented by one. -/
def addEnums (emission : Emission) : Emission :=
  catalog.scalars.foldl
    (fun emission (name, type) =>
      match type with
      | .enumeration _ => emission.addEnum catalog name
      | .primitive _ => emission)
    emission

/-- A name that refers to a structure which nothing declares is reported. -/
def checkTarget (emission : Emission) : Target → Logged Unit
  | .structural name =>
      if catalog.complexTypes.contains name || (find? emission.rootTypes name).isSome then return ()
      else Logged.report (.debug s!"Type {name} is not declared by any loaded schema")
  | _ => return ()

/-- The base class for a base type, if the base type is a structure. -/
def baseOf (emission : Emission) : Option QName → Logged (Option String)
  | none => return none
  | some base =>
      match catalog.targetOf base with
      | .structural name => do
          emission.checkTarget catalog (.structural name)
          return some (Naming.typeName name)
      | _ => return none

def addAttributes (draft : Draft) (uses : List AttributeUse) : Logged Draft :=
  uses.foldlM
    (fun draft use => do
      let type ← catalog.typeOfAttribute use
      return draft.addField use.name type.named (.attributeUse use.name) use.isOptional)
    draft

def addClass (emission : Emission) (type : MergedType) (isSynthesized : Bool)
    (base : Option String) (draft : Draft) : Emission × ClassModel :=
  let draft :=
    match type.text with
    | some name => draft.addText (catalog.typeOfText name).named
    | none => draft
  let model : ClassModel := {
    name := Naming.typeName type.name
    originalName := type.name
    uri := type.targetNamespace
    base
    fields := draft.fields
    root := find? emission.roots type.name
    isSynthesized
    isEmpty := type.isEmpty }
  let renamed := emission.model.rename type.name model.name
  ({ emission with model := { renamed with classes := renamed.classes ++ [model] } }, model)

def bindingOf (owner : MergedType) (particle : ElementParticle) : Binding :=
  .element particle.name (catalog.namespaceOf particle owner.targetNamespace)

mutual

/-- The emission with the class for a type inside a particle, unless its name is already given. -/
def addInner (nested : MergedType) : ComplexType → Emission → Logged Emission
  | ⟨_, elements, attributes, base, _, _, _⟩, emission =>
      if emission.emitted.contains nested.name then do
        Logged.report (.debug s!"Structural type {nested.name} already emitted")
        return emission
      else do
        let begun := { emission with emitted := nested.name :: emission.emitted }
        let base ← begun.baseOf catalog base
        let (draft, emission) ← addParticles nested elements .empty begun
        let draft ← addAttributes catalog draft attributes
        return (emission.addClass catalog nested true base draft).1

/--
The draft with a field for a particle.  The class for a type inside the particle
is added before the field.
-/
def addParticle (owner : MergedType) :
    ElementParticle → Draft → Emission → Logged (Draft × Emission)
  | ⟨name, typeName, simpleType, none, ref, minOccurs, maxOccurs, uri⟩, draft, emission => do
      let particle : ElementParticle :=
        ⟨name, typeName, simpleType, none, ref, minOccurs, maxOccurs, uri⟩
      let type ← catalog.typeOfParticle particle
      emission.checkTarget catalog type.target
      let binding := bindingOf catalog owner particle
      return (draft.addField name type.named binding particle.isOptional, emission)
  | ⟨name, typeName, simpleType, some inner, ref, minOccurs, maxOccurs, uri⟩, draft,
      emission => do
      let particle : ElementParticle :=
        ⟨name, typeName, simpleType, none, ref, minOccurs, maxOccurs, uri⟩
      let nested := owner.synthesized name inner
      let emission ← addInner nested inner emission
      let type : TypeRef := ⟨.structural (Naming.typeName nested.name), particle.isRepeatable⟩
      let binding := bindingOf catalog owner particle
      return (draft.addField name type binding particle.isOptional, emission)

def addParticles (owner : MergedType) :
    List ElementParticle → Draft → Emission → Logged (Draft × Emission)
  | [], draft, emission => return (draft, emission)
  | particle :: rest, draft, emission => do
      let (draft, emission) ← addParticle owner particle draft emission
      addParticles owner rest draft emission

end

/-- The emission with the class for a type, and the class unless the name is already given. -/
def emitClass (emission : Emission) (type : MergedType) (isSynthesized : Bool) :
    Logged (Emission × Option ClassModel) := do
  if emission.emitted.contains type.name then
    Logged.report (.debug s!"Structural type {type.name} already emitted")
    return (emission, none)
  else
    let begun := { emission with emitted := type.name :: emission.emitted }
    let base ← begun.baseOf catalog type.base
    let (draft, emission) ← addParticles catalog type type.elements .empty begun
    let draft ← addAttributes catalog draft type.attributes
    let (emission, model) := emission.addClass catalog type isSynthesized base draft
    return (emission, some model)

def emitClasses (emission : Emission) (types : List MergedType) : Logged Emission :=
  types.foldlM (fun emission type => Prod.fst <$> emission.emitClass catalog type false) emission

def emit (catalog : Catalog) (emission : Emission) : Logged (Catalog × Emission) := do
  let emission ← emission.collectRoots catalog
  let emission := emission.addEnums catalog
  let (catalog, types) ← catalog.mergeAll
  let emission ← emission.emitClasses catalog types
  let emission ← emission.emitClasses catalog
    (emission.rootTypes.map (fun entry => MergedType.ofDefinition entry.2))
  let enums := emission.model.enums.length
  let classes := emission.model.classes.length
  Logged.report (.info s!"Emitted {enums} enum(s) and {classes} class(es)")
  return (catalog, emission)

end Emission

end SchemaBinding
