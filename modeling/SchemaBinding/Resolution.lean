import SchemaBinding.Catalog

/-!
# Resolving types

Simple types are represented by primitives and enumerations, and the types of
elements and attributes are found through the names that refer to them.  A name
that is neither a builtin type nor a declared simple type is taken for the name
of a complex type.
-/

namespace SchemaBinding

def builtinPrimitives : List (String × Primitive) := [
  ("integer", .integer), ("int", .integer), ("long", .integer), ("short", .integer),
  ("byte", .integer), ("nonNegativeInteger", .integer), ("nonPositiveInteger", .integer),
  ("positiveInteger", .integer), ("negativeInteger", .integer), ("unsignedLong", .integer),
  ("unsignedInt", .integer), ("unsignedShort", .integer), ("unsignedByte", .integer),
  ("decimal", .decimal), ("float", .decimal), ("double", .decimal), ("boolean", .boolean),
  ("dateTime", .timestamp), ("date", .timestamp), ("time", .timestamp)]

def builtinTexts : List String := [
  "anyType", "anySimpleType", "string", "normalizedString", "token", "language", "Name", "NCName",
  "NMTOKEN", "NMTOKENS", "ID", "IDREF", "IDREFS", "ENTITY", "ENTITIES", "QName", "NOTATION",
  "anyURI", "base64Binary", "hexBinary", "duration", "gYear", "gYearMonth", "gMonth", "gMonthDay",
  "gDay"]

def isBuiltinName (name : String) : Bool :=
  builtinTexts.contains name || builtinPrimitives.any (·.1 == name)

/-- The primitive for a type of the schema language; one that is not known is a text. -/
def builtinPrimitive (name : String) : Primitive :=
  ((builtinPrimitives.find? (·.1 == name)).map Prod.snd).getD .text

example : builtinPrimitive "unsignedByte" = .integer := by decide

example : builtinPrimitives.all (fun entry => !builtinTexts.contains entry.1) = true := by
  decide

namespace Catalog

variable (catalog : Catalog)

/--
Whether a name refers to a builtin type.  Outside the namespace of the schema
language only a name without any namespace may do so: always if its label is
not bound, and otherwise if no schema declares a type of that name.
-/
def isBuiltin (name : QName) : Bool :=
  name.isXsd ||
    (name.uri.isNone && isBuiltinName name.localName &&
      (name.unbound ||
        (!catalog.simpleTypes.contains name.localName &&
          !catalog.complexTypes.contains name.localName)))

def classifyBase : Option QName → ScalarType
  | some base =>
      if catalog.isBuiltin base then .primitive (builtinPrimitive base.localName) else .text
  | none => .text

/-- The representation of a simple type inside a particle, which is never an enumeration. -/
def classifyInline (type : SimpleType) : ScalarType :=
  match type.variety with
  | .restriction => catalog.classifyBase type.base
  | .list | .union => .text

def classify (type : SimpleType) : ScalarType :=
  match type.variety, type.enumerations with
  | .restriction, _ :: _ => .enumeration type.name
  | _, _ => catalog.classifyInline type

def classifyEntry (name : String) (definitions : Definitions SimpleType) : Logged Catalog := do
  if (catalog.scalar? name).isSome then return catalog
  if !definitions.later.isEmpty then
    let count := definitions.later.length
    Logged.report (.debug s!"Ignoring {count} later definition(s) of simple type {name}")
  return { catalog with scalars := catalog.scalars ++ [(name, catalog.classify definitions.first)] }

def classifyAll : Logged Catalog :=
  catalog.simpleTypes.entries.foldlM
    (fun catalog (name, definitions) => catalog.classifyEntry name definitions) catalog

def targetOf (name : QName) : Target :=
  if catalog.isBuiltin name then .primitive (builtinPrimitive name.localName)
  else
    match catalog.scalar? name.localName with
    | some type => type.target
    | none =>
        if catalog.simpleTypes.contains name.localName then .primitive .text
        else .structural name.localName

def targetOfElement (ref : QName) : Logged Target :=
  match catalog.elements.first? ref.localName with
  | none => do
      Logged.report (.debug s!"Element reference {ref.toString} does not match any global element")
      return .structural ref.localName
  | some element =>
      match element.typeName, element.complexType with
      | some name, _ => return catalog.targetOf name
      | none, some _ => return .structural element.name
      | none, none => return .primitive .text

def targetOfParticle (particle : ElementParticle) : Logged Target :=
  match particle.simpleType, particle.typeName, particle.ref with
  | some type, _, _ => return (catalog.classifyInline type).target
  | none, some name, _ => return catalog.targetOf name
  | none, none, some ref => catalog.targetOfElement ref
  | none, none, none => return .primitive .text

def typeOfParticle (particle : ElementParticle) : Logged TypeRef := do
  let target ← catalog.targetOfParticle particle
  return ⟨target, particle.isRepeatable⟩

/-- The type of the field for an attribute, which is always simple. -/
def typeOfAttribute (use : AttributeUse) : Logged TypeRef :=
  match use.simpleType, use.typeName with
  | some type, _ => return .ofScalar (catalog.classifyInline type) false
  | none, some name =>
      match catalog.targetOf name with
      | .structural _ => do
          Logged.report (.debug s!"Attribute {use.name} refers to non-simple type {name.toString}")
          return .text
      | target => return ⟨target, false⟩
  | none, none => return .text

/-- The type of the field for the text of an element, which is always simple. -/
def typeOfText (name : QName) : TypeRef :=
  match catalog.targetOf name with
  | .structural _ => .text
  | target => ⟨target, false⟩

def namespaceOf (particle : ElementParticle) (owner : Option String) : Option String :=
  match particle.ref with
  | some ref =>
      match catalog.elements.first? ref.localName with
      | some element => element.targetNamespace
      | none => ref.uri
  | none =>
      match particle.targetNamespace with
      | none | some "" => owner
      | some uri => some uri

end Catalog

end SchemaBinding
