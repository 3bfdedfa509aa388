import SchemaBinding.Failure
import SchemaBinding.Schema.Construct
import SchemaBinding.Text.Numeral
import SchemaBinding.Xml.Document

/-!
# Reading schemas

The declarations of a document in document order.  Model groups are flattened
into the elements they hold, at any depth, and a derivation adds its own
content to the type that it derives.
-/

namespace SchemaBinding.Schema

open Xml

/-- What all declarations of one document share. -/
structure Context where
  source : FilePath
  targetNamespace : Option String
  /-- The namespace of each label, by its first declaration in the document. -/
  namespaces : List (String × String)

/-- The bindings of labels with only the first one of each label kept. -/
def firstBindings (bindings : List NamespaceBinding) : List (String × String) :=
  bindings.foldl
    (fun kept binding => if kept.any (·.1 == binding.1) then kept else kept ++ [binding]) []

def present? : Option String → Option String
  | some "" => none
  | value => value

/-- The name of a declaration, or the local name of what it refers to instead. -/
def nameOr (name : Option String) (ref : Option QName) : String :=
  match present? name with
  | some name => name
  | none => (ref.map QName.localName).getD ""

namespace Context

def uriOf? (context : Context) (label : String) : Option String :=
  (context.namespaces.find? (·.1 == label)).map Prod.snd

/-- The qualified name that a text with or without a label spells. -/
def qualify (context : Context) (text : List Char) : QName :=
  match Text.cutFirst ':' text with
  | (label, some localName) =>
      match context.uriOf? (String.ofList label) with
      | some uri => ⟨some uri, String.ofList localName, false⟩
      | none => ⟨none, String.ofList localName, true⟩
  | (localName, none) => ⟨context.uriOf? "", String.ofList localName, false⟩

/-- The qualified name in an attribute value; an empty value is none. -/
def reference? (context : Context) (value : Option String) : Option QName :=
  (present? value).map (fun text => context.qualify (Text.strip text.toList))

end Context

variable (context : Context)

def enumerationsOf (children : List Element) : List String :=
  (children.filter (fun child => Construct.ofName child.name = .enumeration)).map
    (fun child => (child.attribute? "value").getD "")

/-- A simple type with the derivation that one child of its declaration gives it. -/
def deriveSimple (type : SimpleType) (child : Element) : SimpleType :=
  match Construct.ofName child.name with
  | .restriction =>
      { type with
        variety := .restriction
        base := context.reference? (child.attribute? "base")
        enumerations := enumerationsOf child.children }
  | .list => { type with variety := .list }
  | .union => { type with variety := .union }
  | _ => type

def simpleTypeOf (name : String) (children : List Element) : SimpleType :=
  children.foldl (deriveSimple context)
    { name, targetNamespace := context.targetNamespace, source := some context.source }

/-- The last simple type written among the children of a declaration. -/
def inlineSimpleType? (children : List Element) : Option SimpleType :=
  (children.reverse.find? (fun child => Construct.ofName child.name = .simpleType)).map
    (fun child => simpleTypeOf context "" child.children)

def attributeUseOf (element : Element) : AttributeUse :=
  let ref := context.reference? (element.attribute? "ref")
  { name := nameOr (element.attribute? "name") ref
    typeName := context.reference? (element.attribute? "type")
    simpleType := inlineSimpleType? context element.children
    ref
    required := element.attribute? "use" == some "required" }

/-- The attribute that an element declares, unless it is prohibited. -/
def readAttributeUse (element : Element) : Run (List AttributeUse) :=
  if element.attribute? "use" = some "prohibited" then do
    let shown := (present? (element.attribute? "name")).or (element.attribute? "ref")
    Run.report (.debug (context.source.toString ++ ": skipping prohibited attribute " ++
      shown.getD "None"))
    return []
  else return [attributeUseOf context element]

def minOccursOf (element : Element) : Except Failure Int :=
  let text := Text.strip ((element.attribute? "minOccurs").getD "1").toList
  match Text.Numeral.read? text with
  | some count => .ok count
  | none => .error (.schema context.source (.occurrence (String.ofList text)))

/-- The particle that an element declares, without its complex type. -/
def particleOf (element : Element) (minOccurs : Int) : ElementParticle :=
  let ref := context.reference? (element.attribute? "ref")
  { name := nameOr (element.attribute? "name") ref
    typeName := context.reference? (element.attribute? "type")
    simpleType := inlineSimpleType? context element.children
    ref
    minOccurs
    maxOccurs :=
      String.ofList (Text.strip ((element.attribute? "maxOccurs").getD "1").toList)
    targetNamespace := context.targetNamespace }

def emptyType (name : String) : ComplexType :=
  { name, targetNamespace := context.targetNamespace, source := some context.source }

mutual

/-- A complex type with the content that children of its declaration or derivation add. -/
def readContent (type : ComplexType) : List Element → Run ComplexType
  | [] => return type
  | ⟨name, attributes, children⟩ :: rest => do
      let type ← (match Construct.ofName name with
        | .group => do
            let particles ← readGroup children
            return { type with elements := type.elements ++ particles }
        | .attributeUse => do
            let uses ← readAttributeUse context ⟨name, attributes, children⟩
            return { type with attributes := type.attributes ++ uses }
        | .complexContent => readComplexContent type children
        | .simpleContent => readSimpleContent type children
        | _ => return type)
      readContent type rest

/-- A complex type with the content of its derivations; an extension names the base. -/
def readComplexContent (type : ComplexType) : List Element → Run ComplexType
  | [] => return type
  | ⟨name, attributes, children⟩ :: rest => do
      let type ← (match Construct.ofName name with
        | .extension =>
            let base := context.reference? (Element.attribute? ⟨name, attributes, []⟩ "base")
            readContent { type with base } children
        | .restriction => readContent type children
        | _ => return type)
      readComplexContent type rest

/-- A complex type with the content of its derivations; each names the type of the text. -/
def readSimpleContent (type : ComplexType) : List Element → Run ComplexType
  | [] => return type
  | ⟨name, attributes, children⟩ :: rest => do
      let type ← (match Construct.ofName name with
        | .extension | .restriction =>
            let text := context.reference? (Element.attribute? ⟨name, attributes, []⟩ "base")
            readContent { type with text } children
        | _ => return type)
      readSimpleContent type rest

/-- The particles of a model group, those of the groups inside it included. -/
def readGroup : List Element → Run (List ElementParticle)
  | [] => return []
  | ⟨name, attributes, children⟩ :: rest => do
      let particles ← (match Construct.ofName name with
        | .element => do
            let minOccurs ← Run.ofExcept (minOccursOf context ⟨name, attributes, children⟩)
            let types ← readInlineTypes children
            let particle := particleOf context ⟨name, attributes, children⟩ minOccurs
            return [{ particle with complexType := types.getLast? }]
        | .group => readGroup children
        | _ => return [])
      let others ← readGroup rest
      return particles ++ others

def readInlineTypes : List Element → Run (List ComplexType)
  | [] => return []
  | ⟨name, _, children⟩ :: rest => do
      let types ← (match Construct.ofName name with
        | .complexType => do
            let type ← readContent (emptyType context "") children
            return [type]
        | _ => return [])
      let others ← readInlineTypes rest
      return types ++ others

end

def readGlobalElement (element : Element) : Run GlobalElement := do
  let name := (element.attribute? "name").getD ""
  let types ← readInlineTypes context element.children
  return {
    name
    typeName := context.reference? (element.attribute? "type")
    complexType := types.getLast?.map (fun type => { type with name })
    targetNamespace := context.targetNamespace
    source := some context.source }

def readDeclaration (schema : Schema) (element : Element) : Run Schema :=
  let unnamed (kind : String) : Run Schema :=
    let message := context.source.toString ++ ": skipping top-level " ++ kind ++ " without a name"
    (fun _ => schema) <$> Run.report (.debug message)
  match Construct.ofName element.name with
  | .complexType =>
      match present? (element.attribute? "name") with
      | none => unnamed "complexType"
      | some name => do
          let type ← readContent context (emptyType context name) element.children
          return { schema with complexTypes := schema.complexTypes ++ [type] }
  | .simpleType =>
      match present? (element.attribute? "name") with
      | none => unnamed "simpleType"
      | some name =>
          let type := simpleTypeOf context name element.children
          return { schema with simpleTypes := schema.simpleTypes ++ [type] }
  | .element => do
      let global ← readGlobalElement context element
      return { schema with elements := schema.elements ++ [global] }
  | _ => return schema

def directiveOf (kind : DirectiveKind) (element : Element) : Directive :=
  ⟨kind, present? (element.attribute? "schemaLocation"), present? (element.attribute? "namespace")⟩

/-- A schema with what a child of the root element adds; a redefinition also declares. -/
def readTopLevel (schema : Schema) (element : Element) : Run Schema :=
  match Construct.ofName element.name with
  | .directive kind =>
      let schema := { schema with directives := schema.directives ++ [directiveOf kind element] }
      match kind with
      | .redefining => element.children.foldlM (readDeclaration context) schema
      | .importing | .including => return schema
  | _ => readDeclaration context schema element

def ofDocument (path : FilePath) (document : Document) : Run Schema :=
  if Construct.ofName document.root.name = .schema then
    let context : Context := {
      source := path
      targetNamespace := present? (document.root.attribute? "targetNamespace")
      namespaces := firstBindings document.bindings }
    document.root.children.foldlM (readTopLevel context) {
      source := context.source
      targetNamespace := context.targetNamespace
      namespaces := context.namespaces
      complexTypes := []
      simpleTypes := []
      elements := []
      directives := [] }
  else Run.fail (.schema path (.notSchema document.root.name.bracketed))

def ofBytes (origin : Origin) (path : FilePath) (bytes : List UInt8) : Run Schema :=
  match Document.ofBytes origin bytes with
  | .ok document => ofDocument path document
  | .error .notWellFormed => Run.fail (.schema path .notWellFormed)
  | .error (.charset label fault) => Run.fail (.charset label fault)

/-- The schema in a text that needs no decoding. -/
def ofText (path : FilePath) (text : String) : Run Schema :=
  ofBytes .text path (Text.Utf8.encode text.toList)

def ofFile (tree : FileTree) (path : FilePath) : Run Schema :=
  match tree.read path with
  | .ok bytes => ofBytes .file path bytes
  | .error fault => Run.fail (.file fault)

end SchemaBinding.Schema
