import SchemaBinding.FilePath

/-!
# Schema declarations

The declarations of schema documents as plain values, before any of them is
merged, resolved or named.  A complex type holds elements, each of which may
have a complex type of its own written inside it.  A reference is a local name with
the namespace that its label stands for.
-/

namespace SchemaBinding

def xsdNamespace : String := "http://www.w3.org/2001/XMLSchema"

structure QName where
  uri : Option String
  localName : String
  /-- A label was written that the document never binds. -/
  unbound : Bool
deriving DecidableEq, Repr, Inhabited

namespace QName

/-- The written form: a namespace that is not empty stands in braces in front of the name. -/
def toString (name : QName) : String :=
  match name.uri with
  | none | some "" => name.localName
  | some uri => "\x7b" ++ uri ++ "\x7d" ++ name.localName

def isXsd (name : QName) : Bool :=
  name.uri == some xsdNamespace

end QName

inductive Variety where
  | restriction
  | list
  | union
deriving DecidableEq, Repr, Inhabited

/-- A simple type, without a name when it is written inside a particle. -/
structure SimpleType where
  name : String := ""
  variety : Variety := .restriction
  /-- The base of a restriction. -/
  base : Option QName := none
  /-- The enumerated values in the order of their declaration. -/
  enumerations : List String := []
  targetNamespace : Option String := none
  source : Option FilePath := none
deriving DecidableEq, Repr, Inhabited

structure AttributeUse where
  name : String := ""
  typeName : Option QName := none
  simpleType : Option SimpleType := none
  ref : Option QName := none
  required : Bool := false
deriving DecidableEq, Repr, Inhabited

namespace AttributeUse

def isOptional (use : AttributeUse) : Bool :=
  !use.required

end AttributeUse

/-- An element of a complex type; `τ` is the kind of type that may be written inside it. -/
structure Particle (τ : Type) where
  name : String := ""
  typeName : Option QName := none
  simpleType : Option SimpleType := none
  complexType : Option τ := none
  /-- The global element that the particle refers to. -/
  ref : Option QName := none
  minOccurs : Int := 1
  /-- The greatest number of occurrences as it is written. -/
  maxOccurs : String := "1"
  /-- The namespace of the document that declares the particle. -/
  targetNamespace : Option String := none
deriving Repr, Inhabited

/-- A complex type, without a name when it is written inside a particle. -/
structure ComplexType where
  name : String := ""
  elements : List (Particle ComplexType) := []
  attributes : List AttributeUse := []
  /-- The type that is extended. -/
  base : Option QName := none
  /-- The type of the text, for a type with simple content. -/
  text : Option QName := none
  targetNamespace : Option String := none
  source : Option FilePath := none
deriving Repr, Inhabited

abbrev ElementParticle := Particle ComplexType

namespace Particle

def isOptional {τ : Type} (particle : Particle τ) : Bool :=
  particle.minOccurs == 0

/-- Only the word for no limit makes a particle repeatable; a number does not. -/
def isRepeatable {τ : Type} (particle : Particle τ) : Bool :=
  particle.maxOccurs == "unbounded"

end Particle

structure GlobalElement where
  name : String := ""
  typeName : Option QName := none
  complexType : Option ComplexType := none
  targetNamespace : Option String := none
  source : Option FilePath := none
deriving Repr, Inhabited

inductive DirectiveKind where
  | importing
  | including
  | redefining
deriving DecidableEq, Repr, Inhabited

namespace DirectiveKind

def word : DirectiveKind → String
  | .importing => "import"
  | .including => "include"
  | .redefining => "redefine"

end DirectiveKind

structure Directive where
  kind : DirectiveKind
  location : Option String
  uri : Option String
deriving DecidableEq, Repr, Inhabited

structure Schema where
  source : FilePath
  targetNamespace : Option String
  /-- The namespace bound to each label, in the order of the declarations. -/
  namespaces : List (String × String)
  complexTypes : List ComplexType
  simpleTypes : List SimpleType
  elements : List GlobalElement
  directives : List Directive
deriving Repr, Inhabited

end SchemaBinding
