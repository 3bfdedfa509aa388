import SchemaBinding.Model.TypeRef
import SchemaBinding.Text.Identifier

/-!
# Models

The enumerations and classes that represent the types of a set of schemas, with
all that is needed to read and write documents: each field knows the name and
the namespace of what it stands for.  The names of types, fields and members are
identifiers made of the names in the schemas.
-/

namespace SchemaBinding

/-- What a field stands for in a document. -/
inductive Binding where
  | element (name : String) (uri : Option String)
  | attributeUse (name : String)
  | text
  /-- The field does not occur in documents. -/
  | ignored
deriving DecidableEq, Repr, Inhabited

/-- How a field relates to the field that tells whether its value was given. -/
inductive FieldRole where
  | plain
  /-- The named field tells whether this one was given. -/
  | flagged (flag : String)
  /-- The field tells whether the named one was given. -/
  | flagOf (field : String) (initially : Bool)
deriving DecidableEq, Repr, Inhabited

structure Field where
  name : String
  /-- The name in the schema, which is empty when the schema gives none. -/
  originalName : String
  type : TypeRef
  binding : Binding
  isRequired : Bool
  role : FieldRole
deriving DecidableEq, Repr, Inhabited

structure Member where
  name : String
  literal : String
deriving DecidableEq, Repr, Inhabited

structure EnumModel where
  name : String
  originalName : String
  uri : Option String
  members : List Member
deriving DecidableEq, Repr, Inhabited

/-- The global element that a class is the root of documents through. -/
structure RootElement where
  name : String
  uri : Option String
deriving DecidableEq, Repr, Inhabited

structure ClassModel where
  name : String
  originalName : String
  uri : Option String
  base : Option String
  fields : List Field
  root : Option RootElement
  /-- The class represents a type that was written inside an element. -/
  isSynthesized : Bool
  /-- The type declares no content. -/
  isEmpty : Bool
deriving DecidableEq, Repr, Inhabited

inductive Artifact where
  | enumeration (model : EnumModel)
  | structural (model : ClassModel)
deriving DecidableEq, Repr, Inhabited

namespace Artifact

def name : Artifact → String
  | .enumeration model => model.name
  | .structural model => model.name

end Artifact

/-- The enumerations and classes for a set of schemas. -/
structure Model where
  enums : List EnumModel
  classes : List ClassModel
  /-- The name that each type of the schemas is represented under. -/
  names : List (String × String)
deriving DecidableEq, Repr, Inhabited

namespace Model

def empty : Model := ⟨[], [], []⟩

/-- All artifacts, the enumerations first. -/
def artifacts (model : Model) : List Artifact :=
  model.enums.map .enumeration ++ model.classes.map .structural

/-- The pairs with a key assigned, in its old place if it has one. -/
def assign (pairs : List (String × String)) (key value : String) : List (String × String) :=
  if pairs.any (·.1 == key) then
    pairs.map (fun pair => if pair.1 = key then (key, value) else pair)
  else pairs ++ [(key, value)]

def rename (model : Model) (schemaName artifactName : String) : Model :=
  { model with names := assign model.names schemaName artifactName }

end Model

/-! ## Names of artifacts -/

namespace Naming

open Text

def typeName (name : String) : String :=
  Identifier.sanitize name

/-- The name given to a type that is written inside a particle of another type. -/
def synthesizedName (owner particle : String) : String :=
  owner ++ "_" ++ particle ++ "Type"

def fieldName (particle : String) (used : List String) : String :=
  Identifier.unique (Identifier.sanitize particle) used

/-- The particle name of a field that holds the text of an element. -/
def textField : String := "Value"

def flagName (field : String) (used : List String) : String :=
  Identifier.unique (field ++ "Specified") used

def memberName (enumeration literal : String) (used : List String) : String :=
  Identifier.unique (enumeration ++ "_" ++ Identifier.sanitize literal) used

end Naming

end SchemaBinding
