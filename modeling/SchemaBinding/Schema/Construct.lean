import SchemaBinding.Schema.Definition
import SchemaBinding.Xml.Element

/-!
# Constructs of the schema language

The elements of a schema document that declare something or hold declarations.
Everything else, annotations among it, is passed over.
-/

namespace SchemaBinding.Schema

open Xml

/-- What an element of a schema document stands for. -/
inductive Construct where
  | schema
  | directive (kind : DirectiveKind)
  | complexType
  | simpleType
  | element
  | attributeUse
  /-- A sequence, a choice or an unordered group: they are not told apart. -/
  | group
  | complexContent
  | simpleContent
  | extension
  | restriction
  | enumeration
  | list
  | union
  | other
deriving DecidableEq, Repr

namespace Construct

def ofWord : String → Construct
  | "schema" => .schema
  | "import" => .directive .importing
  | "include" => .directive .including
  | "redefine" => .directive .redefining
  | "complexType" => .complexType
  | "simpleType" => .simpleType
  | "element" => .element
  | "attribute" => .attributeUse
  | "sequence" | "choice" | "all" => .group
  | "complexContent" => .complexContent
  | "simpleContent" => .simpleContent
  | "extension" => .extension
  | "restriction" => .restriction
  | "enumeration" => .enumeration
  | "list" => .list
  | "union" => .union
  | _ => .other

/-- The construct that an element name stands for; only names of the schema language do. -/
def ofName (name : ExpandedName) : Construct :=
  if name.uri = some xsdNamespace then ofWord name.localPart else .other

theorem ofName_foreign {name : ExpandedName} (foreign : name.uri ≠ some xsdNamespace) :
    ofName name = .other := by
  simp [ofName, foreign]
end Construct

end SchemaBinding.Schema
