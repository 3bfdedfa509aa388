import SchemaBinding.Xml.Content

/-!
# Elements in namespaces

A label in front of a name stands for the namespace that the nearest enclosing
declaration binds it to.  Names without a label are in the default namespace
when they name elements and in none when they name attributes.
-/

namespace SchemaBinding.Xml

/-- A name together with the namespace it belongs to. -/
structure ExpandedName where
  uri : Option String
  localPart : String
deriving DecidableEq, Repr, Inhabited

namespace ExpandedName

/-- The name with its namespace in braces in front of it. -/
def bracketed (name : ExpandedName) : String :=
  match name.uri with
  | none => name.localPart
  | some uri => "\x7b" ++ uri ++ "\x7d" ++ name.localPart

end ExpandedName

structure Element where
  name : ExpandedName
  attributes : List (ExpandedName × String)
  children : List Element
deriving Repr, Inhabited

namespace Element

/-- The value of an attribute without a namespace. -/
def attribute? (element : Element) (name : String) : Option String :=
  (element.attributes.find? (fun entry => entry.1 == ⟨none, name⟩)).map Prod.snd

end Element

/-- The namespace of the `xml` label, bound in every document. -/
def xmlNamespace : String := "http://www.w3.org/XML/1998/namespace"

/-- The namespace of namespace declarations, to which no label may be bound. -/
def xmlnsNamespace : String := "http://www.w3.org/2000/xmlns/"

/-- A binding of a label to a namespace; the empty label stands for the default. -/
abbrev NamespaceBinding := String × String

/-- The bindings in force, the innermost first. -/
abbrev Scope := List NamespaceBinding

namespace Scope

def lookup? (scope : Scope) (label : String) : Option String :=
  (List.find? (fun binding => binding.1 == label) scope).map Prod.snd

def initial : Scope := [("xml", xmlNamespace)]

end Scope

namespace NamespaceBinding

def isAllowed (binding : NamespaceBinding) : Bool :=
  let (label, uri) := binding
  (label.isEmpty || !uri.isEmpty) && label != "xmlns" && ((label == "xml") == (uri == xmlNamespace)) &&
    uri != xmlnsNamespace && !uri.toList.contains '\x7d'

def ofAttribute? (attr : Name × String) : Option NamespaceBinding :=
  match attr.1 with
  | ⟨none, "xmlns"⟩ => some ("", attr.2)
  | ⟨some "xmlns", label⟩ => some (label, attr.2)
  | _ => none

end NamespaceBinding

namespace Node

def ownBindings (node : Node) : List NamespaceBinding :=
  node.attributes.filterMap NamespaceBinding.ofAttribute?

mutual

/-- The namespace declarations of a tree, in document order. -/
def bindings : Node → List NamespaceBinding
  | ⟨name, attributes, children⟩ =>
      ownBindings ⟨name, attributes, []⟩ ++ bindingsOfAll children

def bindingsOfAll : List Node → List NamespaceBinding
  | [] => []
  | node :: rest => bindings node ++ bindingsOfAll rest

end

end Node

namespace Name

def expandElement? (scope : Scope) (name : Name) : Option ExpandedName :=
  match name.qualifier with
  | none =>
      match Scope.lookup? scope "" with
      | none | some "" => some ⟨none, name.localPart⟩
      | some uri => some ⟨some uri, name.localPart⟩
  | some label => (Scope.lookup? scope label).map (fun uri => ⟨some uri, name.localPart⟩)

def expandAttribute? (scope : Scope) (name : Name) : Option ExpandedName :=
  match name.qualifier with
  | none => some ⟨none, name.localPart⟩
  | some label => (Scope.lookup? scope label).map (fun uri => ⟨some uri, name.localPart⟩)

end Name

namespace Node

/-- The attributes that are no namespace declarations, with expanded names. -/
def expandAttributes? (scope : Scope) (attributes : List (Name × String)) :
    Option (List (ExpandedName × String)) := do
  let plain := attributes.filter (fun attr => (NamespaceBinding.ofAttribute? attr).isNone)
  let expanded ← plain.mapM (fun (name, value) => do
    return (← name.expandAttribute? scope, value))
  if (expanded.map Prod.fst).Nodup then return expanded else none

mutual

/-- The tree with expanded names, if every label is bound where it is used. -/
def expand? (scope : Scope) : Node → Option Element
  | ⟨name, attributes, children⟩ => do
      let own := ownBindings ⟨name, attributes, []⟩
      if !own.all NamespaceBinding.isAllowed then none
      let inner := own.reverse ++ scope
      let expanded ← name.expandElement? inner
      let values ← expandAttributes? inner attributes
      let below ← expandAll? inner children
      return ⟨expanded, values, below⟩

def expandAll? (scope : Scope) : List Node → Option (List Element)
  | [] => some []
  | node :: rest => do
      let first ← expand? scope node
      let others ← expandAll? scope rest
      return first :: others

end

end Node

end SchemaBinding.Xml
