import SchemaBinding.Proofs.Scopes
import SchemaBinding.Proofs.SpelledSchemas

/-!
# Annotations

A document without its annotations declares what the document declares.  What
annotations have a say in is the resolution of references: a label stands for
its first declaration in the whole document, and that one may be inside an
annotation.
-/

namespace SchemaBinding

open Xml

namespace Xml.Node

def isAnnotationElement (scope : Scope) (node : Node) : Bool :=
  node.name.expandElement? (node.ownBindings.reverse ++ scope) = some Schema.annotationName

mutual

/-- A tree without the annotations below its root, at any depth. -/
def withoutAnnotations (scope : Scope) : Node → Node
  | ⟨name, attributes, children⟩ =>
      ⟨name, attributes, withoutAnnotationsAll
        ((ownBindings ⟨name, attributes, []⟩).reverse ++ scope) children⟩

def withoutAnnotationsAll (scope : Scope) : List Node → List Node
  | [] => []
  | node :: rest =>
      if node.isAnnotationElement scope then withoutAnnotationsAll scope rest
      else node.withoutAnnotations scope :: withoutAnnotationsAll scope rest

end

variable {shown : Element → Prop}

mutual

/-- What remains of a tree has its names expanded as before. -/
theorem exists_expand?_withoutAnnotations {scope : Scope} {element : Element} (node : Node)
    (expanded : node.expand? scope = some element)
    (shows : ∀ inner other, (node.withoutAnnotations scope).Holds scope inner other →
      shown other) :
    ∃ other, (node.withoutAnnotations scope).expand? scope = some other ∧
      Schema.TrimmedTo shown element other := by
  obtain ⟨name, attributes, children⟩ := node
  obtain ⟨allowed, word, values, below⟩ := expand?_eq_some_iff.1 expanded
  rw [withoutAnnotations] at shows ⊢
  obtain ⟨others, kept, trimmed⟩ := exists_expandAll?_withoutAnnotations children below
    fun child member inner other holds => shows inner other (.inside member holds)
  have again : expand? scope ⟨name, attributes, withoutAnnotationsAll
      ((ownBindings ⟨name, attributes, []⟩).reverse ++ scope) children⟩ =
        some ⟨element.name, element.attributes, others⟩ :=
    expand?_eq_some_iff.2 ⟨allowed, word, values, kept⟩
  exact ⟨_, again, rfl, rfl, trimmed, shows _ _ (.here again)⟩

theorem exists_expandAll?_withoutAnnotations {scope : Scope} {elements : List Element}
    (nodes : List Node) (expanded : expandAll? scope nodes = some elements)
    (shows : ∀ node ∈ withoutAnnotationsAll scope nodes, ∀ inner other,
      node.Holds scope inner other → shown other) :
    ∃ others, expandAll? scope (withoutAnnotationsAll scope nodes) = some others ∧
      Schema.Trimmed shown elements others := by
  match nodes with
  | [] =>
      rw [expandAll?] at expanded
      cases expanded
      exact ⟨[], by rw [withoutAnnotationsAll, expandAll?], .nil⟩
  | node :: rest =>
      obtain ⟨element, first, elements, later, rfl⟩ := expandAll?_cons_eq_some_iff.1 expanded
      rw [withoutAnnotationsAll] at shows ⊢
      split
      · next removed =>
          rw [if_pos removed] at shows
          obtain ⟨others, kept, after⟩ := exists_expandAll?_withoutAnnotations rest later shows
          have word := (expand?_eq_some_iff.1 first).2.1
          have named : some element.name = some Schema.annotationName := by
            rw [← word]
            simpa [isAnnotationElement] using removed
          obtain ⟨name, attributes, children⟩ := element
          obtain rfl : name = Schema.annotationName := Option.some.inj named
          exact ⟨others, kept, .drop after⟩
      · next remains =>
          rw [if_neg remains] at shows
          obtain ⟨others, kept, after⟩ := exists_expandAll?_withoutAnnotations rest later
            fun node member => shows node (List.mem_cons_of_mem _ member)
          obtain ⟨other, alone, trimmed⟩ := exists_expand?_withoutAnnotations node first
            (shows _ List.mem_cons_self)
          refine ⟨other :: others,
            expandAll?_cons_eq_some_iff.2 ⟨other, alone, others, kept, rfl⟩, ?_⟩
          obtain ⟨name, attributes, children⟩ := element
          obtain ⟨otherName, otherAttributes, otherChildren⟩ := other
          obtain ⟨rfl, rfl, inside, isShown⟩ := trimmed
          exact .keep isShown inside after

end

end Xml.Node

namespace Schema

/-- Schemas that declare the same; their bindings of labels may differ. -/
def SameDeclarations (schema other : Schema) : Prop :=
  other = { schema with namespaces := other.namespaces }

/--
Each label that the second declarations know has its first declaration among the
first ones too, and both have the same default namespace.
-/
def AgreeOnLabels (declared otherDeclared : List NamespaceBinding) : Prop :=
  ∀ label, label = "" ∨ (Scope.lookup? otherDeclared label).isSome = true →
    Scope.lookup? declared label = Scope.lookup? otherDeclared label

/--
No reference in a tree is written with a label that the first declarations know and
the second ones do not.
-/
def UsesNoMoreLabels (node : Node) (declared otherDeclared : List NamespaceBinding) : Prop :=
  ∀ element, node.Shows element → element.name.uri = some xsdNamespace →
    ∀ key ∈ referenceKeys, ∀ value, present? (element.attribute? key) = some value →
    ∀ label, (divided (Text.strip value.toList)).1 = some label →
      (Scope.lookup? declared label).isSome = true →
      (Scope.lookup? otherDeclared label).isSome = true

theorem usesNoMoreLabels_iff {node : Node} {declared otherDeclared : List NamespaceBinding} :
    UsesNoMoreLabels node declared otherDeclared ↔
      ∀ place ∈ node.elementsIn Scope.initial, place.2.name.uri = some xsdNamespace →
        ∀ key ∈ referenceKeys, ∀ value ∈ present? (place.2.attribute? key),
        ∀ label ∈ (divided (Text.strip value.toList)).1,
          (Scope.lookup? declared label).isSome = true →
          (Scope.lookup? otherDeclared label).isSome = true := by
  constructor
  · rintro uses ⟨scope, element⟩ listed
    exact uses element ⟨scope, Node.mem_elementsIn_iff.1 listed⟩
  · rintro uses element ⟨scope, holds⟩
    exact uses (scope, element) (Node.mem_elementsIn_iff.2 holds)

instance (node : Node) (declared otherDeclared : List NamespaceBinding) :
    Decidable (UsesNoMoreLabels node declared otherDeclared) :=
  decidable_of_iff _ usesNoMoreLabels_iff.symm

/-- All names in a schema are those that the attributes of a document spell in its bindings. -/
def SpelledIn (node : Node) (schema : Schema) : Prop :=
  schema.IsSpelled node.Shows fun element key name => name = nameAt? node.bindings element key

theorem spelledIn_of_ofDocument {node : Node} {root : Element} {path : FilePath} {schema : Schema}
    (expanded : node.expand? Scope.initial = some root)
    (read : (ofDocument path ⟨root, node.bindings⟩).outcome = .ok schema) :
    schema.SpelledIn node := by
  have spells : (contextOf path ⟨root, node.bindings⟩).Reads node.Shows
      (fun element key name => name = nameAt? node.bindings element key) :=
    ⟨Node.Shows.child, fun {element} _ _ key _ =>
      reference?_contextOf path ⟨root, node.bindings⟩ element key⟩
  exact isSpelled_of_ofDocument spells ⟨_, .here expanded⟩ read

/-- A text is resolved in one way where declarations agree on its label. -/
theorem nameIn_eq {declared otherDeclared : List NamespaceBinding} {text : List Char}
    (agree : AgreeOnLabels declared otherDeclared)
    (more : ∀ label, (divided text).1 = some label →
      (Scope.lookup? declared label).isSome = true →
      (Scope.lookup? otherDeclared label).isSome = true) :
    nameIn declared text = nameIn otherDeclared text := by
  unfold nameIn
  cases spelled : (divided text).1 with
  | none => rw [Option.getD_none, agree "" (.inl rfl)]
  | some label =>
      rw [Option.getD_some]
      cases known : Scope.lookup? otherDeclared label with
      | some uri => rw [agree label (.inr (by rw [known]; rfl)), known]
      | none =>
          have unknown : Scope.lookup? declared label = none := by
            rw [← Option.not_isSome_iff_eq_none]
            intro given
            have found := more label spelled given
            rw [known] at found
            cases found
          rw [unknown]

theorem eq_of_resolvedAlike {node : Node} {declared otherDeclared : List NamespaceBinding}
    (agree : AgreeOnLabels declared otherDeclared)
    (uses : UsesNoMoreLabels node declared otherDeclared) {name other : QName}
    (alike : ResolvedAlike node.Shows declared otherDeclared name other) : name = other := by
  obtain ⟨element, key, isShown, known, refers, spelled, otherSpelled⟩ := alike
  obtain ⟨value, given, rfl⟩ := Option.map_eq_some_iff.1 spelled
  obtain ⟨_, same, rfl⟩ := Option.map_eq_some_iff.1 otherSpelled
  obtain rfl := Option.some.inj (given.symm.trans same)
  have ofLanguage : element.name.uri = some xsdNamespace := by
    by_contra foreign
    exact known (Construct.ofName_foreign foreign)
  exact nameIn_eq agree (uses element isShown ofLanguage key refers value given)

theorem sameDeclarations_of_alike {node : Node} {declared otherDeclared : List NamespaceBinding}
    {schema other : Schema}
    (alike : schema.Alike (.ofRelation (ResolvedAlike node.Shows declared otherDeclared)) other)
    (agree : AgreeOnLabels declared otherDeclared)
    (uses : UsesNoMoreLabels node declared otherDeclared) : schema.SameDeclarations other := by
  have each : ∀ items others, Follows (ResolvedAlike node.Shows declared otherDeclared) Eq items
      others := fun _ _ _ _ _ _ same => eq_of_resolvedAlike agree uses same
  have same : schema.Alike .equality other := alike.imp (each _ _) (each _ _) (each _ _)
  exact same.eq

def referencesOf (run : Run Schema) : List QName :=
  match run.outcome with
  | .ok schema => schema.references
  | .error _ => []

theorem referencesOf_eq {run other : Run Schema} (same : Run.Alike SameDeclarations run other) :
    referencesOf run = referencesOf other := by
  cases same with
  | returns same =>
      change Schema.references _ = Schema.references _
      rw [show _ = _ from same]
      rfl
  | fails _ _ => rfl

/-- A schema with a note in front of two elements, one of which uses an unknown label. -/
def notedText (note : String) : String :=
  "<xs:schema xmlns:xs='http://www.w3.org/2001/XMLSchema'>" ++ note ++
    "<xs:element name='lamp' type='Lamp'/><xs:element name='spare' type='q:Lamp'/></xs:schema>"

def notedNode (notes : List Node) : Node :=
  ⟨⟨some "xs", "schema"⟩, [(⟨some "xmlns", "xs"⟩, xsdNamespace)], notes ++ [
    ⟨⟨some "xs", "element"⟩, [(⟨none, "name"⟩, "lamp"), (⟨none, "type"⟩, "Lamp")], []⟩,
    ⟨⟨some "xs", "element"⟩, [(⟨none, "name"⟩, "spare"), (⟨none, "type"⟩, "q:Lamp")], []⟩]⟩

/-- A note that declares a namespace for its own use. -/
def noteText (declaration : String) : String :=
  "<xs:annotation><xs:documentation " ++ declaration ++ "/></xs:annotation>"

def noteNode (declaration : Name × String) : Node :=
  ⟨⟨some "xs", "annotation"⟩, [], [⟨⟨some "xs", "documentation"⟩, [declaration], []⟩]⟩

theorem nodeIn?_notedText :
    Document.nodeIn? .text (Text.Utf8.encode (notedText "").toList) = some (notedNode []) := by
  unfold notedText
  simp only [String.toList_append, String.reduceToList]
  decide +kernel

theorem withoutAnnotations_notedNode (declaration : Name × String) :
    (notedNode [noteNode declaration]).withoutAnnotations Scope.initial = notedNode [] :=
  rfl

/-- The names that the schema of a text refers to are told by its tree. -/
theorem referencesOf_ofText {text : String} {node : Node} {references : List QName}
    (spelled : Document.nodeIn? .text (Text.Utf8.encode text.toList) = some node)
    (told : (Document.ofNode? node).map (fun document =>
      referencesOf (ofDocument (.ofString "lamp.xsd") document)) = some references) :
    referencesOf (ofText (.ofString "lamp.xsd") text) = references := by
  obtain ⟨document, read, rfl⟩ := Option.map_eq_some_iff.1 told
  unfold ofText
  rw [ofBytes_of_nodeIn? spelled read]

end Schema

end SchemaBinding
