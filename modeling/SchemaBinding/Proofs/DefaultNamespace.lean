import SchemaBinding.Proofs.AlikeModels
import SchemaBinding.Proofs.Spelling

/-!
# Empty default namespaces

A document may say that it has no default namespace.  A name without a label is
then in the empty namespace, where it was in none before.  That makes a difference
for names of builtin types and for references to elements that nothing declares,
and for nothing else.
-/

namespace SchemaBinding

open Xml

/-- What succeeds for each item with one function does so with a function that gives the same. -/
theorem mapM_eq_some_of_imp {α β : Type} {f g : α → Option β}
    (more : ∀ item value, f item = some value → g item = some value) {items : List α}
    {values : List β} (holds : items.mapM f = some values) : items.mapM g = some values := by
  induction items generalizing values with
  | nil => exact holds
  | cons item rest ih =>
      rw [List.mapM_cons] at holds ⊢
      obtain ⟨value, first, holds⟩ := Option.bind_eq_some_iff.1 holds
      obtain ⟨others, later, same⟩ := Option.bind_eq_some_iff.1 holds
      rw [more item value first, ih later]
      exact same

namespace Xml

namespace Scope

theorem lookup?_append (own scope : Scope) (label : String) :
    lookup? (own ++ scope) label = (lookup? own label).or (lookup? scope label) := by
  unfold lookup?
  rw [List.find?_append]
  cases own.find? (·.1 == label) <;> rfl

theorem lookup?_eq_none {label : String} {scope : Scope}
    (fresh : ∀ binding ∈ scope, binding.1 ≠ label) : lookup? scope label = none := by
  unfold lookup?
  rw [List.find?_eq_none.2 fun binding member => by simpa using fresh binding member]
  rfl

/-- A binding of another label in between changes nothing. -/
theorem lookup?_insert_of_ne {label other uri : String} (front back : Scope)
    (different : other ≠ label) :
    lookup? (front ++ (other, uri) :: back) label = lookup? (front ++ back) label := by
  rw [lookup?_append, lookup?_append]
  unfold lookup?
  rw [List.find?_cons_of_neg (by simpa using different)]

theorem lookup?_insert {label uri : String} {front : Scope} (back : Scope)
    (fresh : ∀ binding ∈ front, binding.1 ≠ label) :
    lookup? (front ++ (label, uri) :: back) label = some uri := by
  rw [lookup?_append, lookup?_eq_none fresh, Option.none_or, lookup?,
    List.find?_cons_of_pos (by simp)]
  rfl

/-- No default namespace is in force, and in the other scope at most the empty one is. -/
structure EmptiedTo (scope other : Scope) : Prop where
  default_eq : lookup? scope "" = none
  otherDefault : lookup? other "" = none ∨ lookup? other "" = some ""
  label_eq : ∀ label, label ≠ "" → lookup? scope label = lookup? other label

namespace EmptiedTo

variable {scope other : Scope} (emptied : scope.EmptiedTo other)
include emptied

theorem append {own : Scope} (bare : ∀ binding ∈ own, binding.1 ≠ "") :
    EmptiedTo (own ++ scope) (own ++ other) := by
  have default : ∀ scope, lookup? (own ++ scope) "" = lookup? scope "" := by
    intro scope
    rw [lookup?_append, lookup?_eq_none bare, Option.none_or]
  refine ⟨?_, ?_, fun label named => ?_⟩
  · rw [default, emptied.default_eq]
  · rw [default]
    exact emptied.otherDefault
  · rw [lookup?_append, lookup?_append, emptied.label_eq label named]

theorem lookup?_eq_some {label uri : String} (found : lookup? scope label = some uri) :
    lookup? other label = some uri := by
  rw [← emptied.label_eq label, found]
  rintro rfl
  rw [emptied.default_eq] at found
  cases found

theorem expandElement?_eq_some {name : Name} {expanded : ExpandedName}
    (holds : name.expandElement? scope = some expanded) :
    name.expandElement? other = some expanded := by
  obtain ⟨_ | label, localPart⟩ := name
  · simp only [Name.expandElement?, emptied.default_eq] at holds ⊢
    rcases emptied.otherDefault with absent | empty
    · rw [absent]
      exact holds
    · rw [empty]
      exact holds
  · obtain ⟨uri, found, rfl⟩ := Option.map_eq_some_iff.1 holds
    simp only [Name.expandElement?, emptied.lookup?_eq_some found, Option.map_some]

theorem expandAttribute?_eq_some {name : Name} {expanded : ExpandedName}
    (holds : name.expandAttribute? scope = some expanded) :
    name.expandAttribute? other = some expanded := by
  obtain ⟨_ | label, localPart⟩ := name
  · exact holds
  · obtain ⟨uri, found, rfl⟩ := Option.map_eq_some_iff.1 holds
    simp only [Name.expandAttribute?, emptied.lookup?_eq_some found, Option.map_some]

theorem expandAttributes?_eq_some {attributes : List (Name × String)}
    {expanded : List (ExpandedName × String)}
    (holds : Node.expandAttributes? scope attributes = some expanded) :
    Node.expandAttributes? other attributes = some expanded := by
  unfold Node.expandAttributes? at holds ⊢
  obtain ⟨kept, mapped, distinct⟩ := Option.bind_eq_some_iff.1 holds
  refine Option.bind_eq_some_iff.2 ⟨kept, mapM_eq_some_of_imp ?_ mapped, distinct⟩
  rintro ⟨name, value⟩ entry given
  obtain ⟨expanded, named, same⟩ := Option.bind_eq_some_iff.1 given
  exact Option.bind_eq_some_iff.2 ⟨expanded, emptied.expandAttribute?_eq_some named, same⟩

end EmptiedTo

end Scope

namespace Node

def HasNoDefault (node : Node) : Prop :=
  ∀ binding ∈ node.bindings, binding.1 ≠ ""

def HaveNoDefault (nodes : List Node) : Prop :=
  ∀ binding ∈ bindingsOfAll nodes, binding.1 ≠ ""

theorem bindings_eq (node : Node) :
    node.bindings = node.ownBindings ++ bindingsOfAll node.children := by
  obtain ⟨name, attributes, children⟩ := node
  rw [bindings]
  rfl

theorem HasNoDefault.own {node : Node} (bare : node.HasNoDefault) :
    ∀ binding ∈ node.ownBindings, binding.1 ≠ "" := by
  intro binding member
  refine bare binding ?_
  rw [bindings_eq]
  exact List.mem_append_left _ member

theorem HasNoDefault.children {node : Node} (bare : node.HasNoDefault) :
    HaveNoDefault node.children := by
  intro binding member
  refine bare binding ?_
  rw [bindings_eq]
  exact List.mem_append_right _ member

mutual

/-- The names of a tree without default namespaces are expanded as before. -/
theorem expand?_eq_some_of_emptiedTo (node : Node) (bare : node.HasNoDefault)
    {scope other : Scope} (emptied : scope.EmptiedTo other) {element : Element}
    (expanded : node.expand? scope = some element) : node.expand? other = some element := by
  obtain ⟨allowed, word, values, below⟩ := expand?_eq_some_iff.1 expanded
  have inner : Scope.EmptiedTo (node.ownBindings.reverse ++ scope)
      (node.ownBindings.reverse ++ other) :=
    emptied.append fun binding member => bare.own binding (List.mem_reverse.1 member)
  refine expand?_eq_some_iff.2 ⟨allowed, inner.expandElement?_eq_some word,
    inner.expandAttributes?_eq_some values, ?_⟩
  obtain ⟨name, attributes, children⟩ := node
  exact expandAll?_eq_some_of_emptiedTo children bare.children inner below

theorem expandAll?_eq_some_of_emptiedTo (nodes : List Node) (bare : HaveNoDefault nodes)
    {scope other : Scope} (emptied : scope.EmptiedTo other) {elements : List Element}
    (expanded : expandAll? scope nodes = some elements) :
    expandAll? other nodes = some elements := by
  match nodes with
  | [] => exact expanded
  | node :: rest =>
      obtain ⟨element, first, others, later, rfl⟩ := expandAll?_cons_eq_some_iff.1 expanded
      have bindings : bindingsOfAll (node :: rest) = node.bindings ++ bindingsOfAll rest := by
        rw [bindingsOfAll]
      refine expandAll?_cons_eq_some_iff.2 ⟨element, ?_, others, ?_, rfl⟩
      · refine expand?_eq_some_of_emptiedTo node (fun binding member => ?_) emptied first
        exact bare binding (bindings ▸ List.mem_append_left _ member)
      · refine expandAll?_eq_some_of_emptiedTo rest (fun binding member => ?_) emptied later
        exact bare binding (bindings ▸ List.mem_append_right _ member)

end

/-- A tree whose root says, among its attributes, that it has no default namespace. -/
def withEmptyDefault (node : Node) (position : Nat) : Node :=
  { node with
    attributes := node.attributes.take position ++
      (⟨none, "xmlns"⟩, "") :: node.attributes.drop position }

variable (node : Node) (position : Nat)

/-- The declaration is one more among those of the root. -/
theorem exists_ownBindings_withEmptyDefault :
    ∃ front back, node.ownBindings = front ++ back ∧
      (node.withEmptyDefault position).ownBindings = front ++ ("", "") :: back := by
  refine ⟨(node.attributes.take position).filterMap NamespaceBinding.ofAttribute?,
    (node.attributes.drop position).filterMap NamespaceBinding.ofAttribute?, ?_, ?_⟩
  · rw [← List.filterMap_append, List.take_append_drop]
    rfl
  · unfold ownBindings withEmptyDefault
    rw [List.filterMap_append]
    rfl

theorem expandAttributes?_withEmptyDefault (scope : Scope) :
    expandAttributes? scope (node.withEmptyDefault position).attributes =
      expandAttributes? scope node.attributes := by
  have plain : (node.withEmptyDefault position).attributes.filter
      (fun attr => (NamespaceBinding.ofAttribute? attr).isNone) =
        node.attributes.filter (fun attr => (NamespaceBinding.ofAttribute? attr).isNone) := by
    unfold withEmptyDefault
    rw [List.filter_append, List.filter_cons_of_neg (by decide), ← List.filter_append,
      List.take_append_drop]
  unfold expandAttributes?
  rw [plain]

/-- Bindings that differ in an empty default namespace only. -/
theorem emptiedTo_insert {front back : Scope}
    (bare : ∀ binding ∈ front ++ back, binding.1 ≠ "") :
    Scope.EmptiedTo (front ++ back) (front ++ ("", "") :: back) where
  default_eq := Scope.lookup?_eq_none bare
  otherDefault := .inr (Scope.lookup?_insert back
    fun binding member => bare binding (List.mem_append_left _ member))
  label_eq _ named := (Scope.lookup?_insert_of_ne front back (Ne.symm named)).symm

/-- The declaration changes no expanded name. -/
theorem expand?_withEmptyDefault {element : Element} (bare : node.HasNoDefault)
    (expanded : node.expand? Scope.initial = some element) :
    (node.withEmptyDefault position).expand? Scope.initial = some element := by
  obtain ⟨allowed, word, values, below⟩ := expand?_eq_some_iff.1 expanded
  obtain ⟨front, back, own, otherOwn⟩ := node.exists_ownBindings_withEmptyDefault position
  have emptied : Scope.EmptiedTo (node.ownBindings.reverse ++ Scope.initial)
      ((node.withEmptyDefault position).ownBindings.reverse ++ Scope.initial) := by
    have around := bare.own
    rw [own] at around ⊢
    rw [otherOwn, List.reverse_append, List.reverse_append, List.reverse_cons, List.append_assoc,
      List.append_assoc, List.append_assoc, List.singleton_append]
    refine emptiedTo_insert fun binding member => ?_
    rcases List.mem_append.1 member with inBack | member
    · exact around binding (List.mem_append_right _ (List.mem_reverse.1 inBack))
    · rcases List.mem_append.1 member with inFront | standard
      · exact around binding (List.mem_append_left _ (List.mem_reverse.1 inFront))
      · rw [List.mem_singleton.1 standard]
        decide
  refine expand?_eq_some_iff.2 ⟨?_, emptied.expandElement?_eq_some word, ?_, ?_⟩
  · rw [own, List.all_append, Bool.and_eq_true] at allowed
    rw [otherOwn, List.all_append, List.all_cons, allowed.1, allowed.2]
    decide
  · rw [expandAttributes?_withEmptyDefault]
    exact emptied.expandAttributes?_eq_some values
  · exact expandAll?_eq_some_of_emptiedTo _ bare.children emptied below

/-- The declaration is the first one of a default namespace in the document. -/
theorem emptiedTo_bindings (bare : node.HasNoDefault) :
    Scope.EmptiedTo node.bindings (node.withEmptyDefault position).bindings ∧
      Scope.lookup? (node.withEmptyDefault position).bindings "" = some "" := by
  obtain ⟨front, back, own, otherOwn⟩ := node.exists_ownBindings_withEmptyDefault position
  have around : ∀ binding ∈ front ++ (back ++ bindingsOfAll node.children), binding.1 ≠ "" := by
    rw [← List.append_assoc, ← own, ← bindings_eq]
    exact bare
  have children : (node.withEmptyDefault position).children = node.children := rfl
  rw [bindings_eq, bindings_eq, children, own, otherOwn, List.append_assoc, List.append_assoc,
    List.cons_append]
  exact ⟨emptiedTo_insert around, Scope.lookup?_insert _
    fun binding member => around binding (List.mem_append_left _ member)⟩

end Node

end Xml

namespace QName

/-- A name in no namespace, and the same one in the empty namespace. -/
def IsEmptied (name other : QName) : Prop :=
  name.uri = none ∧ other = ⟨some "", name.localName, false⟩

theorem IsEmptied.toString_eq {name other : QName} (emptied : name.IsEmptied other) :
    name.toString = other.toString := by
  obtain ⟨uri, localName, unbound⟩ := name
  obtain ⟨rfl, rfl⟩ := emptied
  rfl

end QName

namespace Schema

def EmptiedAlike (name other : QName) : Prop :=
  name = other ∨ name.IsEmptied other

/-- Only a name without a label, or under the empty label, is resolved by the declaration. -/
theorem emptiedAlike_nameIn {declared otherDeclared : List NamespaceBinding}
    (emptied : Scope.EmptiedTo declared otherDeclared)
    (empty : Scope.lookup? otherDeclared "" = some "") (text : List Char) :
    EmptiedAlike (nameIn declared text) (nameIn otherDeclared text) := by
  unfold nameIn
  generalize divided text = spelled
  by_cases default : spelled.1.getD "" = ""
  · rw [default, emptied.default_eq, empty]
    refine .inr ⟨rfl, ?_⟩
    simp [nameUnder]
  · rw [emptied.label_eq _ default]
    exact .inl rfl

theorem emptiedAlike_of_resolvedAlike {declared otherDeclared : List NamespaceBinding}
    (emptied : Scope.EmptiedTo declared otherDeclared)
    (empty : Scope.lookup? otherDeclared "" = some "") {shown : Element → Prop}
    {name other : QName} (alike : ResolvedAlike shown declared otherDeclared name other) :
    EmptiedAlike name other := by
  obtain ⟨element, key, _, _, _, spelled, otherSpelled⟩ := alike
  obtain ⟨value, given, rfl⟩ := Option.map_eq_some_iff.1 spelled
  obtain ⟨_, same, rfl⟩ := Option.map_eq_some_iff.1 otherSpelled
  obtain rfl := Option.some.inj (given.symm.trans same)
  exact emptiedAlike_nameIn emptied empty _

/--
None of the names that move into the empty namespace is taken for a builtin type,
and each of the elements among them is declared.
-/
structure EmptiesHarmlessly (schemas : List Schema) (schema other : Schema) : Prop where
  types : ∀ name ∈ schema.typeNames, ∀ emptied ∈ other.typeNames, name.IsEmptied emptied →
    (Catalog.ofSchemas schemas).isBuiltin name = false
  elements : ∀ ref ∈ schema.elementRefs, ∀ emptied ∈ other.elementRefs, ref.IsEmptied emptied →
    (firstElement? schemas ref.localName).isSome = true

/--
Simple types are represented alike, the models are the same, and the same is
reported on the way to them.
-/
def SameModel (schemas others : List Schema) : Prop :=
  Logged.Alike (fun result other => result.1.scalars = other.1.scalars ∧ result.2 = other.2)
    (Generator.modelOf (.ofSchemas schemas)) (Generator.modelOf (.ofSchemas others))

/-- Names that move harmlessly are read alike. -/
theorem alike_readings {schemas : List Schema} {schema other : Schema}
    (alike : schema.Alike (.ofRelation EmptiedAlike) other)
    (harmless : EmptiesHarmlessly schemas schema other) :
    schema.Alike (Catalog.ofSchemas schemas).readings other := by
  refine alike.imp ?_ ?_ fun _ _ _ _ _ => trivial
  · rintro name member otherName otherMember (rfl | emptied)
    · exact (Catalog.isReflexive_readings _).types name
    · have plain := harmless.types name member otherName otherMember emptied
      refine ⟨?_, emptied.toString_eq, ?_⟩
      · rw [emptied.2]
      · rw [plain, emptied.2]
        rfl
  · rintro ref member otherRef otherMember (rfl | emptied)
    · exact (Catalog.isReflexive_readings _).elements ref
    · have declared := harmless.elements ref member otherRef otherMember emptied
      refine ⟨?_, emptied.toString_eq, fun missing => ?_⟩
      · rw [emptied.2]
      · rw [(Catalog.holds_ofSchemas schemas).first_element] at missing
        rw [missing] at declared
        cases declared

theorem sameModel_of_alike {before after : List Schema} {schema other : Schema}
    (alike : schema.Alike (.ofRelation EmptiedAlike) other)
    (harmless : EmptiesHarmlessly (before ++ schema :: after) schema other) :
    SameModel (before ++ schema :: after) (before ++ other :: after) := by
  have each : List.Forall₂
      (Schema.Alike (Catalog.ofSchemas (before ++ schema :: after)).readings)
      (before ++ schema :: after) (before ++ other :: after) := by
    refine List.rel_append (List.forall₂_same.2 fun schema _ => ?_)
      (.cons (alike_readings alike harmless) (List.forall₂_same.2 fun schema _ => ?_))
    · exact .refl (Catalog.isReflexive_readings _) schema
    · exact .refl (Catalog.isReflexive_readings _) schema
  have same := alike_modelOf_ofSchemas each
  exact ⟨same.records_eq, same.value.catalog.scalars_eq, same.value.value⟩

/--
A document without default namespaces is read as before when its root says that it
has none: the same is reported, both fail alike, and only names without a namespace
may move into the empty one.  Where they move harmlessly, the model for the document
and any others is the same.
-/
theorem alike_ofBytes_withEmptyDefault {origin otherOrigin : Origin} {path : FilePath}
    {bytes otherBytes : List UInt8} {node : Node} {document : Document} {position : Nat}
    (spelled : Document.nodeIn? origin bytes = some node)
    (read : Document.ofNode? node = some document) (bare : node.HasNoDefault)
    (otherSpelled : Document.nodeIn? otherOrigin otherBytes =
      some (node.withEmptyDefault position)) :
    Run.Alike
      (fun schema other => schema.Alike (.ofRelation EmptiedAlike) other ∧
        ∀ before after, EmptiesHarmlessly (before ++ schema :: after) schema other →
          SameModel (before ++ schema :: after) (before ++ other :: after))
      (ofBytes origin path bytes) (ofBytes otherOrigin path otherBytes) := by
  obtain ⟨root, expanded, rfl⟩ := Document.ofNode?_eq_some_iff.1 read
  have otherRead := Document.ofNode?_eq_some_iff.2
    ⟨root, node.expand?_withEmptyDefault position bare expanded, rfl⟩
  obtain ⟨emptied, empty⟩ := node.emptiedTo_bindings position bare
  have contexts : (contextOf path ⟨root, node.bindings⟩).Alike _ _
      (contextOf path ⟨root, (node.withEmptyDefault position).bindings⟩) :=
    alike_contextOf (fun _ => True) rfl
  have alike : Run.Alike _ (ofDocument path ⟨root, node.bindings⟩)
      (ofDocument path ⟨root, (node.withEmptyDefault position).bindings⟩) :=
    alike_ofDocument ⟨rfl, rfl, Trimmed.refl (fun _ => trivial) _, trivial⟩ contexts
  rw [← ofBytes_of_nodeIn? spelled read, ← ofBytes_of_nodeIn? otherSpelled otherRead] at alike
  refine alike.imp_of_ok fun schema other _ _ same => ?_
  have each : ∀ items others, Follows (ResolvedAlike (fun _ => True) node.bindings
      (node.withEmptyDefault position).bindings) EmptiedAlike items others :=
    fun _ _ _ _ _ _ resolved => emptiedAlike_of_resolvedAlike emptied empty resolved
  have moved : schema.Alike (.ofRelation EmptiedAlike) other :=
    same.imp (each _ _) (each _ _) (each _ _)
  exact ⟨moved, fun before after harmless => sameModel_of_alike moved harmless⟩

def clockText (declarations content : String) : String :=
  "<xs:schema xmlns:xs='http://www.w3.org/2001/XMLSchema'" ++ declarations ++ ">" ++ content ++
    "</xs:schema>"

def clockNode? (declarations content : String) : Option Node :=
  Document.nodeIn? .text (Text.Utf8.encode (clockText declarations content).toList)

def declaredBy? {α : Type} (node : Node) (part : Schema → α) : Option α :=
  ((Document.ofNode? node).bind (ofDocument? (.ofString "clock.xsd"))).map part

/-- What the schema of a tree declares is what the one in its text declares. -/
theorem exists_ofText_eq {declarations content : String} {node : Node}
    (spelled : clockNode? declarations content = some node) {α : Type} {part : Schema → α}
    {shown : α} (declared : declaredBy? node part = some shown) :
    ∃ document schema, Document.ofNode? node = some document ∧
      (ofText (.ofString "clock.xsd") (clockText declarations content)).outcome = .ok schema ∧
        part schema = shown := by
  obtain ⟨schema, given, rfl⟩ := Option.map_eq_some_iff.1 declared
  obtain ⟨document, read, given⟩ := Option.bind_eq_some_iff.1 given
  refine ⟨document, schema, read, ?_, rfl⟩
  unfold ofText
  rw [ofBytes_of_nodeIn? spelled read]
  unfold ofDocument? at given
  cases outcome : (ofDocument (.ofString "clock.xsd") document).outcome with
  | ok found =>
      rw [outcome] at given
      exact congrArg Except.ok (Option.some.inj given)
  | error failure =>
      rw [outcome] at given
      cases given

def clockElement : String :=
  "<xs:complexType name='Clock'/><xs:element name='clock' type='Clock'/>"

def clockRoot (content : List Node) : Node :=
  ⟨⟨some "xs", "schema"⟩, [(⟨some "xmlns", "xs"⟩, "http://www.w3.org/2001/XMLSchema")], content⟩

def elementNode : Node := clockRoot [
  ⟨⟨some "xs", "complexType"⟩, [(⟨none, "name"⟩, "Clock")], []⟩,
  ⟨⟨some "xs", "element"⟩, [(⟨none, "name"⟩, "clock"), (⟨none, "type"⟩, "Clock")], []⟩]

/-- A name of a declared type may move into the empty namespace. -/
theorem alike_ofBytes_withEmptyDefault_clockElement :
    ∃ schema other,
      (ofText (.ofString "clock.xsd") (clockText "" clockElement)).outcome = .ok schema ∧
      (ofText (.ofString "clock.xsd") (clockText " xmlns=''" clockElement)).outcome = .ok other ∧
      schema.typeNames = [⟨none, "Clock", false⟩] ∧
      other.typeNames = [⟨some "", "Clock", false⟩] ∧
      SameModel [schema] [other] := by
  have spelled : clockNode? "" clockElement = some elementNode := by
    unfold clockNode? clockText clockElement
    simp only [String.toList_append, String.reduceToList]
    decide +kernel
  have otherSpelled : clockNode? " xmlns=''" clockElement =
      some (elementNode.withEmptyDefault 1) := by
    unfold clockNode? clockText clockElement
    simp only [String.toList_append, String.reduceToList]
    decide +kernel
  have bare : elementNode.HasNoDefault := by
    unfold Node.HasNoDefault
    decide
  have names : declaredBy? elementNode (fun schema => (schema.typeNames, schema.elementRefs)) =
      some ([⟨none, "Clock", false⟩], []) := by decide +kernel
  have otherNames : declaredBy? (elementNode.withEmptyDefault 1) Schema.typeNames =
      some [⟨some "", "Clock", false⟩] := by decide +kernel
  obtain ⟨document, schema, read, returned, declared⟩ := exists_ofText_eq spelled names
  obtain ⟨_, other, _, otherReturned, otherDeclared⟩ := exists_ofText_eq otherSpelled otherNames
  obtain ⟨types, elements⟩ := Prod.mk.inj declared
  have alike : Run.Alike _ (ofText (.ofString "clock.xsd") (clockText "" clockElement))
      (ofText (.ofString "clock.xsd") (clockText " xmlns=''" clockElement)) :=
    alike_ofBytes_withEmptyDefault spelled read bare otherSpelled
  obtain ⟨same, outcome, _, model⟩ := alike.exists_ok returned
  obtain rfl : other = same := Except.ok.inj (otherReturned.symm.trans outcome)
  refine ⟨schema, other, returned, otherReturned, types, otherDeclared, model [] [] ⟨?_, ?_⟩⟩
  · intro name member _ _ _
    rw [types] at member
    rw [List.mem_singleton.1 member]
    simp only [Catalog.isBuiltin, show isBuiltinName "Clock" = false by decide,
      Bool.and_false, Bool.false_and]
    rfl
  · intro ref member
    rw [elements] at member
    cases member

def clockAttribute : String :=
  "<xs:complexType name='Clock'><xs:attribute name='tick' type='int'/></xs:complexType>"

def attributeNode : Node := clockRoot [
  ⟨⟨some "xs", "complexType"⟩, [(⟨none, "name"⟩, "Clock")],
    [⟨⟨some "xs", "attribute"⟩, [(⟨none, "name"⟩, "tick"), (⟨none, "type"⟩, "int")], []⟩]⟩]

def fieldTypes (schemas : List Schema) : List TypeRef :=
  (Generator.modelOf (.ofSchemas schemas)).value.2.classes.flatMap
    (fun kept => kept.fields.map Field.type)

/-- A builtin type is not found any more when its name is in the empty namespace. -/
theorem not_sameModel_clockAttribute :
    ∃ node schema other, clockNode? "" clockAttribute = some node ∧ node.HasNoDefault ∧
      clockNode? " xmlns=''" clockAttribute = some (node.withEmptyDefault 1) ∧
      (ofText (.ofString "clock.xsd") (clockText "" clockAttribute)).outcome = .ok schema ∧
      (ofText (.ofString "clock.xsd") (clockText " xmlns=''" clockAttribute)).outcome = .ok other ∧
      fieldTypes [schema] = [⟨.primitive .integer, false⟩, ⟨.primitive .boolean, false⟩] ∧
      fieldTypes [other] = [⟨.primitive .text, false⟩] ∧
      ¬ SameModel [schema] [other] := by
  have spelled : clockNode? "" clockAttribute = some attributeNode := by
    unfold clockNode? clockText clockAttribute
    simp only [String.toList_append, String.reduceToList]
    decide +kernel
  have otherSpelled : clockNode? " xmlns=''" clockAttribute =
      some (attributeNode.withEmptyDefault 1) := by
    unfold clockNode? clockText clockAttribute
    simp only [String.toList_append, String.reduceToList]
    decide +kernel
  have bare : attributeNode.HasNoDefault := by
    unfold Node.HasNoDefault
    decide
  have types : declaredBy? attributeNode (fun schema => fieldTypes [schema]) =
      some [⟨.primitive .integer, false⟩, ⟨.primitive .boolean, false⟩] := by decide +kernel
  have otherTypes : declaredBy? (attributeNode.withEmptyDefault 1)
      (fun schema => fieldTypes [schema]) = some [⟨.primitive .text, false⟩] := by decide +kernel
  obtain ⟨_, schema, _, returned, declared⟩ := exists_ofText_eq spelled types
  obtain ⟨_, other, _, otherReturned, otherDeclared⟩ := exists_ofText_eq otherSpelled otherTypes
  refine ⟨attributeNode, schema, other, spelled, bare, otherSpelled, returned, otherReturned,
    declared, otherDeclared, fun same => ?_⟩
  have equal : fieldTypes [schema] = fieldTypes [other] := by
    unfold fieldTypes
    rw [same.value.2]
  rw [declared, otherDeclared] at equal
  cases equal

end Schema

end SchemaBinding
