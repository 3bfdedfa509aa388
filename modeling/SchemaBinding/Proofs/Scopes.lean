import SchemaBinding.Proofs.DefaultNamespace
import SchemaBinding.Proofs.FileNames

/-!
# Bindings in force

At an element those declarations of labels are in force that stand at the element or
around it, the nearest one first.  Where no label is declared twice with different
namespaces, and the labels in use are declared at or around their use, the first
declaration of a label in the document is the one in force.
-/

namespace SchemaBinding

open Xml

namespace Xml.Node

/-- An element of a tree, with the bindings that are in force at it. -/
inductive Holds : Scope → Node → Scope → Element → Prop where
  | here {scope : Scope} {node : Node} {element : Element}
      (expanded : node.expand? scope = some element) :
      Holds scope node (node.ownBindings.reverse ++ scope) element
  | inside {scope inner : Scope} {node child : Node} {element : Element}
      (member : child ∈ node.children)
      (holds : Holds (node.ownBindings.reverse ++ scope) child inner element) :
      Holds scope node inner element

variable {scope inner : Scope} {node : Node} {element : Element}

theorem exists_of_mem_expandAll? {nodes : List Node} {elements : List Element}
    (expanded : expandAll? scope nodes = some elements) (member : element ∈ elements) :
    ∃ node ∈ nodes, node.expand? scope = some element := by
  induction nodes generalizing elements with
  | nil =>
      rw [expandAll?] at expanded
      cases expanded
      cases member
  | cons node rest ih =>
      obtain ⟨first, here, others, later, rfl⟩ := expandAll?_cons_eq_some_iff.1 expanded
      rcases List.mem_cons.1 member with rfl | among
      · exact ⟨node, List.mem_cons_self, here⟩
      · obtain ⟨other, inRest, given⟩ := ih later among
        exact ⟨other, List.mem_cons_of_mem _ inRest, given⟩

mutual

def elementsIn (scope : Scope) : Node → List (Scope × Element)
  | ⟨name, attributes, children⟩ =>
      let inner := (ownBindings ⟨name, attributes, []⟩).reverse ++ scope
      ((expand? scope ⟨name, attributes, children⟩).map (inner, ·)).toList ++
        elementsInAll inner children

def elementsInAll (scope : Scope) : List Node → List (Scope × Element)
  | [] => []
  | node :: rest => elementsIn scope node ++ elementsInAll scope rest

end

theorem mem_elementsInAll_iff {nodes : List Node} {pair : Scope × Element} :
    pair ∈ elementsInAll scope nodes ↔ ∃ node ∈ nodes, pair ∈ elementsIn scope node := by
  induction nodes with
  | nil => simp [elementsInAll]
  | cons node rest ih => simp [elementsInAll, ih]

theorem mem_elementsIn_iff_own_or_child {pair : Scope × Element} :
    pair ∈ node.elementsIn scope ↔
      (pair.1 = node.ownBindings.reverse ++ scope ∧ node.expand? scope = some pair.2) ∨
        ∃ child ∈ node.children, pair ∈ child.elementsIn (node.ownBindings.reverse ++ scope) := by
  obtain ⟨name, attributes, children⟩ := node
  obtain ⟨inner, element⟩ := pair
  have own : ownBindings ⟨name, attributes, children⟩ = ownBindings ⟨name, attributes, []⟩ := rfl
  rw [elementsIn, own, List.mem_append, mem_elementsInAll_iff]
  simp [eq_comm, and_comm]

theorem holds_of_mem_elementsIn (node : Node) {scope inner : Scope} {element : Element}
    (listed : (inner, element) ∈ node.elementsIn scope) : node.Holds scope inner element := by
  rcases mem_elementsIn_iff_own_or_child.1 listed with ⟨rfl, expanded⟩ | ⟨child, member, below⟩
  · exact .here expanded
  · exact .inside member (holds_of_mem_elementsIn child below)
termination_by sizeOf node
decreasing_by
  obtain ⟨name, attributes, children⟩ := node
  have smaller := List.sizeOf_lt_of_mem member
  simp only [Node.mk.sizeOf_spec] at smaller ⊢
  omega

/-- The elements that a tree holds are those that are listed. -/
theorem mem_elementsIn_iff :
    (inner, element) ∈ node.elementsIn scope ↔ node.Holds scope inner element := by
  constructor
  · exact holds_of_mem_elementsIn node
  · intro holds
    induction holds with
    | here expanded => exact mem_elementsIn_iff_own_or_child.2 (.inl ⟨rfl, expanded⟩)
    | inside member _ ih => exact mem_elementsIn_iff_own_or_child.2 (.inr ⟨_, member, ih⟩)

/-- The children of an element of a tree are elements of the tree. -/
theorem Holds.exists_child (holds : Holds scope node inner element) {child : Element}
    (member : child ∈ element.children) : ∃ deeper, Holds scope node deeper child := by
  induction holds with
  | here expanded =>
      obtain ⟨_, _, _, below⟩ := expand?_eq_some_iff.1 expanded
      obtain ⟨node, among, given⟩ := exists_of_mem_expandAll? below member
      exact ⟨_, .inside among (.here given)⟩
  | inside among holds ih =>
      obtain ⟨deeper, given⟩ := ih member
      exact ⟨deeper, .inside among given⟩

theorem mem_bindings_of_mem_child {child : Node} (member : child ∈ node.children)
    {binding : NamespaceBinding} (declared : binding ∈ child.bindings) :
    binding ∈ node.bindings := by
  rw [bindings_eq]
  refine List.mem_append_right _ ?_
  generalize node.children = nodes at member
  induction nodes with
  | nil => cases member
  | cons first rest ih =>
      rw [bindingsOfAll]
      rcases List.mem_cons.1 member with rfl | later
      · exact List.mem_append_left _ declared
      · exact List.mem_append_right _ (ih later)

/-- What is in force at an element of a tree is declared in the tree, or in force around it. -/
theorem Holds.declared (holds : Holds scope node inner element) {binding : NamespaceBinding}
    (inForce : binding ∈ inner) : binding ∈ node.bindings ∨ binding ∈ scope := by
  have own {node : Node} {binding : NamespaceBinding} {scope : Scope}
      (member : binding ∈ node.ownBindings.reverse ++ scope) :
      binding ∈ node.bindings ∨ binding ∈ scope := by
    rcases List.mem_append.1 member with declared | around
    · rw [bindings_eq]
      exact .inl (List.mem_append_left _ (List.mem_reverse.1 declared))
    · exact .inr around
  induction holds with
  | here expanded => exact own inForce
  | inside member holds ih =>
      rcases ih inForce with below | around
      · exact .inl (mem_bindings_of_mem_child member below)
      · exact own around

/-- An element of the document that a tree is. -/
def Shows (node : Node) (element : Element) : Prop :=
  ∃ scope, node.Holds Scope.initial scope element

theorem Shows.child {node : Node} {element child : Element} (shown : node.Shows element)
    (member : child ∈ element.children) : node.Shows child := by
  obtain ⟨scope, holds⟩ := shown
  exact holds.exists_child member

end Xml.Node

namespace Schema

/--
The label and the local name that a text spells: it has no colon, or one behind a
label that is neither empty nor the one that every document knows.
-/
def spelledName? (text : List Char) : Option (Option String × String) :=
  match Text.splitAll ':' text with
  | [localName] => some (none, String.ofList localName)
  | [label, localName] =>
      if label = [] ∨ label = "xml".toList then none
      else some (some (String.ofList label), String.ofList localName)
  | _ => none

/-- The namespace that bindings give to a label, or to a name without one. -/
def uriIn? (scope : Scope) : Option String → Option String
  | some label => Scope.lookup? scope label
  | none => present? (Scope.lookup? scope "")

def DeclaresLabel (bindings : List NamespaceBinding) (label : Option String) : Prop :=
  ∃ uri, (label.getD "", uri) ∈ bindings

/--
A document in which the first declaration of a label is as good as any: no label is
declared with two namespaces, the default namespace is not taken back, and a label in
the name of a declaration is declared at or around the element, if it is declared.
-/
structure IsConsistent (node : Node) : Prop where
  single : ∀ label uri other, (label, uri) ∈ node.bindings → (label, other) ∈ node.bindings →
    uri = other
  filled : ("", "") ∉ node.bindings
  near : ∀ scope element, node.Holds Scope.initial scope element →
    element.name.uri = some xsdNamespace →
    ∀ key ∈ referenceKeys, ∀ value, present? (element.attribute? key) = some value →
    ∀ label localName, spelledName? (Text.strip value.toList) = some (label, localName) →
    DeclaresLabel node.bindings label → DeclaresLabel scope label

/-- A name is resolved by the bindings that are in force at an element of a document. -/
structure IsResolved (node : Node) (scope : Scope) (label : Option String) (localName : String)
    (name : QName) : Prop where
  localName_eq : name.localName = localName
  uri_eq : name.uri = uriIn? scope label
  unbound_iff : name.unbound = true ↔ label.isSome = true ∧ ¬ DeclaresLabel node.bindings label
  uri_eq_none : name.unbound = true → name.uri = none

/-- A name for a value at an element: if the value spells a name, it is resolved there. -/
def ResolvesAt (node : Node) (scope : Scope) (value : Option String) (name : Option QName) :
    Prop :=
  match present? value with
  | none => name = none
  | some text => ∃ found, name = some found ∧ ∀ label localName,
      spelledName? (Text.strip text.toList) = some (label, localName) →
        IsResolved node scope label localName found

section Resolution

variable {bindings : List NamespaceBinding} {label : String}

theorem mem_of_lookup? {uri : String} (found : Scope.lookup? bindings label = some uri) :
    (label, uri) ∈ bindings := by
  obtain ⟨⟨other, given⟩, first, rfl⟩ := Option.map_eq_some_iff.1 found
  obtain rfl : other = label := by simpa using List.find?_some first
  exact List.mem_of_find?_eq_some first

theorem exists_lookup?_of_mem {uri : String} (member : (label, uri) ∈ bindings) :
    ∃ first, Scope.lookup? bindings label = some first := by
  cases found : Scope.lookup? bindings label with
  | some first => exact ⟨first, rfl⟩
  | none =>
      have absent := List.find?_eq_none.1 (Option.map_eq_none_iff.1 found) _ member
      simp at absent

/-- A text that spells a name has no colon, or it is divided at its only one. -/
theorem divided_of_spelledName? {text : List Char} {label : Option String} {localName : String}
    (spelled : spelledName? text = some (label, localName)) :
    (label = none ∧ ':' ∉ text ∧ localName = String.ofList text) ∨
      ∃ front, label = some front ∧ front ≠ "xml" ∧ ':' ∉ front.toList ∧
        text = front.toList ++ ':' :: localName.toList := by
  have unbroken : ∀ part ∈ Text.splitAll ':' text, ':' ∉ part :=
    fun _ member => Text.not_mem_of_mem_splitAll member
  have joined := Text.intercalate_splitAll ':' text
  unfold spelledName? at spelled
  split at spelled
  · next whole parts =>
      rw [parts] at joined unbroken
      obtain ⟨rfl, rfl⟩ := Prod.mk.inj (Option.some.inj spelled)
      have same : whole = text := by simpa [List.intercalate] using joined
      exact .inl ⟨rfl, same ▸ unbroken whole List.mem_cons_self, congrArg String.ofList same⟩
  · next front behind parts =>
      rw [parts] at joined unbroken
      split at spelled
      · cases spelled
      · next usable =>
          obtain ⟨rfl, rfl⟩ := Prod.mk.inj (Option.some.inj spelled)
          refine .inr ⟨_, rfl, fun same => usable (.inr ?_), ?_, ?_⟩
          · rw [← same, String.toList_ofList]
          · rw [String.toList_ofList]
            exact unbroken front List.mem_cons_self
          · rw [String.toList_ofList, String.toList_ofList, ← joined]
            simp [List.intercalate, List.intersperse]
  · cases spelled

/-- A text spells a name as the first declarations in the document resolve it. -/
theorem qualify_of_spelledName? {path : FilePath} {document : Document} {text : List Char}
    {label : Option String} {localName : String}
    (spelled : spelledName? text = some (label, localName)) :
    (contextOf path document).qualify text =
      nameUnder label localName (Scope.lookup? document.bindings (label.getD "")) := by
  rw [← uriOf?_contextOf path]
  rcases divided_of_spelledName? spelled with
    ⟨rfl, unbroken, rfl⟩ | ⟨front, rfl, _, unbroken, rfl⟩
  · rw [Context.qualify, Text.cutFirst_of_not_mem unbroken]
    rfl
  · rw [Context.qualify, Text.cutFirst_append_cons unbroken]
    dsimp only
    rw [String.ofList_toList, String.ofList_toList, Option.getD_some]
    cases (contextOf path document).uriOf? front <;> rfl

/-- In a consistent document a label in use has the same namespace everywhere. -/
theorem lookup?_eq_of_near {node : Node} {scope : Scope} {element : Element}
    (single : ∀ label uri other, (label, uri) ∈ node.bindings → (label, other) ∈ node.bindings →
      uri = other)
    (holds : node.Holds Scope.initial scope element) (usual : label ≠ "xml")
    (near : (∃ uri, (label, uri) ∈ node.bindings) → ∃ uri, (label, uri) ∈ scope) :
    Scope.lookup? scope label = Scope.lookup? node.bindings label := by
  have declared {uri : String} (inForce : (label, uri) ∈ scope) : (label, uri) ∈ node.bindings := by
    rcases holds.declared inForce with given | standard
    · exact given
    · exact absurd (congrArg Prod.fst (List.mem_singleton.1 standard)) usual
  cases found : Scope.lookup? node.bindings label with
  | some uri =>
      obtain ⟨inner, inForce⟩ := near ⟨uri, mem_of_lookup? found⟩
      obtain ⟨first, given⟩ := exists_lookup?_of_mem inForce
      rw [given, single label first uri (declared (mem_of_lookup? given)) (mem_of_lookup? found)]
  | none =>
      cases given : Scope.lookup? scope label with
      | none => rfl
      | some uri =>
          obtain ⟨first, known⟩ := exists_lookup?_of_mem (declared (mem_of_lookup? given))
          rw [found] at known
          cases known

theorem declaresLabel_iff (label : Option String) :
    DeclaresLabel bindings label ↔ (Scope.lookup? bindings (label.getD "")).isSome = true := by
  rw [Option.isSome_iff_exists]
  constructor
  · rintro ⟨uri, member⟩
    exact exists_lookup?_of_mem member
  · rintro ⟨uri, found⟩
    exact ⟨uri, mem_of_lookup? found⟩

/-- The labels that an element uses in its references are declared around it, if they are at all. -/
def IsNear (bindings : List NamespaceBinding) (scope : Scope) (element : Element) : Prop :=
  element.name.uri = some xsdNamespace → ∀ key ∈ referenceKeys,
    ∀ value ∈ present? (element.attribute? key),
    ∀ spelled ∈ spelledName? (Text.strip value.toList),
    (Scope.lookup? bindings (spelled.1.getD "")).isSome = true →
      (Scope.lookup? scope (spelled.1.getD "")).isSome = true

instance (scope : Scope) (element : Element) : Decidable (IsNear bindings scope element) :=
  inferInstanceAs (Decidable (_ → _))

theorem isConsistent_iff {node : Node} :
    IsConsistent node ↔
      (∀ binding ∈ node.bindings, ∀ other ∈ node.bindings, binding.1 = other.1 →
        binding.2 = other.2) ∧
      ("", "") ∉ node.bindings ∧
      ∀ place ∈ node.elementsIn Scope.initial, IsNear node.bindings place.1 place.2 := by
  constructor
  · rintro ⟨single, filled, near⟩
    refine ⟨?_, filled, ?_⟩
    · rintro ⟨label, uri⟩ member ⟨_, other⟩ otherMember rfl
      exact single label uri other member otherMember
    · rintro ⟨scope, element⟩ listed ofLanguage key refers value given ⟨label, localName⟩ spelled
      rw [← declaresLabel_iff, ← declaresLabel_iff]
      exact near scope element (Node.mem_elementsIn_iff.1 listed) ofLanguage key refers value given
        label localName spelled
  · rintro ⟨single, filled, near⟩
    refine ⟨?_, filled, ?_⟩
    · intro label uri other member otherMember
      exact single _ member _ otherMember rfl
    · intro scope element holds ofLanguage key refers value given label localName spelled
      rw [declaresLabel_iff, declaresLabel_iff]
      exact near _ (Node.mem_elementsIn_iff.2 holds) ofLanguage key refers value given
        (label, localName) spelled

instance (node : Node) : Decidable (IsConsistent node) :=
  decidable_of_iff _ isConsistent_iff.symm

/-- Where the first declaration of a label is the one in force, names are resolved by it. -/
theorem isResolved_nameUnder {node : Node} {scope : Scope} {label : Option String}
    (filled : ("", "") ∉ node.bindings)
    (same : Scope.lookup? scope (label.getD "") = Scope.lookup? node.bindings (label.getD ""))
    (localName : String) :
    IsResolved node scope label localName
      (nameUnder label localName (Scope.lookup? node.bindings (label.getD ""))) := by
  refine ⟨rfl, ?_, ?_, ?_⟩
  · rw [← same]
    cases label with
    | some label => rfl
    | none =>
        change Scope.lookup? scope "" = present? (Scope.lookup? scope "")
        rw [show Scope.lookup? scope "" = Scope.lookup? node.bindings "" from same]
        cases found : Scope.lookup? node.bindings "" with
        | none => rfl
        | some uri =>
            have different : uri ≠ "" := by
              rintro rfl
              exact filled (mem_of_lookup? found)
            unfold present?
            split
            · next given => exact absurd (Option.some.inj given) different
            · rfl
  · rw [declaresLabel_iff, nameUnder]
    simp
  · intro unbound
    exact Option.isNone_iff_eq_none.1 (Bool.and_eq_true_iff.1 unbound).2

/-- In a consistent document the name in a value is resolved where the value stands. -/
theorem resolvesAt_reference? {node : Node} {scope : Scope} {element : Element} {key : String}
    {path : FilePath} {root : Element} (consistent : IsConsistent node)
    (holds : node.Holds Scope.initial scope element)
    (ofLanguage : element.name.uri = some xsdNamespace) (refers : key ∈ referenceKeys) :
    ResolvesAt node scope (element.attribute? key)
      ((contextOf path ⟨root, node.bindings⟩).reference? (element.attribute? key)) := by
  unfold ResolvesAt
  cases given : present? (element.attribute? key) with
  | none =>
      rw [Context.reference?, given]
      rfl
  | some value =>
      refine ⟨(contextOf path ⟨root, node.bindings⟩).qualify (Text.strip value.toList), ?_,
        fun label localName spelled => ?_⟩
      · rw [Context.reference?, given]
        rfl
      have near := consistent.near scope element holds ofLanguage key refers value given label
        localName spelled
      have usual : label.getD "" ≠ "xml" := by
        rcases divided_of_spelledName? spelled with ⟨rfl, _⟩ | ⟨front, rfl, other, _⟩
        · decide
        · exact other
      have same := lookup?_eq_of_near consistent.single holds usual near
      rw [qualify_of_spelledName? spelled]
      exact isResolved_nameUnder consistent.filled same localName

end Resolution

end Schema

end SchemaBinding
