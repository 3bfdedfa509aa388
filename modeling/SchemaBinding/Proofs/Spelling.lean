import SchemaBinding.Proofs.Rereading

/-!
# Documents as they are spelled

The bytes of a document spell out a tree, and the tree is the document once its
names are expanded.  The references of a schema are resolved by the first
declaration of each label in the whole tree, wherever it stands.
-/

namespace SchemaBinding

open Xml

namespace Xml

namespace Node

mutual

def decideEq : (node other : Node) → Decidable (node = other)
  | ⟨name, attributes, children⟩, ⟨otherName, otherAttributes, otherChildren⟩ =>
      match decEq name otherName, decEq attributes otherAttributes,
          decideEqAll children otherChildren with
      | isTrue sameName, isTrue sameAttributes, isTrue sameChildren =>
          isTrue (by rw [sameName, sameAttributes, sameChildren])
      | isFalse different, _, _ => isFalse (fun same => different (Node.mk.inj same).1)
      | _, isFalse different, _ => isFalse (fun same => different (Node.mk.inj same).2.1)
      | _, _, isFalse different => isFalse (fun same => different (Node.mk.inj same).2.2)

def decideEqAll : (nodes others : List Node) → Decidable (nodes = others)
  | [], [] => isTrue rfl
  | [], _ :: _ => isFalse (fun same => by cases same)
  | _ :: _, [] => isFalse (fun same => by cases same)
  | node :: rest, other :: others =>
      match decideEq node other, decideEqAll rest others with
      | isTrue sameFirst, isTrue sameRest => isTrue (by rw [sameFirst, sameRest])
      | isFalse different, _ => isFalse (fun same => different (List.cons.inj same).1)
      | _, isFalse different => isFalse (fun same => different (List.cons.inj same).2)

end

instance : DecidableEq Node := decideEq

variable {scope : Scope}

/-- Names are expanded in the bindings of the element itself in front of those around it. -/
theorem expand?_eq_some_iff {node : Node} {element : Element} :
    node.expand? scope = some element ↔
      node.ownBindings.all NamespaceBinding.isAllowed = true ∧
        node.name.expandElement? (node.ownBindings.reverse ++ scope) = some element.name ∧
        expandAttributes? (node.ownBindings.reverse ++ scope) node.attributes =
          some element.attributes ∧
        expandAll? (node.ownBindings.reverse ++ scope) node.children = some element.children := by
  obtain ⟨name, attributes, children⟩ := node
  obtain ⟨word, values, below⟩ := element
  have own : ownBindings ⟨name, attributes, children⟩ = ownBindings ⟨name, attributes, []⟩ := rfl
  rw [expand?, own]
  by_cases allowed : (ownBindings ⟨name, attributes, []⟩).all NamespaceBinding.isAllowed = true
  · simp [allowed, Option.bind_eq_some_iff]
  · simp [allowed]

theorem expandAll?_cons_eq_some_iff {node : Node} {rest : List Node} {elements : List Element} :
    expandAll? scope (node :: rest) = some elements ↔
      ∃ element, node.expand? scope = some element ∧
        ∃ others, expandAll? scope rest = some others ∧ elements = element :: others := by
  rw [expandAll?]
  simp [Option.bind_eq_some_iff, eq_comm (a := elements)]

end Node

namespace Document

/-- The tree that the bytes of a document spell out. -/
def nodeIn? (origin : Origin) (bytes : List UInt8) : Option Node :=
  match charactersOf origin bytes with
  | .ok (alphabet, text) => nodeOf? alphabet text
  | .error _ => none

theorem ofNode?_eq_some_iff {node : Node} {document : Document} :
    ofNode? node = some document ↔
      ∃ root, node.expand? Scope.initial = some root ∧ document = ⟨root, node.bindings⟩ := by
  simp [ofNode?, Option.bind_eq_some_iff, eq_comm (a := document)]

theorem ofBytes_of_nodeIn? {origin : Origin} {bytes : List UInt8} {node : Node}
    {document : Document} (spelled : nodeIn? origin bytes = some node)
    (read : ofNode? node = some document) : ofBytes origin bytes = .ok document := by
  unfold nodeIn? at spelled
  unfold ofBytes
  cases characters : charactersOf origin bytes with
  | error malformed =>
      rw [characters] at spelled
      cases spelled
  | ok found =>
      obtain ⟨alphabet, text⟩ := found
      rw [characters] at spelled
      have read : (nodeOf? alphabet text).bind ofNode? = some document := by
        rw [show nodeOf? alphabet text = some node from spelled]
        exact read
      simp only [bind, Except.bind]
      rw [read]
      rfl

end Document

end Xml

namespace Schema

theorem ofBytes_of_nodeIn? {origin : Origin} {path : FilePath} {bytes : List UInt8} {node : Node}
    {document : Document} (spelled : Document.nodeIn? origin bytes = some node)
    (read : Document.ofNode? node = some document) :
    ofBytes origin path bytes = ofDocument path document := by
  unfold ofBytes
  rw [Document.ofBytes_of_nodeIn? spelled read]

theorem find?_foldl_firstBindings (label : String) (kept bindings : List NamespaceBinding) :
    (bindings.foldl (fun kept binding =>
        if kept.any (·.1 == binding.1) then kept else kept ++ [binding]) kept).find?
          (·.1 == label) =
      (kept.find? (·.1 == label)).or (bindings.find? (·.1 == label)) := by
  induction bindings generalizing kept with
  | nil => simp
  | cons binding rest ih =>
      rw [List.foldl_cons, ih]
      split
      · next known =>
          by_cases same : binding.1 = label
          · have found : (kept.find? (·.1 == label)).isSome = true := by
              rw [List.find?_isSome]
              simpa [same] using known
            obtain ⟨earlier, given⟩ := Option.isSome_iff_exists.1 found
            rw [given, Option.some_or, Option.some_or]
          · rw [List.find?_cons_of_neg (by simpa using same)]
      · rw [List.find?_append, Option.or_assoc, ← List.find?_append, List.singleton_append]

/-- A label stands for its first declaration. -/
theorem uriOf?_contextOf (path : FilePath) (document : Document) (label : String) :
    (contextOf path document).uriOf? label = Scope.lookup? document.bindings label := by
  have found := find?_foldl_firstBindings label [] document.bindings
  rw [List.find?_nil, Option.none_or] at found
  exact congrArg (Option.map Prod.snd) found

/-- The name that a local name makes in a namespace, or under a label that stands for none. -/
def nameUnder (label : Option String) (localName : String) (uri : Option String) : QName :=
  ⟨uri, localName, label.isSome && uri.isNone⟩

/-- The label, if there is one, and the local name in a text: its first colon divides them. -/
def divided (text : List Char) : Option String × String :=
  match Text.cutFirst ':' text with
  | (label, some localName) => (some (String.ofList label), String.ofList localName)
  | (localName, none) => (none, String.ofList localName)

/-- The name that a text spells, of which the first declaration of its label is the namespace. -/
def nameIn (bindings : List NamespaceBinding) (text : List Char) : QName :=
  nameUnder (divided text).1 (divided text).2
    (Scope.lookup? bindings ((divided text).1.getD ""))

/-- The name that an attribute of an element spells, if it has a value that is not empty. -/
def nameAt? (bindings : List NamespaceBinding) (element : Element) (key : String) :
    Option QName :=
  (present? (element.attribute? key)).map fun value => nameIn bindings (Text.strip value.toList)

/-- The names of a document are resolved by the first declarations of their labels in it. -/
theorem qualify_contextOf (path : FilePath) (document : Document) (text : List Char) :
    (contextOf path document).qualify text = nameIn document.bindings text := by
  rw [Context.qualify, nameIn, divided]
  obtain ⟨label, _ | localName⟩ := Text.cutFirst ':' text
  · rw [← uriOf?_contextOf path]
    rfl
  · rw [← uriOf?_contextOf path, Option.getD_some]
    dsimp only
    cases (contextOf path document).uriOf? (String.ofList label) <;> rfl

theorem reference?_contextOf (path : FilePath) (document : Document) (element : Element)
    (key : String) :
    (contextOf path document).reference? (element.attribute? key) =
      nameAt? document.bindings element key := by
  unfold Context.reference? nameAt?
  simp only [qualify_contextOf]

/--
Names that one attribute of an element spells under two sequences of declarations,
where the element is among those that are shown.
-/
def ResolvedAlike (shown : Element → Prop) (declared otherDeclared : List NamespaceBinding)
    (name other : QName) : Prop :=
  ∃ element key, shown element ∧ Construct.ofName element.name ≠ .other ∧ key ∈ referenceKeys ∧
    nameAt? declared element key = some name ∧ nameAt? otherDeclared element key = some other

/-- Documents of one target namespace resolve names alike. -/
theorem alike_contextOf {path : FilePath} {document other : Document} (shown : Element → Prop)
    (sameTarget : document.root.attribute? "targetNamespace" =
      other.root.attribute? "targetNamespace") :
    (contextOf path document).Alike
      (.ofRelation (ResolvedAlike shown document.bindings other.bindings)) shown
      (contextOf path other) := by
  have each : (contextOf path document).Refer (contextOf path other) shown
      (ResolvedAlike shown document.bindings other.bindings) := by
    intro element isShown known key refers
    have spelled : ∀ bindings value, present? (element.attribute? key) = some value →
        nameAt? bindings element key = some (nameIn bindings (Text.strip value.toList)) :=
      fun bindings value given => by rw [nameAt?, given, Option.map_some]
    rw [reference?_contextOf, reference?_contextOf]
    cases given : present? (element.attribute? key) with
    | none =>
        rw [nameAt?, nameAt?, given]
        exact .none
    | some value =>
        rw [spelled _ value given, spelled _ value given]
        exact .some ⟨element, key, isShown, known, refers, spelled _ value given,
          spelled _ value given⟩
  exact ⟨rfl, congrArg present? sameTarget, each, each, each⟩

end Schema

end SchemaBinding
