import SchemaBinding.Proofs.Scopes
import SchemaBinding.Proofs.SpelledSchemas

/-!
# Names in force

A schema is read with one table for the whole document, in which the first
declaration of a label counts.  Where a document is consistent, each name in the
schema is the one that the bindings in force at its element give it.
-/

namespace SchemaBinding

open Xml Schema

namespace Schema

/-- A name that is read from an attribute is resolved wherever the element stands. -/
structure IsReadAt (node : Node) (element : Element) (key : String) (name : Option QName) :
    Prop where
  shown : node.Shows element
  resolved : ∀ scope, node.Holds Scope.initial scope element →
    ResolvesAt node scope (element.attribute? key) name

/-- A schema all names of which are resolved where they stand in a document. -/
def IsScoped (node : Node) (schema : Schema) : Prop :=
  schema.IsSpelled node.Shows (IsReadAt node)

end Schema

theorem Xml.Document.exists_nodeIn?_of_ofBytes {origin : Origin} {bytes : List UInt8}
    {document : Document} (read : Document.ofBytes origin bytes = .ok document) :
    ∃ node, Document.nodeIn? origin bytes = some node ∧ Document.ofNode? node = some document := by
  obtain ⟨⟨alphabet, text⟩, characters, read⟩ := except_bind_eq_ok.1 read
  dsimp only at read
  split at read
  · next found given =>
      obtain ⟨node, spelled, expanded⟩ := Option.bind_eq_some_iff.1 given
      obtain rfl := Except.ok.inj read
      refine ⟨node, ?_, expanded⟩
      rw [nodeIn?, characters]
      exact spelled
  · cases read

namespace Schema

/-- In a consistent document the names are read as the bindings in force resolve them. -/
theorem reads_of_isConsistent {node : Node} {path : FilePath} {root : Element}
    (consistent : IsConsistent node) :
    (contextOf path ⟨root, node.bindings⟩).Reads node.Shows (IsReadAt node) where
  child := Node.Shows.child
  reads isShown known key refers := by
    refine ⟨isShown, fun scope holds => resolvesAt_reference? consistent holds ?_ refers⟩
    by_contra foreign
    exact known (Construct.ofName_foreign foreign)

/--
Every schema is read from a tree that its bytes spell out.  If the tree is consistent,
each name in the schema is resolved by the bindings in force where the name stands.
-/
theorem exists_isScoped_of_ofBytes {origin : Origin} {path : FilePath} {bytes : List UInt8}
    {schema : Schema} (read : (ofBytes origin path bytes).outcome = .ok schema) :
    ∃ node, Document.nodeIn? origin bytes = some node ∧
      (IsConsistent node → schema.IsScoped node) := by
  unfold ofBytes at read
  split at read
  · next document given =>
      obtain ⟨node, spelled, expanded⟩ := Document.exists_nodeIn?_of_ofBytes given
      obtain ⟨root, rootExpanded, rfl⟩ := Document.ofNode?_eq_some_iff.1 expanded
      exact ⟨node, spelled, fun consistent => isSpelled_of_ofDocument
        (reads_of_isConsistent consistent) ⟨_, .here rootExpanded⟩ read⟩
  · cases read
  · cases read

theorem eq_ok_of_toOption {ε α : Type} {result : Except ε α} {value : α}
    (given : result.toOption = some value) : result = .ok value := by
  cases result with
  | error fault => cases given
  | ok other => exact congrArg Except.ok (Option.some.inj given)

/-- A schema with two declarations of one label, each around the element that uses it. -/
def lanternText : String :=
  "<s:schema xmlns:s='http://www.w3.org/2001/XMLSchema' xmlns='urn:a'>" ++
    "<s:complexType name='Lantern'><s:sequence xmlns:b='urn:b'>" ++
    "<s:element name='bulb' type='b:Bulb'/><s:element ref='shade'/></s:sequence>" ++
    "<s:attribute name='plug' type='p:Plug'/></s:complexType>" ++
    "<s:element name='spare' type='b:Bulb' xmlns:b='urn:b'/></s:schema>"

def lanternNode : Node :=
  ⟨⟨some "s", "schema"⟩, [(⟨some "xmlns", "s"⟩, xsdNamespace), (⟨none, "xmlns"⟩, "urn:a")], [
    ⟨⟨some "s", "complexType"⟩, [(⟨none, "name"⟩, "Lantern")], [
      ⟨⟨some "s", "sequence"⟩, [(⟨some "xmlns", "b"⟩, "urn:b")], [
        ⟨⟨some "s", "element"⟩, [(⟨none, "name"⟩, "bulb"), (⟨none, "type"⟩, "b:Bulb")], []⟩,
        ⟨⟨some "s", "element"⟩, [(⟨none, "ref"⟩, "shade")], []⟩]⟩,
      ⟨⟨some "s", "attribute"⟩, [(⟨none, "name"⟩, "plug"), (⟨none, "type"⟩, "p:Plug")], []⟩]⟩,
    ⟨⟨some "s", "element"⟩, [(⟨none, "name"⟩, "spare"), (⟨none, "type"⟩, "b:Bulb"),
      (⟨some "xmlns", "b"⟩, "urn:b")], []⟩]⟩

/-- A label that two elements declare, one that none does, and the default namespace. -/
theorem isScoped_lanternText : ∃ schema,
    (ofText (.ofString "lantern.xsd") lanternText).outcome = .ok schema ∧ IsConsistent lanternNode ∧
      schema.IsScoped lanternNode ∧
      schema.references = [⟨none, "Plug", true⟩, ⟨some "urn:b", "Bulb", false⟩,
        ⟨some "urn:b", "Bulb", false⟩, ⟨some "urn:a", "shade", false⟩] := by
  have spelled : Document.nodeIn? .text (Text.Utf8.encode lanternText.toList) =
      some lanternNode := by
    unfold lanternText
    simp only [String.toList_append, String.reduceToList]
    decide +kernel
  have consistent : IsConsistent lanternNode := by decide
  have told : ((Document.ofNode? lanternNode).bind fun document =>
      (ofDocument (.ofString "lantern.xsd") document).outcome.toOption).map Schema.references =
        some [⟨none, "Plug", true⟩, ⟨some "urn:b", "Bulb", false⟩,
          ⟨some "urn:b", "Bulb", false⟩, ⟨some "urn:a", "shade", false⟩] := by
    decide +kernel
  obtain ⟨schema, found, references⟩ := Option.map_eq_some_iff.1 told
  obtain ⟨document, read, returned⟩ := Option.bind_eq_some_iff.1 found
  have outcome : (ofText (.ofString "lantern.xsd") lanternText).outcome = .ok schema := by
    unfold ofText
    rw [ofBytes_of_nodeIn? spelled read]
    exact eq_ok_of_toOption returned
  obtain ⟨node, given, resolved⟩ := exists_isScoped_of_ofBytes outcome
  obtain rfl : lanternNode = node := Option.some.inj (spelled.symm.trans given)
  exact ⟨schema, outcome, consistent, resolved consistent, references⟩

end Schema

end SchemaBinding
