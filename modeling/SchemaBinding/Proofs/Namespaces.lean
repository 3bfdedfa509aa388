import SchemaBinding.Proofs.Correspondence
import SchemaBinding.Proofs.Declaring
import SchemaBinding.Proofs.Model
import SchemaBinding.Proofs.Reading

/-!
# Namespaces of elements

A field for an element is bound to the target namespace of the document that
declares the particle, also where another document leads the merged type.  A
particle of a document without a target namespace is bound to the namespace of
its class instead, which has one if a document with a namespace leads.
-/

namespace SchemaBinding

open Emission

namespace Schema

/-- A particle that is written in a complex type of a schema or inside one of its global elements. -/
def Writes (schema : Schema) (particle : ElementParticle) : Prop :=
  (∃ type ∈ schema.complexTypes, type.Writes particle) ∨
    ∃ element ∈ schema.elements, ∃ type, element.complexType = some type ∧ type.Writes particle

variable {schema : Schema} {particle : ElementParticle}

theorem Writes.inside {outer : ElementParticle} {inner : ComplexType}
    (written : schema.Writes outer) (given : outer.complexType = some inner)
    (member : particle ∈ inner.elements) : schema.Writes particle := by
  rcases written with ⟨type, declared, written⟩ | ⟨element, global, type, holds, written⟩
  · exact .inl ⟨type, declared, written.trans given member⟩
  · exact .inr ⟨element, global, type, holds, written.trans given member⟩

theorem IsRead.placed (read : schema.IsRead) :
    schema.Placed schema.targetNamespace ∧ schema.targetNamespace ≠ some "" := by
  obtain ⟨path, document, succeeds⟩ := read
  have placed := (ends_ofDocument path document).value schema succeeds
  have own := placed.uri_eq
  rw [own]
  exact ⟨placed, present?_ne_empty _⟩

/-- A particle stands in the target namespace of the schema that it is written in. -/
theorem IsRead.standsIn (read : schema.IsRead) (written : schema.Writes particle) :
    particle.StandsIn schema.targetNamespace := by
  have placed := read.placed.1
  rcases written with ⟨type, declared, written⟩ | ⟨element, global, type, holds, written⟩
  · exact written.standsIn (placed.complexTypes type declared)
  · exact written.standsIn (placed.elements element global type holds)

end Schema

namespace MergedType

variable (first : ComplexType) (later : List ComplexType)

/-- Each element of a folded type is one of a definition, and so is its namespace. -/
theorem exists_definition_of_fold :
    (∀ particle ∈ (fold first later).elements, ∃ type ∈ first :: later,
      particle ∈ type.elements) ∧
    ∃ type ∈ first :: later, (fold first later).targetNamespace = type.targetNamespace := by
  have ordered : FoldedFrom (priority first later) (fold first later) :=
    (foldedFrom_ofDefinition first).foldl later
  have same : ∀ type, type ∈ priority first later ↔ type ∈ first :: later := fun _ =>
    (perm_priorityFrom (ofDefinition first) [first] later).mem_iff
  obtain ⟨lead, others, equal, elements, _, uri⟩ := ordered.exists_lead
  rw [equal] at same
  constructor
  · intro particle member
    rw [elements] at member
    rcases mem_of_mem_mergeByName _ member with inLead | inOthers
    · exact ⟨lead, (same lead).1 List.mem_cons_self, inLead⟩
    · obtain ⟨particles, mapped, inside⟩ := List.mem_flatten.1 inOthers
      obtain ⟨type, among, rfl⟩ := List.mem_map.1 mapped
      exact ⟨type, (same type).1 (List.mem_cons_of_mem lead among), inside⟩
  · exact ⟨lead, (same lead).1 List.mem_cons_self, uri⟩

end MergedType

/--
How a type that a class is made for comes from schemas: all definitions of a name
make it together, or it stands inside a first global element or inside a
particle of such a type.
-/
inductive Formed (schemas : List Schema) : MergedType → Prop where
  | declared {name : String} {first : ComplexType} {later : List ComplexType}
      (named : complexTypesNamed schemas name = first :: later) :
      Formed schemas (.fold first later)
  | root {name : String} {element : GlobalElement} {type : ComplexType}
      (first : firstElement? schemas name = some element)
      (given : element.complexType = some type) : Formed schemas (.ofDefinition type)
  | inside {owner : MergedType} {particle : ElementParticle} {type : ComplexType}
      (formed : Formed schemas owner) (member : particle ∈ owner.elements)
      (given : particle.complexType = some type) :
      Formed schemas (owner.synthesized particle.name type)

theorem exists_schema_of_complexTypesNamed {schemas : List Schema} {name : String}
    {type : ComplexType} (member : type ∈ complexTypesNamed schemas name) :
    ∃ schema ∈ schemas, type ∈ schema.complexTypes ∧ type.name = name := by
  obtain ⟨declared, named⟩ := List.mem_filter.1 member
  obtain ⟨schema, inSchemas, inside⟩ := List.mem_flatMap.1 declared
  exact ⟨schema, inSchemas, inside, by simpa using named⟩

theorem exists_schema_of_firstElement {schemas : List Schema} {name : String}
    {element : GlobalElement} (first : firstElement? schemas name = some element) :
    ∃ schema ∈ schemas, element ∈ schema.elements := by
  obtain ⟨schema, inSchemas, inside⟩ := List.mem_flatMap.1 (List.mem_of_find?_eq_some first)
  exact ⟨schema, inSchemas, inside⟩

/-- Complex types of one name stand in schemas that all have a target namespace or all have none. -/
def AgreeOnNamespaces (schemas : List Schema) : Prop :=
  ∀ schema ∈ schemas, ∀ other ∈ schemas, ∀ type ∈ schema.complexTypes,
    ∀ otherType ∈ other.complexTypes, type.name = otherType.name →
      schema.targetNamespace = none → other.targetNamespace = none

namespace Formed

variable {schemas : List Schema} {owner : MergedType} {particle : ElementParticle}

/-- Every element of a formed type is written in some schema. -/
theorem exists_writes (formed : Formed schemas owner) (member : particle ∈ owner.elements) :
    ∃ schema ∈ schemas, schema.Writes particle := by
  induction formed generalizing particle with
  | @declared name first later named =>
      obtain ⟨type, defined, inside⟩ :=
        (MergedType.exists_definition_of_fold first later).1 particle member
      obtain ⟨schema, inSchemas, declared, _⟩ :=
        exists_schema_of_complexTypesNamed (named ▸ defined)
      exact ⟨schema, inSchemas, .inl ⟨type, declared, .here inside⟩⟩
  | @root name element type first given =>
      obtain ⟨schema, inSchemas, global⟩ := exists_schema_of_firstElement first
      exact ⟨schema, inSchemas, .inr ⟨element, global, type, given, .here member⟩⟩
  | inside formed outerMember given ih =>
      obtain ⟨schema, inSchemas, written⟩ := ih outerMember
      exact ⟨schema, inSchemas, written.inside given member⟩

/--
Where the schemas agree, a formed type has no namespace if one of its particles
has none.
-/
theorem uri_eq_none (formed : Formed schemas owner)
    (read : ∀ schema ∈ schemas, schema.IsRead) (agree : AgreeOnNamespaces schemas)
    (member : particle ∈ owner.elements) (loose : particle.targetNamespace = none) :
    owner.targetNamespace = none := by
  induction formed generalizing particle with
  | @declared name first later named =>
      obtain ⟨elements, lead, leadDefined, uri⟩ :=
        MergedType.exists_definition_of_fold first later
      obtain ⟨type, defined, inside⟩ := elements particle member
      obtain ⟨schema, inSchemas, declared, nameEq⟩ :=
        exists_schema_of_complexTypesNamed (named ▸ defined)
      obtain ⟨other, otherIn, leads, leadName⟩ :=
        exists_schema_of_complexTypesNamed (named ▸ leadDefined)
      have placed := ((read schema inSchemas).placed.1.complexTypes type declared).particle inside
      have own : schema.targetNamespace = none := placed.uri_eq.symm.trans loose
      have leadOwn := ((read other otherIn).placed.1.complexTypes lead leads).uri_eq
      rw [uri, leadOwn]
      exact agree schema inSchemas other otherIn type declared lead leads
        (nameEq.trans leadName.symm) own
  | @root name element type first given =>
      obtain ⟨schema, inSchemas, global⟩ := exists_schema_of_firstElement first
      have stands := (read schema inSchemas).placed.1.elements element global type given
      have own : schema.targetNamespace = none :=
        (stands.particle member).uri_eq.symm.trans loose
      exact stands.uri_eq.trans own
  | @inside holder outer type formed outerMember given ih =>
      obtain ⟨schema, inSchemas, written⟩ := formed.exists_writes outerMember
      have stands := (read schema inSchemas).standsIn written
      have inner := stands.inner type given
      have own : schema.targetNamespace = none :=
        (inner.particle member).uri_eq.symm.trans loose
      have holderUri := ih outerMember (stands.uri_eq.trans own)
      show type.targetNamespace.or holder.targetNamespace = none
      rw [inner.uri_eq, own, holderUri]
      rfl

end Formed

namespace Modelled

variable {schemas : List Schema} {run : Logged (Catalog × Model)}
variable {roots : List (String × RootElement)} {entered left : List Request}

theorem formed_of_requested (modelled : Modelled schemas run roots entered left)
    {request : Request} (requested : request ∈ requestsOf run.value.1) :
    Formed schemas request.type := by
  rcases List.mem_append.1 requested with merged | root
  · obtain ⟨type, mapped, rfl⟩ := List.mem_map.1 merged
    obtain ⟨⟨name, definitions⟩, member, rfl⟩ := List.mem_map.1 mapped
    have all := Registry.get_ofList ComplexType.name (schemas.flatMap Schema.complexTypes) name
    rw [modelled.holds.complexTypes_eq] at member
    rw [Registry.get, Registry.definitions?_of_mem (Registry.nodup_names_ofList _ _) member] at all
    exact .declared all.symm
  · obtain ⟨⟨name, type⟩, chosen, rfl⟩ := List.mem_map.1 root
    obtain ⟨⟨key, definitions⟩, member, isRoot⟩ := List.mem_filterMap.1 chosen
    obtain ⟨rfl, given, _⟩ := rootType?_eq_some _ isRoot
    rw [modelled.holds.elements_eq] at member
    have first := Registry.first?_of_mem (Registry.nodup_names_ofList _ _) member
    rw [Registry.first?_ofList] at first
    exact .root first given

/-- Every type that a class is made for is formed from the schemas. -/
theorem formed_of_served (modelled : Modelled schemas run roots entered left)
    {request : Request} (served : request ∈ entered) : Formed schemas request.type := by
  obtain ⟨start, requested, path⟩ := modelled.traversal.reaches served
  clear served
  induction path with
  | refl => exact modelled.formed_of_requested requested
  | tail _ leads formed =>
      obtain ⟨particle, member, inner⟩ := List.mem_filterMap.1 leads
      obtain ⟨type, given, rfl⟩ := Option.map_eq_some_iff.1 inner
      exact .inside formed member given

end Modelled

/--
The binding of a field for a particle that refers to no other element: its name,
and the namespace that is chosen for the schema it is written in.
-/
def BoundIn (schemas : List Schema) (uriOf : Schema → Option String)
    (particle : ElementParticle) (field : Field) : Prop :=
  particle.ref = none →
    (∃ schema ∈ schemas, schema.Writes particle) ∧
      ∀ schema ∈ schemas, schema.Writes particle →
        field.binding = .element particle.name (uriOf schema)

def BindsElements (schemas : List Schema) (model : Model)
    (uriOf : ClassModel → Schema → Option String) : Prop :=
  ∀ kept ∈ model.classes, ∃ owner, Formed schemas owner ∧
    kept.originalName = owner.name ∧ kept.uri = owner.targetNamespace ∧
    List.Forall₂ (BoundIn schemas (uriOf kept)) owner.elements kept.elementFields

/-- A namespace that is not empty is that of the particle; otherwise the owner gives it. -/
theorem Catalog.namespaceOf_eq_or (catalog : Catalog) {particle : ElementParticle}
    (plain : particle.ref = none) (notEmpty : particle.targetNamespace ≠ some "")
    (owner : Option String) :
    catalog.namespaceOf particle owner = particle.targetNamespace.or owner := by
  unfold Catalog.namespaceOf
  rw [plain]
  dsimp only
  split
  · next none => rw [none, Option.none_or]
  · next empty => exact absurd empty notEmpty
  · next uri given => rw [given, Option.some_or]

namespace Modelled

variable {schemas : List Schema} {run : Logged (Catalog × Model)}
variable {roots : List (String × RootElement)} {entered left : List Request}

/-- The fields for the particles of a served type, by the schemas that write the particles. -/
theorem forall₂_boundIn (modelled : Modelled schemas run roots entered left)
    (read : ∀ schema ∈ schemas, schema.IsRead) {request : Request} (served : request ∈ entered)
    {uriOf : Schema → Option String}
    (chosen : ∀ particle ∈ request.type.elements, ∀ schema ∈ schemas,
      particle.targetNamespace = schema.targetNamespace →
      uriOf schema = schema.targetNamespace.or request.type.targetNamespace) :
    List.Forall₂ (BoundIn schemas uriOf) request.type.elements
      (classOf run.value.1 roots request).elementFields := by
  have each := forall₂_elementFields_classOf run.value.1 roots request
  refine ((List.forall₂_and_left (p := (· ∈ request.type.elements)) _ _).2
    ⟨fun _ => id, each⟩).imp ?_
  rintro particle field ⟨member, isField⟩ plain
  refine ⟨(modelled.formed_of_served served).exists_writes member, ?_⟩
  intro schema inSchemas written
  have stands := ((read schema inSchemas).standsIn written).uri_eq
  have notEmpty : particle.targetNamespace ≠ some "" := by
    rw [stands]
    exact (read schema inSchemas).placed.2
  rw [isField.binding_eq, bindingOf, Catalog.namespaceOf_eq_or _ plain notEmpty, stands,
    chosen particle member schema inSchemas stands]

end Modelled

/--
An element is bound to the target namespace of the schema that writes it, and
without one to that of its class.  Where the schemas of each complex type agree
on having a namespace, it is bound to that of its own schema in either case.
-/
theorem modelOf_bindsElements (schemas : List Schema)
    (read : ∀ schema ∈ schemas, schema.IsRead) :
    BindsElements schemas (Generator.modelOf (.ofSchemas schemas)).value.2
        (fun kept schema => schema.targetNamespace.or kept.uri) ∧
      (AgreeOnNamespaces schemas →
        BindsElements schemas (Generator.modelOf (.ofSchemas schemas)).value.2
          (fun _ schema => schema.targetNamespace)) := by
  obtain ⟨roots, entered, left, modelled⟩ := exists_modelled schemas
  constructor
  · intro kept member
    obtain ⟨request, served, rfl⟩ := (modelled.mem_classes_iff kept).1 member
    exact ⟨request.type, modelled.formed_of_served served, rfl, rfl,
      modelled.forall₂_boundIn read served (fun _ _ _ _ _ => rfl)⟩
  · intro agree kept member
    obtain ⟨request, served, rfl⟩ := (modelled.mem_classes_iff kept).1 member
    have formed := modelled.formed_of_served served
    refine ⟨request.type, formed, rfl, rfl, modelled.forall₂_boundIn read served ?_⟩
    intro particle inType schema inSchemas stands
    show schema.targetNamespace = schema.targetNamespace.or request.type.targetNamespace
    cases own : schema.targetNamespace with
    | some uri => rw [Option.some_or]
    | none => rw [formed.uri_eq_none read agree inType (stands.trans own), Option.none_or]

/-- The document of a schema with one complex type of plain elements. -/
def shelfDocument (uri : Option String) (elements : List String) : Xml.Document where
  root := {
    name := ⟨some xsdNamespace, "schema"⟩
    attributes := uri.toList.map (fun value => (⟨none, "targetNamespace"⟩, value))
    children := [
      Schema.declaration "complexType" [("name", "Shelf")] [
        Schema.declaration "sequence" []
          (elements.map (fun name => Schema.declaration "element" [("name", name)] []))]] }
  bindings := []

def boardSchema : Schema :=
  (Schema.ofDocument? (.ofString "a.xsd") (shelfDocument (some "urn:a") ["board", "wall"])).getD
    default

/-- A schema that adds an element to the complex type, in another namespace. -/
def bookSchema : Schema :=
  (Schema.ofDocument? (.ofString "b.xsd") (shelfDocument (some "urn:b") ["book"])).getD default

/-- A schema that adds an element to the complex type, in no namespace. -/
def vaseSchema : Schema :=
  (Schema.ofDocument? (.ofString "c.xsd") (shelfDocument none ["vase"])).getD default

theorem isRead_shelf : ∀ schema ∈ [boardSchema, bookSchema, vaseSchema], schema.IsRead := by
  intro schema member
  simp only [List.mem_cons, List.not_mem_nil, or_false] at member
  rcases member with rfl | rfl | rfl
  · exact Schema.isRead_getD_ofDocument? (by decide +kernel)
  · exact Schema.isRead_getD_ofDocument? (by decide +kernel)
  · exact Schema.isRead_getD_ofDocument? (by decide +kernel)

theorem modelOf_bindsElements_bookSchema :
    (∀ schema ∈ [boardSchema, bookSchema], schema.IsRead) ∧
      AgreeOnNamespaces [boardSchema, bookSchema] ∧
      BindsElements [boardSchema, bookSchema]
        (Generator.modelOf (.ofSchemas [boardSchema, bookSchema])).value.2
        (fun _ schema => schema.targetNamespace) ∧
      (Generator.modelOf (.ofSchemas [boardSchema, bookSchema])).value.2.classes.map
          (fun kept => kept.elementFields.map Field.binding) =
        [[.element "board" (some "urn:a"), .element "wall" (some "urn:a"),
          .element "book" (some "urn:b")]] := by
  have read : ∀ schema ∈ [boardSchema, bookSchema], schema.IsRead := by
    intro schema member
    exact isRead_shelf schema (List.mem_append_left [vaseSchema] member)
  have agree : AgreeOnNamespaces [boardSchema, bookSchema] := by
    have none : ∀ schema ∈ [boardSchema, bookSchema], schema.targetNamespace ≠ none := by
      decide +kernel
    intro schema member _ _ _ _ _ _ _ loose
    exact absurd loose (none schema member)
  exact ⟨read, agree, (modelOf_bindsElements _ read).2 agree, by decide +kernel⟩

/-- What holds of all elements of complex types without inner types holds of all written ones. -/
theorem Schema.Writes.of_plain {schema : Schema} {holds : ElementParticle → Prop}
    (noElements : schema.elements.isEmpty = true)
    (plain : ∀ type ∈ schema.complexTypes, ∀ particle ∈ type.elements,
      particle.complexType.isNone = true ∧ holds particle)
    {particle : ElementParticle} (written : schema.Writes particle) : holds particle := by
  rcases written with ⟨type, declared, written⟩ | ⟨element, global, _⟩
  · cases written with
    | here member => exact (plain type declared particle member).2
    | inside member given written =>
        have none := (plain type declared _ member).1
        rw [given] at none
        cases none
  · rw [List.isEmpty_iff.1 noElements] at global
    cases global

/-- Of a merged type that others lead, a particle in no namespace is bound to that of its class. -/
theorem not_bindsElements_vaseSchema :
    (∀ schema ∈ [boardSchema, bookSchema, vaseSchema], schema.IsRead) ∧
      ¬ BindsElements [boardSchema, bookSchema, vaseSchema]
        (Generator.modelOf (.ofSchemas [boardSchema, bookSchema, vaseSchema])).value.2
        (fun _ schema => schema.targetNamespace) := by
  refine ⟨isRead_shelf, fun binds => ?_⟩
  have bindings : (Generator.modelOf (.ofSchemas
      [boardSchema, bookSchema, vaseSchema])).value.2.classes.map
        (fun kept => kept.elementFields.map Field.binding) =
      [[.element "board" (some "urn:a"), .element "wall" (some "urn:a"),
        .element "book" (some "urn:b"), .element "vase" (some "urn:a")]] := by decide +kernel
  have facts : ∀ schema ∈ [boardSchema, bookSchema, vaseSchema],
      schema.elements.isEmpty = true ∧
        ∀ type ∈ schema.complexTypes, ∀ particle ∈ type.elements,
          particle.complexType.isNone = true ∧ particle.ref = none ∧
            (particle.name = "vase" → schema.targetNamespace = none) := by decide +kernel
  obtain ⟨kept, inModel, fields⟩ := List.mem_map.1 (bindings ▸ List.mem_singleton_self _)
  have vase : Binding.element "vase" (some "urn:a") ∈ kept.elementFields.map Field.binding := by
    rw [fields]
    simp
  obtain ⟨field, inFields, bound⟩ := List.mem_map.1 vase
  obtain ⟨owner, formed, _, _, each⟩ := binds kept inModel
  obtain ⟨particle, inOwner, boundIn⟩ := exists_of_mem_right each inFields
  obtain ⟨schema, inSchemas, written⟩ := formed.exists_writes inOwner
  obtain ⟨noElements, plain⟩ := facts schema inSchemas
  obtain ⟨noRef, loose⟩ := written.of_plain noElements plain
  have own := (boundIn noRef).2 schema inSchemas written
  rw [bound] at own
  obtain ⟨name, uri⟩ := Binding.element.inj own
  have none_eq : some "urn:a" = schema.targetNamespace := uri
  rw [loose name.symm] at none_eq
  cases none_eq

end SchemaBinding
