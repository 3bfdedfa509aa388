import SchemaBinding.Proofs.Model
import SchemaBinding.Proofs.Resolution

/-!
# Closure under references

Every reference in a model leads to an artifact of the model.  The exception are
names that no schema gives a structure to, and each of them was reported.
-/

namespace SchemaBinding

open Emission

/-- The references in the model that a run builds for schemas lead to artifacts. -/
structure ClosedUnderReference (schemas : List Schema) (run : Logged (Catalog × Model)) :
    Prop where
  enumerations : ∀ model ∈ run.value.2.classes, ∀ field ∈ model.fields, ∀ name,
    field.type.target = .enumeration name → ∃ enum ∈ run.value.2.enums, enum.name = name
  /-- A structure is a class of the model, or was reported as declared nowhere. -/
  structures : ∀ model ∈ run.value.2.classes, ∀ name,
    (∃ field ∈ model.fields, field.type.target = .structural name) ∨
      model.base = some name →
    (∃ other ∈ run.value.2.classes, other.name = name) ∨
      ∃ original, name = Naming.typeName original ∧
        ¬ DeclaresComplex schemas original ∧
        (∀ element, firstElement? schemas original = some element →
          element.complexType = none) ∧
        Record.debug s!"Type {original} is not declared by any loaded schema" ∈ run.records
  /-- The name of a simple type never refers to a structure. -/
  simpleNames : ∀ reference : QName, DeclaresSimple schemas reference.localName →
    ∀ name, run.value.1.targetOf reference ≠ .structural name
  /--
  Neither a base nor a particle with the name of a simple type is a reference to a
  structure in a class, and nothing but a base and a particle is one.
  -/
  simpleWritten : ∃ roots, ∀ model ∈ run.value.2.classes, ∃ request,
    model = classOf run.value.1 roots request ∧
    (∀ base, request.type.base = some base → DeclaresSimple schemas base.localName →
      model.base = none) ∧
    List.Forall₂ (fun particle field => ∀ reference,
      particle.complexType = none → particle.simpleType = none →
      particle.typeName = some reference → DeclaresSimple schemas reference.localName →
      ∀ name, field.type.target ≠ .structural name)
      request.type.elements model.elementFields ∧
    ∀ field ∈ model.fields, field.binding.isElement = false →
      ∀ name, field.type.target ≠ .structural name

namespace Modelled

variable {schemas : List Schema} {run : Logged (Catalog × Model)}
variable {roots : List (String × RootElement)} {entered left : List Request}

/-- An enumeration that a name resolves to is in the model under the name of its artifact. -/
theorem exists_enum (modelled : Modelled schemas run roots entered left) {reference : QName}
    {name : String} (target : run.value.1.targetOf reference = .enumeration name) :
    ∃ enum ∈ run.value.2.enums, enum.name = Naming.typeName name := by
  have inTable := Catalog.targetOf_eq_enumeration target
  have kept := inTable
  rw [modelled.scalars_eq] at kept
  obtain ⟨⟨key, definitions⟩, member, equal⟩ := List.mem_map.1 kept
  obtain ⟨rfl, represented⟩ := Prod.mk.inj equal
  have first : definitions.first.name = reference.localName := by
    rw [modelled.holds.simpleTypes_eq] at member
    exact Registry.name_first_of_mem_ofList SimpleType.name member
  rw [Catalog.classify_eq_enumeration represented, first, modelled.enums_eq]
  exact ⟨enumOf run.value.1 reference.localName,
    List.mem_filterMap.2 ⟨_, inTable, rfl⟩, rfl⟩

theorem exists_enum_of_fieldSource (modelled : Modelled schemas run roots entered left)
    {type : MergedType} {fieldType : TypeRef} {binding : Binding}
    (source : FieldSource run.value.1 type fieldType binding)
    {name : String} (target : fieldType.target = .enumeration name) :
    ∃ enum ∈ run.value.2.enums, enum.name = name := by
  have named : ∀ {original : Target}, original.named = .enumeration name →
      (∀ inner, original = .enumeration inner →
        ∃ reference, run.value.1.targetOf reference = .enumeration inner) →
      ∃ enum ∈ run.value.2.enums, enum.name = name := by
    intro original equal resolves
    obtain ⟨inner, rfl, rfl⟩ := Target.named_eq_enumeration equal
    obtain ⟨reference, resolved⟩ := resolves inner rfl
    exact modelled.exists_enum resolved
  cases source with
  | particle particle member =>
      unfold fieldType at target
      split at target
      · exact named target (fun _ => Catalog.targetOfParticle_eq_enumeration)
      · cases target
  | attributeUse use member =>
      exact named target (fun _ => (Catalog.isScalar_typeOfAttribute use).exists_reference)
  | text text given =>
      exact named target (fun _ => (Catalog.isScalar_typeOfText text).exists_reference)
  | flag => cases target

/-- A name that a served type refers to has a class, or it is declared nowhere and was reported. -/
theorem structure_of_refersTo (modelled : Modelled schemas run roots entered left)
    (read : ∀ schema ∈ schemas, schema.IsRead) {request : Request} (served : request ∈ entered)
    {name : String} (refers : RefersTo run.value.1 request.type name) :
    (∃ other ∈ run.value.2.classes, other.name = Naming.typeName name) ∨
      (¬ DeclaresComplex schemas name ∧
        (∀ element, firstElement? schemas name = some element → element.complexType = none) ∧
        Record.debug s!"Type {name} is not declared by any loaded schema" ∈ run.records) := by
  by_cases declared : run.value.1.complexTypes.contains name = true
  · obtain ⟨definitions, member⟩ := Registry.exists_entry_of_contains declared
    obtain ⟨named, requested⟩ := modelled.request_of_entry member
    have entered := modelled.serves_requested requested
    rw [Request.name, named] at entered
    exact .inl (modelled.exists_class entered)
  · have free : run.value.1.complexTypes.contains name = false := by simpa using declared
    cases root : find? (rootTypesOf run.value.1) name with
    | some type =>
        obtain ⟨⟨key, kept⟩, found, rfl⟩ := Option.map_eq_some_iff.1 root
        obtain rfl : key = name := by simpa using List.find?_some found
        obtain ⟨named, requested⟩ :=
          modelled.request_of_root read (List.mem_of_find?_eq_some found)
        have entered := modelled.serves_requested requested
        change kept.name ∈ _ at entered
        rw [named] at entered
        exact .inl (modelled.exists_class entered)
    | none =>
        refine .inr ⟨?_, ?_, modelled.reported request served name refers ⟨free, root⟩⟩
        · rw [← modelled.holds.declares_complexType]
          exact declared
        · intro element first
          by_contra inside
          obtain ⟨type, given⟩ := Option.ne_none_iff_exists'.1 inside
          have isRoot := modelled.mem_rootTypesOf first given free
          have absent : name ∉ (rootTypesOf run.value.1).map Prod.fst := by
            rw [← find?_isSome_iff, root]
            simp
          exact absent (List.mem_map.2 ⟨_, isRoot, rfl⟩)

/--
A field that holds a structure is one for an element.  The structure is named by a
reference or by a type inside the particle.
-/
theorem refersTo_of_fieldSource {type : MergedType} {fieldType : TypeRef} {binding : Binding}
    {name : String} (source : FieldSource run.value.1 type fieldType binding)
    (target : fieldType.target = .structural name) : binding.isElement = true ∧
    ∃ original, name = Naming.typeName original ∧
      (RefersTo run.value.1 type original ∨
        ∃ particle ∈ type.elements, ∃ inside, particle.complexType = some inside ∧
          original = Naming.synthesizedName type.name particle.name) := by
  cases source with
  | particle particle member =>
      unfold fieldType at target
      split at target
      · next plain =>
          obtain ⟨original, found, named⟩ := Target.named_eq_structural target
          exact ⟨rfl, original, named, .inl (.particle particle member plain found)⟩
      · next inside given =>
          cases target
          exact ⟨rfl, _, rfl, .inr ⟨particle, member, inside, given, rfl⟩⟩
  | attributeUse use member =>
      obtain ⟨original, found, _⟩ := Target.named_eq_structural target
      exact absurd found (Catalog.isScalar_typeOfAttribute use).ne_structural
  | text text given =>
      obtain ⟨original, found, _⟩ := Target.named_eq_structural target
      exact absurd found (Catalog.isScalar_typeOfText text).ne_structural
  | flag => cases target

theorem refersTo_of_baseNameOf {type : MergedType} {name : String}
    (given : baseNameOf run.value.1 type.base = some name) :
    ∃ original, name = Naming.typeName original ∧ RefersTo run.value.1 type original := by
  obtain ⟨base, hasBase, chosen⟩ := Option.bind_eq_some_iff.1 given
  cases found : run.value.1.targetOf base with
  | structural original =>
      rw [found] at chosen
      exact ⟨original, (Option.some.inj chosen).symm, .base base hasBase found⟩
  | primitive kind =>
      rw [found] at chosen
      cases chosen
  | enumeration other =>
      rw [found] at chosen
      cases chosen

theorem not_structural_of_declaresSimple (modelled : Modelled schemas run roots entered left)
    {reference : QName} (simple : DeclaresSimple schemas reference.localName) (name : String) :
    run.value.1.targetOf reference ≠ .structural name := by
  intro target
  have undeclared := (Catalog.targetOf_eq_structural target).2
  rw [(modelled.holds.declares_simpleType reference.localName).2 simple] at undeclared
  cases undeclared

/-- The class for a type takes no reference by the name of a simple type for a structure. -/
theorem simpleWritten_classOf (modelled : Modelled schemas run roots entered left)
    (request : Request) :
    (∀ base, request.type.base = some base → DeclaresSimple schemas base.localName →
      (classOf run.value.1 roots request).base = none) ∧
    List.Forall₂ (fun particle field => ∀ reference,
      particle.complexType = none → particle.simpleType = none →
      particle.typeName = some reference → DeclaresSimple schemas reference.localName →
      ∀ name, field.type.target ≠ .structural name)
      request.type.elements (classOf run.value.1 roots request).elementFields ∧
    ∀ field ∈ (classOf run.value.1 roots request).fields, field.binding.isElement = false →
      ∀ name, field.type.target ≠ .structural name := by
  refine ⟨?_, ?_, ?_⟩
  · intro base given simple
    show baseNameOf run.value.1 request.type.base = none
    rw [given, baseNameOf, Option.bind_some]
    split
    · next original found =>
        exact absurd found (modelled.not_structural_of_declaresSimple simple original)
    · rfl
  · refine (forall₂_elementFields_classOf run.value.1 roots request).imp ?_
    intro particle field isField reference plain noSimple typed simple name target
    rw [isField.type_eq] at target
    unfold fieldType at target
    rw [plain] at target
    obtain ⟨original, found, _⟩ := Target.named_eq_structural target
    have resolved : run.value.1.targetOf reference = .structural original := by
      unfold Catalog.typeOfParticle Catalog.targetOfParticle at found
      rw [noSimple, typed] at found
      exact found
    exact modelled.not_structural_of_declaresSimple simple original resolved
  · intro field member noElement name target
    have element := (refersTo_of_fieldSource (fieldSource_classOf _ member) target).1
    rw [noElement] at element
    cases element

end Modelled

/-- The model of schemas that were read is closed under references. -/
theorem modelOf_closedUnderReference (schemas : List Schema)
    (read : ∀ schema ∈ schemas, schema.IsRead) :
    ClosedUnderReference schemas (Generator.modelOf (.ofSchemas schemas)) := by
  obtain ⟨roots, entered, left, modelled⟩ := exists_modelled schemas
  constructor
  case enumerations =>
    intro model member field inModel name target
    obtain ⟨request, served, rfl⟩ := (modelled.mem_classes_iff model).1 member
    exact modelled.exists_enum_of_fieldSource (fieldSource_classOf _ inModel) target
  case structures =>
    intro model member name reference
    obtain ⟨request, served, rfl⟩ := (modelled.mem_classes_iff model).1 member
    have refers : ∃ original, name = Naming.typeName original ∧
        (RefersTo (Generator.modelOf (.ofSchemas schemas)).value.1 request.type original ∨
          ∃ particle ∈ request.type.elements, ∃ inside, particle.complexType = some inside ∧
            original = Naming.synthesizedName request.type.name particle.name) := by
      rcases reference with ⟨field, inModel, target⟩ | base
      · exact (Modelled.refersTo_of_fieldSource (fieldSource_classOf _ inModel) target).2
      · obtain ⟨original, named, refers⟩ := Modelled.refersTo_of_baseNameOf base
        exact ⟨original, named, .inl refers⟩
    obtain ⟨original, rfl, refers | ⟨particle, inType, inside, given, rfl⟩⟩ := refers
    · rcases modelled.structure_of_refersTo read served refers with inModel | reported
      · exact .inl inModel
      · exact .inr ⟨original, rfl, reported⟩
    · have leads : ⟨request.type.synthesized particle.name inside, true⟩ ∈ request.inner :=
        List.mem_filterMap.2 ⟨particle, inType, by rw [given]; rfl⟩
      exact .inl (modelled.exists_class (modelled.serves_inner served leads))
  case simpleNames =>
    intro reference simple name
    exact modelled.not_structural_of_declaresSimple simple name
  case simpleWritten =>
    refine ⟨roots, fun model member => ?_⟩
    obtain ⟨request, _, rfl⟩ := (modelled.mem_classes_iff model).1 member
    exact ⟨request, rfl, modelled.simpleWritten_classOf request⟩

open Schema in
/-- A schema with an enumeration, a type inside a particle and a base that nothing declares. -/
def brushSchema : Schema :=
  (ofDeclarations? (.ofString "brush.xsd") [
    declaration "simpleType" [("name", "Color")] [
      declaration "restriction" [("base", "Word")] [
        declaration "enumeration" [("value", "red")] []]],
    declaration "complexType" [("name", "Brush")] [
      declaration "complexContent" [] [
        declaration "extension" [("base", "Tool")] [
          declaration "sequence" [] [
            declaration "element" [("name", "color"), ("type", "Color")] [],
            declaration "element" [("name", "tip")] [
              declaration "complexType" [] [
                declaration "attribute" [("name", "width")] []]]]]]]]).getD default

theorem modelOf_closedUnderReference_brushSchema :
    (∀ schema ∈ [brushSchema], schema.IsRead) ∧
      ClosedUnderReference [brushSchema] (Generator.modelOf (.ofSchemas [brushSchema])) ∧
      (Generator.modelOf (.ofSchemas [brushSchema])).value.2.classes.map
          (fun model => (model.name, model.base, model.fields.map (·.type.target))) =
        [("Brush_tipType", none, [.primitive .text]),
          ("Brush", some "Tool", [.enumeration "Color", .structural "Brush_tipType"])] := by
  have read : ∀ schema ∈ [brushSchema], schema.IsRead := by
    intro schema member
    obtain rfl := List.mem_singleton.1 member
    exact Schema.isRead_getD_ofDeclarations? (by decide +kernel)
  exact ⟨read, modelOf_closedUnderReference [brushSchema] read, by decide +kernel⟩

end SchemaBinding
