import SchemaBinding.Proofs.Inside
import SchemaBinding.Proofs.Names
import SchemaBinding.Proofs.Resemblance
import SchemaBinding.Proofs.Roots

/-!
# Order of registration

Where nothing is declared twice, schemas may be registered in any order: what a
name refers to, which class a global element stands for and which classes are
requested depends on what the schemas declare and not on which of them came
first.  Then the model is the same but for the order of its artifacts.
-/

namespace SchemaBinding

open Emission

/-- Where no two items have a value, the first value is the same in any order. -/
theorem findSome?_eq_of_perm {α β : Type} {value : α → Option β} {items others : List α}
    (perm : items.Perm others)
    (once : items.Pairwise (fun first second => value first = none ∨ value second = none)) :
    items.findSome? value = others.findSome? value := by
  induction perm with
  | nil => rfl
  | cons item perm ih =>
      rw [List.findSome?_cons, List.findSome?_cons, ih (List.pairwise_cons.1 once).2]
  | swap first second rest =>
      have apart := (List.pairwise_cons.1 once).1 first List.mem_cons_self
      simp only [List.findSome?_cons]
      rcases apart with none | none
      · rw [none]
      · rw [none]
  | trans perm later ih laterIh =>
      rw [ih once, laterIh (perm.pairwise once Or.symm)]

namespace Registry

variable {α : Type} {nameOf : α → String}

theorem appendTo_of_not_mem {name : String} {definition : α}
    {entries : List (String × Definitions α)} (absent : name ∉ entries.map Prod.fst) :
    appendTo name definition entries = entries ++ [(name, ⟨definition, []⟩)] := by
  induction entries with
  | nil => rfl
  | cons entry rest ih =>
      rw [List.map_cons, List.mem_cons, not_or] at absent
      rw [appendTo, if_neg (Ne.symm absent.1), ih absent.2]
      rfl

theorem entries_appendAll {registry : Registry α} {items : List α}
    (unique : (registry.names ++ items.map nameOf).Nodup) :
    (registry.appendAll nameOf items).entries =
      registry.entries ++ items.map (fun item => (nameOf item, ⟨item, []⟩)) := by
  induction items generalizing registry with
  | nil => simp [appendAll]
  | cons item rest ih =>
      have absent : nameOf item ∉ registry.names := by
        intro member
        exact (List.nodup_append'.1 unique).2.2 member (by simp)
      have added : (registry.append (nameOf item) item).entries =
          registry.entries ++ [(nameOf item, ⟨item, []⟩)] := appendTo_of_not_mem absent
      have names : (registry.append (nameOf item) item).names =
          registry.names ++ [nameOf item] := by
        rw [names_append, if_neg absent]
      have more := @ih (registry.append (nameOf item) item) (by
        rw [names]
        simpa using unique)
      rw [appendAll, List.foldl_cons, ← appendAll, more, added]
      simp

/-- Without a name that occurs twice, each item is the only definition of its name. -/
theorem entries_ofList {items : List α} (unique : (items.map nameOf).Nodup) :
    (ofList nameOf items).entries = items.map (fun item => (nameOf item, ⟨item, []⟩)) := by
  exact @entries_appendAll α nameOf .empty items (by simpa [names, empty] using unique)

theorem first?_ofList_eq_of_perm {items others : List α} (perm : items.Perm others)
    (unique : (items.map nameOf).Nodup) (name : String) :
    (ofList nameOf items).first? name = (ofList nameOf others).first? name := by
  rw [first?_ofList, first?_ofList, List.find?_eq_findSome?_guard,
    List.find?_eq_findSome?_guard]
  refine findSome?_eq_of_perm perm ?_
  refine (List.pairwise_map.1 unique).imp ?_
  intro first second different
  by_cases same : nameOf first = name
  · exact .inr (by simpa [Option.guard] using fun equal => different (same.trans equal.symm))
  · exact .inl (by simpa [Option.guard] using same)

end Registry

structure UniqueNames (schemas : List Schema) : Prop where
  complexTypes : ((schemas.flatMap Schema.complexTypes).map ComplexType.name).Nodup
  simpleTypes : ((schemas.flatMap Schema.simpleTypes).map SimpleType.name).Nodup
  elements : ((schemas.flatMap Schema.elements).map GlobalElement.name).Nodup

theorem UniqueNames.of_perm {schemas others : List Schema} (unique : UniqueNames schemas)
    (perm : schemas.Perm others) : UniqueNames others where
  complexTypes := ((perm.flatMap_right _).map _).nodup_iff.1 unique.complexTypes
  simpleTypes := ((perm.flatMap_right _).map _).nodup_iff.1 unique.simpleTypes
  elements := ((perm.flatMap_right _).map _).nodup_iff.1 unique.elements

instance (schemas : List Schema) : DecidablePred (DeclaresComplex schemas) := fun name =>
  inferInstanceAs (Decidable (∃ schema ∈ schemas, ∃ type ∈ schema.complexTypes, type.name = name))

def anonymousType? (schemas : List Schema) (element : GlobalElement) : Option ComplexType :=
  if DeclaresComplex schemas element.name then none else element.complexType

def outerTypes (schemas : List Schema) : List ComplexType :=
  schemas.flatMap Schema.complexTypes ++
    (schemas.flatMap Schema.elements).filterMap (anonymousType? schemas)

def synthesizedNames (schemas : List Schema) : List String :=
  (outerTypes schemas).flatMap (fun type => type.namesInside type.name)

/-- Nothing is declared twice, and no two types or global elements are for one class. -/
structure DeclaredOnce (schemas : List Schema) : Prop where
  unique : UniqueNames schemas
  synthesized : (synthesizedNames schemas).Nodup
  apart : ∀ name ∈ synthesizedNames schemas,
    ¬ DeclaresComplex schemas name ∧ firstElement? schemas name = none
  /-- No two global elements stand for the same class of the model. -/
  roots : ∀ kept ∈ (Generator.modelOf (.ofSchemas schemas)).value.2.classes,
    (schemas.flatMap Schema.elements).Pairwise (fun first second =>
      ¬ (standsFor? (Generator.modelOf (.ofSchemas schemas)).value.1 first.name first =
          some kept.originalName ∧
        standsFor? (Generator.modelOf (.ofSchemas schemas)).value.1 second.name second =
          some kept.originalName))

/-- Two models have the same artifacts and names; only the order of the artifacts may differ. -/
structure Model.SameArtifacts (model other : Model) : Prop where
  enums : model.enums.Perm other.enums
  classes : model.classes.Perm other.classes
  names : model.names.Perm other.names
  find?_names_eq : ∀ name, find? model.names name = find? other.names name

namespace Modelled

variable {schemas : List Schema} {run : Logged (Catalog × Model)}
variable {roots : List (String × RootElement)} {entered left : List Request}

theorem mergedTypes_eq (modelled : Modelled schemas run roots entered left)
    (unique : UniqueNames schemas) :
    run.value.1.mergedTypes =
      (schemas.flatMap Schema.complexTypes).map MergedType.ofDefinition := by
  unfold Catalog.mergedTypes
  rw [modelled.holds.complexTypes_eq, Registry.entries_ofList unique.complexTypes, List.map_map]
  rfl

theorem rootType?_eq (modelled : Modelled schemas run roots entered left)
    (element : GlobalElement) :
    rootType? run.value.1 element.name element =
      (anonymousType? schemas element).map (fun type => (element.name, type)) := by
  have declared := modelled.holds.declares_complexType element.name
  unfold rootType? anonymousType?
  by_cases known : run.value.1.complexTypes.contains element.name = true
  · rw [if_pos known, if_pos (declared.1 known), Option.map_none]
  · rw [if_neg known, if_neg (fun inside => known (declared.2 inside))]

theorem rootTypesOf_eq (modelled : Modelled schemas run roots entered left)
    (unique : UniqueNames schemas) :
    (rootTypesOf run.value.1).map Prod.snd =
      (schemas.flatMap Schema.elements).filterMap (anonymousType? schemas) := by
  unfold rootTypesOf
  rw [modelled.holds.elements_eq, Registry.entries_ofList unique.elements, List.filterMap_map,
    List.map_filterMap]
  refine List.filterMap_congr ?_
  intro element _
  show (rootType? run.value.1 element.name element).map Prod.snd = _
  rw [modelled.rootType?_eq, Option.map_map]
  exact Option.map_id'

/-- One class is requested at first for each type that is not written inside a particle. -/
theorem requestsOf_eq (modelled : Modelled schemas run roots entered left)
    (unique : UniqueNames schemas) :
    requestsOf run.value.1 =
      (outerTypes schemas).map (fun type => ⟨MergedType.ofDefinition type, false⟩) := by
  unfold requestsOf outerTypes
  rw [modelled.mergedTypes_eq unique, List.map_append, ← modelled.rootTypesOf_eq unique,
    List.map_map, List.map_map]
  rfl

/-- The enumerations are made from the simple types, one from each that is represented by one. -/
theorem enumsOf_eq (modelled : Modelled schemas run roots entered left)
    (unique : UniqueNames schemas) :
    enumsOf run.value.1 = (schemas.flatMap Schema.simpleTypes).filterMap (fun type =>
      match run.value.1.classify type with
      | .enumeration _ => some (enumOf run.value.1 type.name)
      | .primitive _ => none) := by
  unfold enumsOf
  rw [modelled.scalars_eq, Catalog.representations, modelled.holds.simpleTypes_eq,
    Registry.entries_ofList unique.simpleTypes, List.map_map, List.filterMap_map]
  rfl

theorem find?_roots_eq (modelled : Modelled schemas run roots entered left)
    (unique : UniqueNames schemas) (type : String) :
    find? roots type = (schemas.flatMap Schema.elements).findSome?
      (fun element => rootFor? run.value.1 type element.name element) := by
  rw [modelled.roots_eq, find?_roots_collectRoots, modelled.holds.elements_eq,
    Registry.entries_ofList unique.elements, List.findSome?_map]
  rfl

end Modelled

section Names

variable {schemas : List Schema}

theorem namesInside_eq (owner : String) (type : ComplexType) :
    type.namesInside owner = namesInsideAll owner type.elements := by
  obtain ⟨name, elements, attributes, base, text, uri, source⟩ := type
  rw [ComplexType.namesInside]

theorem declaresComplex_iff (schemas : List Schema) (name : String) :
    DeclaresComplex schemas name ↔
      name ∈ (schemas.flatMap Schema.complexTypes).map ComplexType.name := by
  simp only [DeclaresComplex, List.mem_map, List.mem_flatMap]
  constructor
  · rintro ⟨schema, inSchemas, type, declared, named⟩
    exact ⟨type, ⟨schema, inSchemas, declared⟩, named⟩
  · rintro ⟨type, ⟨schema, inSchemas, declared⟩, named⟩
    exact ⟨schema, inSchemas, type, declared, named⟩

/-- The type inside a global element bears its name, which no complex type has. -/
theorem anonymousType?_eq_some (read : ∀ schema ∈ schemas, schema.IsRead)
    {element : GlobalElement} {type : ComplexType}
    (global : element ∈ schemas.flatMap Schema.elements)
    (given : anonymousType? schemas element = some type) :
    type.name = element.name ∧ ¬ DeclaresComplex schemas element.name := by
  unfold anonymousType? at given
  split at given
  · cases given
  · next free =>
      obtain ⟨schema, inSchemas, inside⟩ := List.mem_flatMap.1 global
      exact ⟨(read schema inSchemas).names_inline inside given, free⟩

/-- A type that is not written inside a particle is declared under its name. -/
theorem declared_of_mem_outerTypes (read : ∀ schema ∈ schemas, schema.IsRead)
    {type : ComplexType} (outer : type ∈ outerTypes schemas) :
    DeclaresComplex schemas type.name ∨ ∃ element, firstElement? schemas type.name = some element := by
  rcases List.mem_append.1 outer with complex | anonymous
  · exact .inl ((declaresComplex_iff _ _).2 (List.mem_map_of_mem complex))
  · obtain ⟨element, global, given⟩ := List.mem_filterMap.1 anonymous
    obtain ⟨named, _⟩ := anonymousType?_eq_some read global given
    refine .inr (Option.isSome_iff_exists.1 ?_)
    rw [firstElement?, List.find?_isSome]
    exact ⟨element, global, by simp [named]⟩

theorem nodup_outerTypes (read : ∀ schema ∈ schemas, schema.IsRead)
    (unique : UniqueNames schemas) : ((outerTypes schemas).map ComplexType.name).Nodup := by
  rw [outerTypes, List.map_append, List.nodup_append']
  refine ⟨unique.complexTypes, ?_, ?_⟩
  · refine List.pairwise_map.2 (List.pairwise_filterMap.2 ?_)
    refine (List.pairwise_map.1 unique.elements).imp_of_mem ?_
    intro first second firstIn secondIn different type given other otherGiven
    rw [(anonymousType?_eq_some read firstIn given).1,
      (anonymousType?_eq_some read secondIn otherGiven).1]
    exact different
  · intro name complex anonymous
    obtain ⟨type, inside, rfl⟩ := List.mem_map.1 anonymous
    obtain ⟨element, global, given⟩ := List.mem_filterMap.1 inside
    obtain ⟨named, free⟩ := anonymousType?_eq_some read global given
    exact free (named ▸ (declaresComplex_iff _ _).2 complex)

/-- Where nothing is declared twice, no two classes are requested under one name. -/
theorem nodup_names_all (read : ∀ schema ∈ schemas, schema.IsRead)
    (once : DeclaredOnce schemas) :
    ((((outerTypes schemas).map (fun type => (⟨MergedType.ofDefinition type, false⟩ : Request))
      ).flatMap Request.all).map Request.name).Nodup := by
  have names : ((((outerTypes schemas).map
      (fun type => (⟨MergedType.ofDefinition type, false⟩ : Request))
      ).flatMap Request.all).map Request.name) =
      (outerTypes schemas).flatMap (fun type => type.name :: type.namesInside type.name) := by
    rw [List.flatMap_map, List.map_flatMap]
    refine List.flatMap_congr ?_
    intro type _
    rw [Request.names_all, namesInside_eq]
    rfl
  rw [names]
  refine (List.map_append_flatMap_perm (outerTypes schemas) ComplexType.name
    (fun type => type.namesInside type.name)).nodup_iff.1 ?_
  refine List.nodup_append'.2 ⟨nodup_outerTypes read once.unique, once.synthesized, ?_⟩
  intro name outer inside
  obtain ⟨type, outerType, rfl⟩ := List.mem_map.1 outer
  obtain ⟨noComplex, noElement⟩ := once.apart type.name inside
  rcases declared_of_mem_outerTypes read outerType with complex | ⟨element, global⟩
  · exact noComplex complex
  · rw [noElement] at global
    cases global

end Names

section Permuted

variable {schemas others : List Schema} (perm : schemas.Perm others)
include perm

theorem anonymousType?_eq_of_perm : anonymousType? schemas = anonymousType? others := by
  funext element
  have same : DeclaresComplex schemas element.name ↔ DeclaresComplex others element.name := by
    rw [declaresComplex_iff, declaresComplex_iff]
    exact ((perm.flatMap_right _).map _).mem_iff
  unfold anonymousType?
  simp only [same]

theorem outerTypes_perm : (outerTypes schemas).Perm (outerTypes others) := by
  unfold outerTypes
  rw [anonymousType?_eq_of_perm perm]
  exact (perm.flatMap_right _).append ((perm.flatMap_right _).filterMap _)

variable {run otherRun : Logged (Catalog × Model)}
variable {roots otherRoots : List (String × RootElement)}
variable {entered left otherEntered otherLeft : List Request}
variable (modelled : Modelled schemas run roots entered left)
variable (other : Modelled others otherRun otherRoots otherEntered otherLeft)
include modelled other

namespace Modelled

/-- Catalogues of the same schemas are alike, whatever the order of registration. -/
theorem resembles (unique : UniqueNames schemas) :
    run.value.1.Resembles otherRun.value.1 where
  contains_complexType_eq name := by
    rw [Bool.eq_iff_iff, modelled.holds.declares_complexType, other.holds.declares_complexType,
      declaresComplex_iff, declaresComplex_iff]
    exact ((perm.flatMap_right _).map _).mem_iff
  first_simpleType_eq name := by
    rw [modelled.holds.simpleTypes_eq, other.holds.simpleTypes_eq]
    exact Registry.first?_ofList_eq_of_perm (perm.flatMap_right _) unique.simpleTypes name
  first_element_eq name := by
    rw [modelled.holds.elements_eq, other.holds.elements_eq]
    exact Registry.first?_ofList_eq_of_perm (perm.flatMap_right _) unique.elements name
  computed := modelled.scalars_eq
  otherComputed := other.scalars_eq

theorem rootFor?_eq (unique : UniqueNames schemas) (type name : String)
    (element : GlobalElement) :
    rootFor? run.value.1 type name element = rootFor? otherRun.value.1 type name element := by
  have alike := modelled.resembles perm other unique
  unfold rootFor? standsFor?
  simp only [alike.contains_complexType_eq, alike.targetOf_eq]

/-- A type that one global element at most stands for has the same root in any order. -/
theorem root_eq (unique : UniqueNames schemas) {type : String}
    (once : (schemas.flatMap Schema.elements).Pairwise (fun first second =>
      ¬ (standsFor? run.value.1 first.name first = some type ∧
        standsFor? run.value.1 second.name second = some type))) :
    find? roots type = find? otherRoots type := by
  have atMostOne : (schemas.flatMap Schema.elements).Pairwise (fun first second =>
      rootFor? run.value.1 type first.name first = none ∨
        rootFor? run.value.1 type second.name second = none) := by
    refine once.imp ?_
    intro first second notBoth
    unfold rootFor?
    by_cases stands : standsFor? run.value.1 first.name first = some type
    · exact .inr (if_neg (fun otherStands => notBoth ⟨stands, otherStands⟩))
    · exact .inl (if_neg stands)
  rw [modelled.find?_roots_eq unique, other.find?_roots_eq (unique.of_perm perm),
    findSome?_eq_of_perm (perm.flatMap_right Schema.elements) atMostOne]
  simp only [modelled.rootFor?_eq perm other unique]

theorem enums_perm (unique : UniqueNames schemas) :
    run.value.2.enums.Perm otherRun.value.2.enums := by
  have alike := modelled.resembles perm other unique
  rw [modelled.enums_eq, other.enums_eq, modelled.enumsOf_eq unique,
    other.enumsOf_eq (unique.of_perm perm)]
  unfold enumOf
  simp only [alike.classify_eq, alike.first_simpleType_eq]
  exact (perm.flatMap_right _).filterMap _

/-- The same requests are served, and each is served by the same class. -/
theorem classes_perm (unique : UniqueNames schemas)
    (distinct : ((((outerTypes schemas).map
      (fun type => (⟨MergedType.ofDefinition type, false⟩ : Request))).flatMap
        Request.all).map Request.name).Nodup)
    (sameRoots : ∀ request ∈ entered,
      find? roots request.type.name = find? otherRoots request.type.name) :
    run.value.2.classes.Perm otherRun.value.2.classes := by
  have alike := modelled.resembles perm other unique
  have requests := modelled.requestsOf_eq unique
  have otherRequests := other.requestsOf_eq (unique.of_perm perm)
  have served : entered = (requestsOf run.value.1).flatMap Request.all :=
    modelled.traversal.entered_eq Request.all_eq (by
      rw [requests, List.append_nil]
      exact distinct)
  have outer : (requestsOf run.value.1).Perm (requestsOf otherRun.value.1) := by
    rw [requests, otherRequests]
    exact (outerTypes_perm perm).map _
  have otherServed : otherEntered = (requestsOf otherRun.value.1).flatMap Request.all :=
    other.traversal.entered_eq Request.all_eq (by
      rw [List.append_nil]
      refine ((outer.flatMap_right Request.all).map Request.name).nodup_iff.1 ?_
      rw [requests]
      exact distinct)
  have same : left.map (classOf run.value.1 roots) =
      left.map (classOf otherRun.value.1 otherRoots) := by
    refine List.map_congr_left ?_
    intro request member
    exact alike.classOf_eq (sameRoots request (modelled.traversal.perm.mem_iff.2 member))
  rw [modelled.classes_eq, other.classes_eq, same]
  refine List.Perm.map _ (modelled.traversal.perm.symm.trans (.trans ?_ other.traversal.perm))
  rw [served, otherServed]
  exact outer.flatMap_right _

end Modelled

end Permuted

/--
Schemas that declare nothing twice have the same model in any order, but for the
order of its artifacts.
-/
theorem modelOf_perm {schemas others : List Schema} (read : ∀ schema ∈ schemas, schema.IsRead)
    (once : DeclaredOnce schemas) (perm : schemas.Perm others) :
    (Generator.modelOf (.ofSchemas schemas)).value.2.SameArtifacts
      (Generator.modelOf (.ofSchemas others)).value.2 := by
  obtain ⟨roots, entered, left, modelled⟩ := exists_modelled schemas
  obtain ⟨otherRoots, otherEntered, otherLeft, other⟩ := exists_modelled others
  have enums := modelled.enums_perm perm other once.unique
  have classes := modelled.classes_perm perm other once.unique (nodup_names_all read once) (by
    intro request served
    exact modelled.root_eq perm other once.unique
      (once.roots _ ((modelled.mem_classes_iff _).2 ⟨request, served, rfl⟩)))
  have represented : ∀ type,
      type ∈ (Generator.modelOf (.ofSchemas others)).value.2.represented ↔
        type ∈ (Generator.modelOf (.ofSchemas schemas)).value.2.represented := fun type =>
    ((enums.map _).append (classes.map _)).mem_iff.symm
  have named := isNamed_modelOf (.ofSchemas schemas)
  have otherNamed := isNamed_modelOf (.ofSchemas others)
  refine ⟨enums, classes, named.perm otherNamed represented, ?_⟩
  intro name
  rw [named.find?_eq, otherNamed.find?_eq]
  simp only [represented]

open Schema in
/-- A schema with an enumeration, a type inside a particle and a global element for a type. -/
def lampSchema : Schema :=
  (ofDeclarations? (.ofString "lamp.xsd") [
    declaration "simpleType" [("name", "Tint")] [
      declaration "restriction" [("base", "Word")] [
        declaration "enumeration" [("value", "warm")] []]],
    declaration "complexType" [("name", "Lamp")] [
      declaration "sequence" [] [
        declaration "element" [("name", "tint"), ("type", "Tint")] [],
        declaration "element" [("name", "shade")] [
          declaration "complexType" [] [declaration "attribute" [("name", "width")] []]]]],
    declaration "element" [("name", "lamp"), ("type", "Lamp")] []]).getD default

open Schema in
def deskSchema : Schema :=
  (ofDeclarations? (.ofString "desk.xsd") [
    declaration "element" [("name", "Desk")] [
      declaration "complexType" [] [
        declaration "sequence" [] [
          declaration "element" [("name", "lamp"), ("type", "Lamp")] []]]]]).getD default

theorem modelOf_perm_lampSchema :
    (∀ schema ∈ [lampSchema, deskSchema], schema.IsRead) ∧
      DeclaredOnce [lampSchema, deskSchema] ∧
      (Generator.modelOf (.ofSchemas [lampSchema, deskSchema])).value.2.SameArtifacts
        (Generator.modelOf (.ofSchemas [deskSchema, lampSchema])).value.2 ∧
      (Generator.modelOf (.ofSchemas [lampSchema, deskSchema])).value.2.classes.map
          (fun kept => (kept.originalName, kept.root.map RootElement.name)) =
        [("Lamp_shadeType", none), ("Lamp", some "lamp"), ("Desk", some "Desk")] := by
  have read : ∀ schema ∈ [lampSchema, deskSchema], schema.IsRead := by
    intro schema member
    simp only [List.mem_cons, List.not_mem_nil, or_false] at member
    rcases member with rfl | rfl
    · exact Schema.isRead_getD_ofDeclarations? (by decide +kernel)
    · exact Schema.isRead_getD_ofDeclarations? (by decide +kernel)
  have once : DeclaredOnce [lampSchema, deskSchema] := {
    unique := ⟨by decide +kernel, by decide +kernel, by decide +kernel⟩
    synthesized := by decide +kernel
    apart := by decide +kernel
    roots := by decide +kernel }
  exact ⟨read, once, modelOf_perm read once (.swap deskSchema lampSchema []), by decide +kernel⟩

end SchemaBinding
