import SchemaBinding.Proofs.Reading
import SchemaBinding.Proofs.Resemblance
import SchemaBinding.Proofs.Resolution
import SchemaBinding.Proofs.Roots

/-!
# Root elements

Of the global elements that stand for a class, the first one is its root: in the
order of registration, and by the first definition of its name.  An element stands
for the structure that its type names or, if a type is written inside it, for that
type, unless a complex type has the name of the element.
-/

namespace SchemaBinding

open Emission

/--
A reference to a builtin type: it is in the namespace of the schema language, or it
is in no namespace and has the name of a builtin type.  Then its label is not bound,
or no schema declares a type of that name.
-/
def NamesBuiltin (schemas : List Schema) (reference : QName) : Prop :=
  reference.uri = some xsdNamespace ∨
    reference.uri = none ∧ isBuiltinName reference.localName = true ∧
      (reference.unbound = true ∨
        ¬ DeclaresSimple schemas reference.localName ∧
          ¬ DeclaresComplex schemas reference.localName)

/-- A reference to a structure: its local name is that of no builtin and of no simple type. -/
def NamesStructure (schemas : List Schema) (reference : QName) (name : String) : Prop :=
  reference.localName = name ∧ ¬ NamesBuiltin schemas reference ∧ ¬ DeclaresSimple schemas name

def firstElements (schemas : List Schema) : List GlobalElement :=
  ((schemas.flatMap Schema.elements).map GlobalElement.name).eraseDups.filterMap
    (firstElement? schemas)

/-- The structure of a name is inside a global element, or it is the type of the element. -/
def StandsFor (schemas : List Schema) (element : GlobalElement) (name : String) : Prop :=
  match element.complexType with
  | some _ => element.name = name ∧ ¬ DeclaresComplex schemas name
  | none => ∃ reference, element.typeName = some reference ∧
      NamesStructure schemas reference name

/-- The root for a name is the first of the global elements that stand for it. -/
def BindsRoot (schemas : List Schema) (name : String) (root : RootElement) : Prop :=
  ∃ before element after, firstElements schemas = before ++ element :: after ∧
    StandsFor schemas element name ∧ root = ⟨element.name, element.targetNamespace⟩ ∧
    ∀ other ∈ before, ¬ StandsFor schemas other name

section Resolving

variable {schemas : List Schema} {catalog : Catalog}

theorem isBuiltin_iff (holds : catalog.Holds schemas) (reference : QName) :
    catalog.isBuiltin reference = true ↔ NamesBuiltin schemas reference := by
  unfold Catalog.isBuiltin NamesBuiltin QName.isXsd
  rw [← holds.declares_simpleType, ← holds.declares_complexType]
  simp [and_assoc]

/-- What is no builtin type and no simple type is a structure, and nothing else is one. -/
theorem targetOf_eq_structural_iff (holds : catalog.Holds schemas)
    (computed : catalog.scalars = catalog.representations) (reference : QName) (name : String) :
    catalog.targetOf reference = .structural name ↔ NamesStructure schemas reference name := by
  unfold NamesStructure
  rw [← isBuiltin_iff holds, ← holds.declares_simpleType]
  constructor
  · intro target
    obtain ⟨rfl, undeclared⟩ := Catalog.targetOf_eq_structural target
    refine ⟨rfl, fun builtin => ?_, by simp [undeclared]⟩
    rw [Catalog.targetOf, if_pos builtin] at target
    cases target
  · rintro ⟨rfl, foreign, undeclared⟩
    have uncomputed : catalog.scalar? reference.localName = none := by
      rw [Catalog.scalar?_eq_map computed, Option.map_eq_none_iff, ← Option.not_isSome_iff_eq_none,
        ← Catalog.contains_simpleType]
      exact undeclared
    rw [Catalog.targetOf, if_neg foreign, uncomputed]
    dsimp only
    rw [if_neg undeclared]

theorem standsFor?_eq_some_iff (holds : catalog.Holds schemas)
    (computed : catalog.scalars = catalog.representations) (element : GlobalElement)
    (name : String) :
    standsFor? catalog element.name element = some name ↔ StandsFor schemas element name := by
  unfold standsFor? StandsFor
  cases element.complexType with
  | some type =>
      dsimp only
      rw [← holds.declares_complexType]
      split
      · next known =>
          refine iff_of_false (by simp) ?_
          rintro ⟨rfl, free⟩
          exact free known
      · next free =>
          rw [Option.some_inj]
          constructor
          · rintro rfl
            exact ⟨rfl, free⟩
          · exact And.left
  | none =>
      cases element.typeName with
      | none => simp
      | some reference =>
          simp only [Option.some_inj, exists_eq_left', ← targetOf_eq_structural_iff holds computed]
          cases catalog.targetOf reference <;> simp

end Resolving

/-- The entries of global elements begin with their first definitions. -/
theorem map_first_elements {schemas : List Schema} {catalog : Catalog}
    (holds : catalog.Holds schemas) :
    catalog.elements.entries.map (·.2.first) = firstElements schemas := by
  have names : catalog.elements.names =
      ((schemas.flatMap Schema.elements).map GlobalElement.name).eraseDups := by
    rw [holds.elements_eq, Registry.names_ofList]
  have unique : catalog.elements.names.Nodup := by
    rw [holds.elements_eq]
    exact Registry.nodup_names_ofList _ _
  rw [firstElements, ← names, Registry.names, List.filterMap_map, ← List.filterMap_eq_map]
  refine List.filterMap_congr ?_
  rintro ⟨name, definitions⟩ member
  have found := Registry.first?_of_mem unique member
  rw [holds.first_element] at found
  exact found.symm

namespace Modelled

variable {schemas : List Schema} {run : Logged (Catalog × Model)}
variable {roots : List (String × RootElement)} {entered left : List Request}

/-- The root for a name is told by the first definitions of the global elements. -/
theorem find?_roots_eq_firstElements (modelled : Modelled schemas run roots entered left)
    (name : String) :
    find? roots name = (firstElements schemas).findSome?
      (fun element => rootFor? run.value.1 name element.name element) := by
  rw [modelled.roots_eq, find?_roots_collectRoots, ← map_first_elements modelled.holds,
    List.findSome?_map, ← List.head?_filterMap, ← List.head?_filterMap]
  refine congrArg List.head? (List.filterMap_congr ?_)
  rintro ⟨key, definitions⟩ member
  rw [modelled.holds.elements_eq] at member
  have named : definitions.first.name = key :=
    Registry.name_first_of_mem_ofList GlobalElement.name member
  rw [Function.comp_apply, named]

theorem rootFor?_eq_some_iff (modelled : Modelled schemas run roots entered left)
    (element : GlobalElement) (name : String) (root : RootElement) :
    rootFor? run.value.1 name element.name element = some root ↔
      StandsFor schemas element name ∧ root = ⟨element.name, element.targetNamespace⟩ := by
  rw [← standsFor?_eq_some_iff modelled.holds modelled.scalars_eq, rootFor?]
  split
  · next stands => simp [stands, eq_comm]
  · next other => simp [other]

theorem rootFor?_eq_none_iff (modelled : Modelled schemas run roots entered left)
    (element : GlobalElement) (name : String) :
    rootFor? run.value.1 name element.name element = none ↔ ¬ StandsFor schemas element name := by
  rw [← standsFor?_eq_some_iff modelled.holds modelled.scalars_eq, rootFor?]
  simp

end Modelled

/-- A class has the first global element that stands for it as its root, if there is one. -/
theorem root_eq_some_iff {schemas : List Schema} {kept : ClassModel}
    (member : kept ∈ (Generator.modelOf (.ofSchemas schemas)).value.2.classes)
    (root : RootElement) :
    kept.root = some root ↔ BindsRoot schemas kept.originalName root := by
  obtain ⟨roots, entered, left, modelled⟩ := exists_modelled schemas
  obtain ⟨request, _, rfl⟩ := (modelled.mem_classes_iff kept).1 member
  change find? roots request.type.name = some root ↔ BindsRoot schemas request.type.name root
  rw [modelled.find?_roots_eq_firstElements, List.findSome?_eq_some_iff]
  unfold BindsRoot
  simp only [modelled.rootFor?_eq_some_iff, modelled.rootFor?_eq_none_iff, and_assoc]

theorem root_eq_none_iff {schemas : List Schema} {kept : ClassModel}
    (member : kept ∈ (Generator.modelOf (.ofSchemas schemas)).value.2.classes) :
    kept.root = none ↔
      ∀ element ∈ firstElements schemas, ¬ StandsFor schemas element kept.originalName := by
  obtain ⟨roots, entered, left, modelled⟩ := exists_modelled schemas
  obtain ⟨request, _, rfl⟩ := (modelled.mem_classes_iff kept).1 member
  change find? roots request.type.name = none ↔
    ∀ element ∈ firstElements schemas, ¬ StandsFor schemas element request.type.name
  rw [modelled.find?_roots_eq_firstElements, List.findSome?_eq_none_iff]
  simp only [modelled.rootFor?_eq_none_iff]

section More

def DeclareElementsOnly (schemas : List Schema) : Prop :=
  ∀ schema ∈ schemas, schema.complexTypes = [] ∧ schema.simpleTypes = []

variable {schemas more : List Schema} (elementsOnly : DeclareElementsOnly more)
include elementsOnly

theorem standsFor_append_iff (element : GlobalElement) (name : String) :
    StandsFor (schemas ++ more) element name ↔ StandsFor schemas element name := by
  have complex : ∀ name, DeclaresComplex (schemas ++ more) name ↔ DeclaresComplex schemas name := by
    intro name
    unfold DeclaresComplex
    simp only [List.mem_append, or_and_right, exists_or, or_iff_left_iff_imp]
    rintro ⟨schema, among, type, declared, _⟩
    rw [(elementsOnly schema among).1] at declared
    cases declared
  have simple : ∀ name, DeclaresSimple (schemas ++ more) name ↔ DeclaresSimple schemas name := by
    intro name
    unfold DeclaresSimple
    simp only [List.mem_append, or_and_right, exists_or, or_iff_left_iff_imp]
    rintro ⟨schema, among, type, declared, _⟩
    rw [(elementsOnly schema among).2] at declared
    cases declared
  unfold StandsFor NamesStructure NamesBuiltin
  simp only [complex, simple]

omit elementsOnly

/-- The first definitions stay the first ones when more is registered. -/
theorem firstElements_prefix (schemas more : List Schema) :
    firstElements schemas <+: firstElements (schemas ++ more) := by
  have kept : firstElements schemas =
      ((schemas.flatMap Schema.elements).map GlobalElement.name).eraseDups.filterMap
        (firstElement? (schemas ++ more)) := by
    refine List.filterMap_congr ?_
    intro name member
    obtain ⟨element, among, rfl⟩ := List.mem_map.1 (List.mem_eraseDups.1 member)
    have known : (firstElement? schemas element.name).isSome = true := by
      rw [firstElement?, List.find?_isSome]
      exact ⟨element, among, by simp⟩
    obtain ⟨first, found⟩ := Option.isSome_iff_exists.1 known
    rw [found, firstElement?, List.flatMap_append, List.find?_append,
      show (schemas.flatMap Schema.elements).find? (·.name == element.name) = some first from found,
      Option.some_or]
  rw [kept, firstElements, List.flatMap_append, List.map_append, List.eraseDups_append,
    List.filterMap_append]
  exact List.prefix_append _ _

include elementsOnly

/-- A root is kept when elements are registered that come later. -/
theorem BindsRoot.append {name : String} {root : RootElement}
    (binds : BindsRoot schemas name root) : BindsRoot (schemas ++ more) name root := by
  obtain ⟨before, element, after, split, stands, rfl, none⟩ := binds
  obtain ⟨later, all⟩ := firstElements_prefix schemas more
  refine ⟨before, element, after ++ later, ?_, (standsFor_append_iff elementsOnly _ _).2 stands,
    rfl, fun other member => ?_⟩
  · rw [← all, split, List.append_assoc, List.cons_append]
  · rw [standsFor_append_iff elementsOnly]
    exact none other member

end More

/-- The roots of the classes in the model for schemas. -/
structure RootsBound (schemas : List Schema) (classes : List ClassModel) : Prop where
  root_iff : ∀ kept ∈ classes, ∀ root,
    kept.root = some root ↔ BindsRoot schemas kept.originalName root
  no_root_iff : ∀ kept ∈ classes, kept.root = none ↔
    ∀ element ∈ firstElements schemas, ¬ StandsFor schemas element kept.originalName
  /-- Elements that are registered later take no root from a class. -/
  stays : ∀ kept ∈ classes, ∀ root, kept.root = some root →
    ∀ more, DeclareElementsOnly more →
      ∀ other ∈ (Generator.modelOf (.ofSchemas (schemas ++ more))).value.2.classes,
        other.originalName = kept.originalName → other.root = some root

/-- The first global element that stands for a class is its root. -/
theorem modelOf_bindsRoots (schemas : List Schema) :
    RootsBound schemas (Generator.modelOf (.ofSchemas schemas)).value.2.classes where
  root_iff _ member root := root_eq_some_iff member root
  no_root_iff _ member := root_eq_none_iff member
  stays kept member root given more elementsOnly other among same := by
    have binds := ((root_eq_some_iff member root).1 given).append elementsOnly
    rw [← same] at binds
    exact (root_eq_some_iff among root).2 binds

open Schema in
/-- Two elements for one class: the first names its type, the other one has the type inside. -/
def potterySchema : Schema :=
  (ofDeclarations? (.ofString "pottery.xsd") [
    declaration "element" [("name", "pot"), ("type", "Vase")] [],
    declaration "element" [("name", "Vase")] [
      declaration "complexType" [] []],
    declaration "element" [("name", "Lid")] [
      declaration "complexType" [] []]]).getD default

theorem modelOf_bindsRoots_potterySchema :
    RootsBound [potterySchema] (Generator.modelOf (.ofSchemas [potterySchema])).value.2.classes ∧
      (Generator.modelOf (.ofSchemas [potterySchema])).value.2.classes.map
          (fun kept => (kept.originalName, kept.root)) =
        [("Vase", some ⟨"pot", none⟩), ("Lid", some ⟨"Lid", none⟩)] :=
  ⟨modelOf_bindsRoots [potterySchema], by decide +kernel⟩

end SchemaBinding
