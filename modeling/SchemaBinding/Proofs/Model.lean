import SchemaBinding.Generator
import SchemaBinding.Proofs.Emission
import SchemaBinding.Proofs.Folding

/-!
# The model of registered schemas

The run that builds a model, from the schemas to the model: which tables it works
with, which classes are requested of it and which requests it serves.
-/

namespace SchemaBinding

namespace Emission

variable (catalog : Catalog)

/-- The type inside a global element, unless a complex type has the name of the element. -/
def rootType? (name : String) (element : GlobalElement) : Option (String × ComplexType) :=
  if catalog.complexTypes.contains name then none
  else element.complexType.map (fun type => (name, type))

def rootTypesOf : List (String × ComplexType) :=
  catalog.elements.entries.filterMap (fun entry => rootType? catalog entry.1 entry.2.first)

theorem rootType?_eq_some {name : String} {element : GlobalElement}
    {root : String × ComplexType} (chosen : rootType? catalog name element = some root) :
    root.1 = name ∧ element.complexType = some root.2 ∧
      catalog.complexTypes.contains name = false := by
  unfold rootType? at chosen
  split at chosen
  · cases chosen
  · next free =>
      obtain ⟨type, given, rfl⟩ := Option.map_eq_some_iff.1 chosen
      exact ⟨rfl, given, by simpa using free⟩

theorem names_rootType?_sublist (name : String) (element : GlobalElement) :
    ((rootType? catalog name element).toList.map Prod.fst).Sublist [name] := by
  cases chosen : rootType? catalog name element with
  | none => exact List.nil_sublist _
  | some root =>
      obtain ⟨named, _, _⟩ := rootType?_eq_some catalog chosen
      simp [named]

/-- The classes that are requested at first: for merged types, then for global elements. -/
def requestsOf : List Request :=
  catalog.mergedTypes.map (⟨·, false⟩) ++
    (rootTypesOf catalog).map (fun entry => ⟨MergedType.ofDefinition entry.2, false⟩)

theorem names_rootTypesOf_sublist :
    ((rootTypesOf catalog).map Prod.fst).Sublist catalog.elements.names := by
  rw [rootTypesOf, Registry.names, List.filterMap_eq_flatMap_toList]
  induction catalog.elements.entries with
  | nil => exact .slnil
  | cons entry rest ih =>
      rw [List.flatMap_cons, List.map_append, List.map_cons, ← List.singleton_append]
      exact (names_rootType?_sublist catalog entry.1 entry.2.first).append ih

theorem not_contains_of_mem_rootTypesOf {entry : String × ComplexType}
    (member : entry ∈ rootTypesOf catalog) : catalog.complexTypes.contains entry.1 = false := by
  obtain ⟨element, _, chosen⟩ := List.mem_filterMap.1 member
  obtain ⟨named, _, free⟩ := rootType?_eq_some catalog chosen
  rw [named]
  exact free

def enumsOf : List EnumModel :=
  catalog.scalars.filterMap (fun entry =>
    match entry.2 with
    | .enumeration _ => some (enumOf catalog entry.1)
    | .primitive _ => none)

theorem find?_isSome_iff {α : Type} {pairs : List (String × α)} {key : String} :
    (find? pairs key).isSome = true ↔ key ∈ pairs.map Prod.fst := by
  rw [find?, Option.isSome_map, List.find?_isSome]
  simp

def withRoots (emission : Emission) (rootTypes : List (String × ComplexType))
    (roots : List (String × RootElement)) : Emission :=
  { emission with rootTypes, roots }

theorem exists_addRoot (emission : Emission) (rootTypes : List (String × ComplexType))
    (roots : List (String × RootElement)) (type : String) (element : GlobalElement) :
    ∃ others, (emission.withRoots rootTypes roots).addRoot type element =
      emission.withRoots rootTypes others := by
  unfold addRoot
  split
  · exact ⟨roots, rfl⟩
  · exact ⟨_, rfl⟩

theorem exists_withRoots_addRoot (emission : Emission) (type : String)
    (element : GlobalElement) :
    ∃ rootTypes roots, emission.addRoot type element = emission.withRoots rootTypes roots := by
  obtain ⟨roots, equal⟩ := exists_addRoot emission emission.rootTypes emission.roots type element
  exact ⟨emission.rootTypes, roots, equal⟩

theorem exists_withRoots_addRootType (emission : Emission) (name : String)
    (type : ComplexType) :
    ∃ rootTypes, emission.addRootType name type = emission.withRoots rootTypes emission.roots := by
  unfold addRootType
  split
  · exact ⟨_, rfl⟩
  · exact ⟨_, rfl⟩

theorem exists_withRoots_collectRoot (emission : Emission) (name : String)
    (element : GlobalElement) :
    ∃ rootTypes roots,
      (emission.collectRoot catalog name element).value = emission.withRoots rootTypes roots := by
  unfold collectRoot
  cases element.complexType with
  | some type =>
      dsimp only
      split
      · exact ⟨emission.rootTypes, emission.roots, rfl⟩
      · obtain ⟨others, typed⟩ := exists_withRoots_addRootType emission name type
        rw [typed]
        exact exists_withRoots_addRoot (emission.withRoots others emission.roots) name element
  | none =>
      cases element.typeName with
      | none => exact ⟨emission.rootTypes, emission.roots, rfl⟩
      | some ref =>
          dsimp only
          split
          · exact exists_withRoots_addRoot emission _ element
          · exact ⟨emission.rootTypes, emission.roots, rfl⟩

/-- Collecting roots changes nothing but the roots and the types inside them. -/
theorem exists_withRoots_collectRoots (emission : Emission) :
    ∃ rootTypes roots,
      (emission.collectRoots catalog).value = emission.withRoots rootTypes roots := by
  rw [collectRoots, Logged.value_foldlM]
  refine List.foldlRecOn
    (motive := fun state => ∃ rootTypes roots, state = emission.withRoots rootTypes roots)
    catalog.elements.entries _ ⟨emission.rootTypes, emission.roots, rfl⟩ ?_
  rintro _ ⟨rootTypes, roots, rfl⟩ entry _
  obtain ⟨others, more, equal⟩ := exists_withRoots_collectRoot catalog
    (emission.withRoots rootTypes roots) entry.1 entry.2.first
  exact ⟨others, more, equal⟩

theorem exists_collectRoot (emission : Emission) {rootTypes : List (String × ComplexType)}
    (roots : List (String × RootElement)) {name : String} (element : GlobalElement)
    (absent : name ∉ rootTypes.map Prod.fst) :
    ∃ others, ((emission.withRoots rootTypes roots).collectRoot catalog name element).value =
      emission.withRoots (rootTypes ++ (rootType? catalog name element).toList) others := by
  unfold collectRoot rootType?
  cases element.complexType with
  | none =>
      rw [Option.map_none, ite_self, Option.toList_none, List.append_nil]
      cases element.typeName with
      | none => exact ⟨roots, rfl⟩
      | some ref =>
          dsimp only
          split
          · exact exists_addRoot emission rootTypes roots _ element
          · exact ⟨roots, rfl⟩
  | some type =>
      dsimp only
      split
      · exact ⟨roots, by simp; rfl⟩
      · have added : (emission.withRoots rootTypes roots).addRootType name type =
            emission.withRoots (rootTypes ++ [(name, type)]) roots := by
          unfold addRootType
          rw [if_neg (by simpa [find?_isSome_iff, withRoots] using absent)]
          rfl
        rw [added]
        exact exists_addRoot emission (rootTypes ++ [(name, type)]) roots name element

theorem exists_foldl_collectRoot (emission : Emission)
    (rootTypes : List (String × ComplexType)) (roots : List (String × RootElement))
    (entries : List (String × Definitions GlobalElement))
    (unique : (rootTypes.map Prod.fst ++ entries.map Prod.fst).Nodup) :
    ∃ others, entries.foldl (fun state entry =>
        (state.collectRoot catalog entry.1 entry.2.first).value)
        (emission.withRoots rootTypes roots) =
      emission.withRoots
        (rootTypes ++ entries.filterMap (fun entry => rootType? catalog entry.1 entry.2.first))
        others := by
  induction entries generalizing rootTypes roots with
  | nil => exact ⟨roots, by simp⟩
  | cons entry rest ih =>
      have absent : entry.1 ∉ rootTypes.map Prod.fst := by
        intro member
        exact (List.nodup_append'.1 unique).2.2 member (by simp)
      obtain ⟨kept, step⟩ := exists_collectRoot catalog emission roots entry.2.first absent
      have stillUnique : ((rootTypes ++ (rootType? catalog entry.1 entry.2.first).toList).map
          Prod.fst ++ rest.map Prod.fst).Nodup := by
        rw [List.map_append, List.append_assoc]
        rw [List.map_cons, ← List.singleton_append] at unique
        have names := names_rootType?_sublist catalog entry.1 entry.2.first
        exact unique.sublist ((List.Sublist.refl _).append (names.append (.refl _)))
      obtain ⟨others, all⟩ := ih _ kept stillUnique
      refine ⟨others, ?_⟩
      rw [List.foldl_cons, step, all, List.filterMap_cons, List.append_assoc]
      cases rootType? catalog entry.1 entry.2.first <;> rfl

/-- Collecting roots keeps the types inside global elements that get a class. -/
theorem exists_collectRoots (unique : catalog.elements.names.Nodup) :
    ∃ roots, (empty.collectRoots catalog).value =
      empty.withRoots (rootTypesOf catalog) roots := by
  obtain ⟨roots, all⟩ := exists_foldl_collectRoot catalog empty [] [] catalog.elements.entries
    (by simpa [Registry.names] using unique)
  refine ⟨roots, ?_⟩
  rw [collectRoots, Logged.value_foldlM]
  exact all

theorem exists_foldl_addEnum (emission : Emission) (scalars : List (String × ScalarType)) :
    ∃ names, scalars.foldl (fun emission (entry : String × ScalarType) =>
        match entry.2 with
        | .enumeration _ => emission.addEnum catalog entry.1
        | .primitive _ => emission) emission =
      { emission with
        model := { emission.model with
          names
          enums := emission.model.enums ++ scalars.filterMap (fun entry =>
            match entry.2 with
            | .enumeration _ => some (enumOf catalog entry.1)
            | .primitive _ => none) } } := by
  induction scalars generalizing emission with
  | nil => exact ⟨emission.model.names, by simp⟩
  | cons entry rest ih =>
      obtain ⟨name, type⟩ := entry
      cases type with
      | primitive kind => exact ih emission
      | enumeration other =>
          obtain ⟨names, all⟩ := ih (emission.addEnum catalog name)
          refine ⟨names, ?_⟩
          rw [List.foldl_cons]
          refine all.trans ?_
          simp [addEnum, nameEnum, Model.rename]

/-- Enumerations are added for the simple types that are represented by one, in their order. -/
theorem exists_addEnums (emission : Emission) :
    ∃ names, emission.addEnums catalog =
      { emission with
        model := { emission.model with
          names
          enums := emission.model.enums ++ enumsOf catalog } } :=
  exists_foldl_addEnum catalog emission catalog.scalars

end Emission

open Emission

/-- How the model of a list of schemas was built, and which requests were served for it. -/
structure Modelled (schemas : List Schema) (run : Logged (Catalog × Model))
    (roots : List (String × RootElement)) (entered left : List Request) : Prop where
  holds : run.value.1.Holds schemas
  scalars_eq : run.value.1.scalars = run.value.1.representations
  traversal : Traversal Request.name Request.inner [] (requestsOf run.value.1) entered left
  roots_eq : roots = (empty.collectRoots run.value.1).value.roots
  classes_eq : run.value.2.classes = left.map (classOf run.value.1 roots)
  enums_eq : run.value.2.enums = enumsOf run.value.1
  reported : ∀ request ∈ entered, ∀ name, RefersTo run.value.1 request.type name →
    Undeclared run.value.1 (rootTypesOf run.value.1) name →
    undeclaredRecord name ∈ run.records

section Emit

variable (catalog : Catalog)

def afterMerged : Emission :=
  (((empty.collectRoots catalog).value.addEnums catalog).emitClasses catalog.mergeAll.value.1
    catalog.mergeAll.value.2).value

theorem value_emit :
    (empty.emit catalog).value =
      (catalog.mergeAll.value.1,
        ((afterMerged catalog).emitClasses catalog.mergeAll.value.1
          ((afterMerged catalog).rootTypes.map
            (fun entry => MergedType.ofDefinition entry.2))).value) := rfl

theorem records_emitClasses_subset_emit :
    (((empty.collectRoots catalog).value.addEnums catalog).emitClasses catalog.mergeAll.value.1
        catalog.mergeAll.value.2).records ++
      ((afterMerged catalog).emitClasses catalog.mergeAll.value.1
        ((afterMerged catalog).rootTypes.map
          (fun entry => MergedType.ofDefinition entry.2))).records ⊆
      (empty.emit catalog).records := by
  unfold emit
  simp only [Logged.records_bind]
  intro record member
  rcases List.mem_append.1 member with early | late
  · exact List.mem_append_right _ (List.mem_append_right _ (List.mem_append_left _ early))
  · exact List.mem_append_right _ (List.mem_append_right _ (List.mem_append_right _
      (List.mem_append_left _ late)))

theorem records_collectRoots_subset_emit :
    (empty.collectRoots catalog).records ⊆ (empty.emit catalog).records := by
  unfold emit
  simp only [Logged.records_bind]
  exact List.subset_append_left _ _

/-- Emitting a catalogue serves exactly the requests that it makes at first. -/
theorem exists_emit (fresh : catalog.merged = [])
    (uniqueTypes : catalog.complexTypes.names.Nodup)
    (uniqueElements : catalog.elements.names.Nodup) :
    ∃ table roots entered left,
      (empty.emit catalog).value.1 = catalog.withMerged table ∧
      Traversal Request.name Request.inner [] (requestsOf catalog) entered left ∧
      roots = (empty.collectRoots (catalog.withMerged table)).value.roots ∧
      (empty.emit catalog).value.2.model.classes =
        left.map (classOf (catalog.withMerged table) roots) ∧
      (empty.emit catalog).value.2.model.enums = enumsOf catalog ∧
      ∀ request ∈ entered, ∀ name,
        RefersTo (catalog.withMerged table) request.type name →
        Undeclared catalog (rootTypesOf catalog) name →
        undeclaredRecord name ∈ (empty.emit catalog).records := by
  obtain ⟨roots, collected⟩ := exists_collectRoots catalog uniqueElements
  obtain ⟨table, merged⟩ := catalog.value_mergeAll fresh uniqueTypes
  obtain ⟨names, enums⟩ := exists_addEnums catalog (empty.withRoots (rootTypesOf catalog) roots)
  obtain ⟨entered, left, first⟩ := exists_serves_emitClasses catalog.mergeAll.value.1
    ((empty.collectRoots catalog).value.addEnums catalog) catalog.mergeAll.value.2
  obtain ⟨enteredLater, leftLater, second⟩ := exists_serves_emitClasses
    catalog.mergeAll.value.1 (afterMerged catalog)
    ((afterMerged catalog).rootTypes.map (fun entry => MergedType.ofDefinition entry.2))
  have both := (first.append second).more_records (records_emitClasses_subset_emit catalog)
  have kept : (afterMerged catalog).rootTypes = rootTypesOf catalog := by
    rw [afterMerged, first.after_eq, collected, enums]
    rfl
  rw [kept, merged, collected, enums] at both
  refine ⟨table, roots, entered ++ enteredLater, left ++ leftLater, ?_, ?_, ?_, ?_, ?_, ?_⟩
  · rw [value_emit, merged]
  · have traversal := both.traversal
    rw [List.map_map] at traversal
    exact traversal
  · change roots = (empty.collectRoots catalog).value.roots
    rw [collected]
    rfl
  · rw [value_emit, merged, kept, both.after_eq]
    rfl
  · rw [value_emit, merged, kept, both.after_eq]
    rfl
  · exact both.reported

end Emit

theorem value_modelOf (catalog : Catalog) :
    (Generator.modelOf catalog).value =
      ((empty.emit catalog.classifyAll.value).value.1,
        (empty.emit catalog.classifyAll.value).value.2.model) := rfl

theorem records_emit_subset_modelOf (catalog : Catalog) :
    (empty.emit catalog.classifyAll.value).records ⊆ (Generator.modelOf catalog).records := by
  unfold Generator.modelOf
  simp only [Logged.records_bind]
  intro record member
  exact List.mem_append_right _ (List.mem_append_left _ member)

def collisionRecord (name : String) : Record :=
  .debug s!"Anonymous type of element {name} collides with complexType {name}"

theorem collisionRecord_mem_collectRoots {catalog : Catalog} {name : String}
    {definitions : Definitions GlobalElement} {type : ComplexType}
    (member : (name, definitions) ∈ catalog.elements.entries)
    (given : definitions.first.complexType = some type)
    (declared : catalog.complexTypes.contains name = true) :
    collisionRecord name ∈ (empty.collectRoots catalog).records := by
  refine Logged.mem_records_foldlM member (fun emission => ?_) empty
  dsimp only
  unfold collectRoot
  simp only [given, declared, if_true]
  exact List.mem_append_left _ (List.mem_singleton.2 rfl)

theorem collisionRecord_mem_modelOf {schemas : List Schema} {name : String}
    {element : GlobalElement} {type : ComplexType}
    (first : firstElement? schemas name = some element)
    (given : element.complexType = some type) (declared : DeclaresComplex schemas name) :
    collisionRecord name ∈ (Generator.modelOf (.ofSchemas schemas)).records := by
  obtain ⟨definitions, member, rfl⟩ :=
    (Catalog.holds_ofSchemas schemas).entry_of_firstElement first
  refine records_emit_subset_modelOf _ (records_collectRoots_subset_emit _ ?_)
  rw [Catalog.value_classifyAll_ofSchemas]
  exact collisionRecord_mem_collectRoots member given
    (((Catalog.holds_ofSchemas schemas).declares_complexType name).2 declared)

/-- The model of any schemas is built by serving the requests that they make. -/
theorem exists_modelled (schemas : List Schema) :
    ∃ roots entered left,
      Modelled schemas (Generator.modelOf (.ofSchemas schemas)) roots entered left := by
  have holds := Catalog.holds_ofSchemas schemas
  have uniqueTypes : (Catalog.ofSchemas schemas).complexTypes.names.Nodup := by
    rw [holds.complexTypes_eq]
    exact Registry.nodup_names_ofList _ _
  have uniqueElements : (Catalog.ofSchemas schemas).elements.names.Nodup := by
    rw [holds.elements_eq]
    exact Registry.nodup_names_ofList _ _
  have classified := Catalog.value_classifyAll_ofSchemas schemas
  obtain ⟨table, roots, entered, left, catalog_eq, traversal, roots_eq, classes, enums,
      reported⟩ := exists_emit
      ((Catalog.ofSchemas schemas).withScalars (Catalog.ofSchemas schemas).representations)
      (Catalog.tables_foldl_register schemas .empty).1 uniqueTypes uniqueElements
  rw [← classified] at catalog_eq traversal roots_eq classes enums reported
  refine ⟨roots, entered, left, ?_, ?_, ?_, ?_, ?_, ?_, ?_⟩
  · rw [value_modelOf, catalog_eq, classified]
    exact ⟨holds.complexTypes_eq, holds.simpleTypes_eq, holds.elements_eq⟩
  · rw [value_modelOf, catalog_eq, classified]
    rfl
  · rw [value_modelOf, catalog_eq]
    exact traversal
  · rw [value_modelOf, catalog_eq]
    exact roots_eq
  · rw [value_modelOf, catalog_eq]
    exact classes
  · rw [value_modelOf, catalog_eq]
    exact enums
  · rw [value_modelOf, catalog_eq]
    intro request member name refers undeclared
    exact records_emit_subset_modelOf _ (reported request member name refers undeclared)

namespace Modelled

variable {schemas : List Schema} {run : Logged (Catalog × Model)}
variable {roots : List (String × RootElement)} {entered left : List Request}

/-- Every class is made for a request that was served, and the other way round. -/
theorem mem_classes_iff (modelled : Modelled schemas run roots entered left)
    (model : ClassModel) :
    model ∈ run.value.2.classes ↔
      ∃ request ∈ entered, classOf run.value.1 roots request = model := by
  rw [modelled.classes_eq, List.mem_map]
  simp only [modelled.traversal.perm.mem_iff]

/-- The class of a served name. -/
theorem exists_class (modelled : Modelled schemas run roots entered left) {name : String}
    (served : name ∈ entered.map Request.name) :
    ∃ model ∈ run.value.2.classes, model.name = Naming.typeName name := by
  obtain ⟨request, member, rfl⟩ := List.mem_map.1 served
  exact ⟨_, (modelled.mem_classes_iff _).2 ⟨request, member, rfl⟩, rfl⟩

theorem serves_requested (modelled : Modelled schemas run roots entered left)
    {request : Request} (member : request ∈ requestsOf run.value.1) :
    request.name ∈ entered.map Request.name :=
  (modelled.traversal.covers member).resolve_left List.not_mem_nil

theorem serves_inner (modelled : Modelled schemas run roots entered left)
    {owner request : Request} (served : owner ∈ entered) (leads : request ∈ owner.inner) :
    request.name ∈ entered.map Request.name :=
  (modelled.traversal.closed served leads).resolve_left List.not_mem_nil

/-- The merged type of an entry is requested under the name of the entry. -/
theorem request_of_entry (modelled : Modelled schemas run roots entered left) {name : String}
    {definitions : Definitions ComplexType}
    (member : (name, definitions) ∈ run.value.1.complexTypes.entries) :
    (MergedType.fold definitions.first definitions.later).name = name ∧
      ⟨MergedType.fold definitions.first definitions.later, false⟩ ∈
        requestsOf run.value.1 := by
  constructor
  · rw [modelled.holds.complexTypes_eq] at member
    rw [MergedType.fold, MergedType.name_foldl]
    exact Registry.name_first_of_mem_ofList ComplexType.name member
  · exact List.mem_append_left _
      (List.mem_map.2 ⟨_, List.mem_map.2 ⟨_, member, rfl⟩, rfl⟩)

/-- The type inside the first global element of a name is requested under that name. -/
theorem request_of_root (modelled : Modelled schemas run roots entered left)
    (read : ∀ schema ∈ schemas, schema.IsRead) {name : String} {type : ComplexType}
    (root : (name, type) ∈ rootTypesOf run.value.1) :
    type.name = name ∧ ⟨MergedType.ofDefinition type, false⟩ ∈ requestsOf run.value.1 := by
  refine ⟨?_, List.mem_append_right _ (List.mem_map.2 ⟨_, root, rfl⟩)⟩
  obtain ⟨⟨key, definitions⟩, member, chosen⟩ := List.mem_filterMap.1 root
  obtain ⟨rfl, given, _⟩ := rootType?_eq_some _ chosen
  rw [modelled.holds.elements_eq] at member
  have unique := Registry.nodup_names_ofList GlobalElement.name
    (schemas.flatMap Schema.elements)
  have found := Registry.first?_of_mem unique member
  rw [Registry.first?_ofList] at found
  obtain ⟨schema, schemaMember, elementMember⟩ :=
    List.mem_flatMap.1 (List.mem_of_find?_eq_some found)
  rw [(read schema schemaMember).names_inline elementMember given]
  simpa using List.find?_some found

/-- A global element whose first declaration holds a type is a root, unless a complex type has its name. -/
theorem mem_rootTypesOf (modelled : Modelled schemas run roots entered left) {name : String}
    {element : GlobalElement} {type : ComplexType}
    (first : firstElement? schemas name = some element)
    (given : element.complexType = some type)
    (free : run.value.1.complexTypes.contains name = false) :
    (name, type) ∈ rootTypesOf run.value.1 := by
  obtain ⟨definitions, inEntries, same⟩ := modelled.holds.entry_of_firstElement first
  refine List.mem_filterMap.2 ⟨(name, definitions), inEntries, ?_⟩
  simp [rootType?, free, same, given]

end Modelled

end SchemaBinding
