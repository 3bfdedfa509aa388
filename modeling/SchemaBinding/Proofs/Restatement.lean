import SchemaBinding.Proofs.Precedence
import SchemaBinding.Proofs.Resemblance

/-!
# Definitions that are registered again

What several definitions make together absorbs each of them: it is no shorter, has
all its names, and has a base and a text if the definition has.  Folding such a
definition once more changes nothing but the list of documents, and classes are
made without looking at that.
-/

namespace SchemaBinding

/-- A definition that declares the same names as another one, maybe in another document. -/
structure ComplexType.Restates (type other : ComplexType) : Prop where
  name_eq : type.name = other.name
  elements_eq : type.elements.map Particle.name = other.elements.map Particle.name
  attributes_eq : type.attributes.map AttributeUse.name = other.attributes.map AttributeUse.name
  base_eq : type.base.isSome = other.base.isSome
  text_eq : type.text.isSome = other.text.isSome

theorem ComplexType.Restates.refl (type : ComplexType) : type.Restates type :=
  ⟨rfl, rfl, rfl, rfl, rfl⟩

namespace MergedType

theorem mergeByName_of_subset {α : Type} (nameOf : α → String) {lead others : List α}
    (known : others.map nameOf ⊆ lead.map nameOf) : mergeByName nameOf lead others = lead := by
  have nothing : others.filter (fun item => nameOf item ∉ lead.map nameOf) = [] := by
    rw [List.filter_eq_nil_iff]
    intro item member
    simpa using known (List.mem_map_of_mem member)
  rw [mergeByName_eq, unledOnce, nothing, List.eraseDupsBy_nil, List.append_nil]

theorem or_eq_left {α : Type} {value fallback : Option α}
    (needless : fallback.isSome = true → value.isSome = true) : value.or fallback = value := by
  cases fallback with
  | none => exact Option.or_none
  | some other => exact Option.or_of_isSome (needless rfl)

structure SameButSources (type other : MergedType) : Prop where
  name_eq : type.name = other.name
  elements_eq : type.elements = other.elements
  attributes_eq : type.attributes = other.attributes
  base_eq : type.base = other.base
  text_eq : type.text = other.text
  targetNamespace_eq : type.targetNamespace = other.targetNamespace

theorem SameButSources.refl (type : MergedType) : type.SameButSources type :=
  ⟨rfl, rfl, rfl, rfl, rfl, rfl⟩

theorem SameButSources.exists_sources {type other : MergedType}
    (same : type.SameButSources other) : ∃ sources, type = { other with sources } := by
  obtain ⟨name, elements, attributes, base, text, uri⟩ := same
  exact ⟨type.sources, by rw [← name, ← elements, ← attributes, ← base, ← text, ← uri]⟩

theorem SameButSources.merge {folded other : MergedType} (same : folded.SameButSources other)
    (type : ComplexType) : (folded.merge type).SameButSources (other.merge type) := by
  obtain ⟨sources, rfl⟩ := same.exists_sources
  unfold MergedType.merge
  dsimp only
  split
  · exact ⟨rfl, rfl, rfl, rfl, rfl, rfl⟩
  · exact ⟨rfl, rfl, rfl, rfl, rfl, rfl⟩

theorem SameButSources.foldl {folded other : MergedType} (same : folded.SameButSources other)
    (later : List ComplexType) :
    (later.foldl MergedType.merge folded).SameButSources (later.foldl MergedType.merge other) := by
  induction later generalizing folded other with
  | nil => exact same
  | cons type rest ih => exact ih (same.merge type)

/-- A type that is no shorter than another one and has all that the other one declares. -/
structure Absorbs (folded type : MergedType) : Prop where
  length_le : type.elements.length ≤ folded.elements.length
  elements_subset : type.elements.map Particle.name ⊆ folded.elements.map Particle.name
  attributes_subset :
    type.attributes.map AttributeUse.name ⊆ folded.attributes.map AttributeUse.name
  base : type.base.isSome = true → folded.base.isSome = true
  text : type.text.isSome = true → folded.text.isSome = true

namespace Absorbs

variable {folded type other : MergedType}

theorem refl (type : MergedType) : type.Absorbs type :=
  ⟨Nat.le_refl _, List.Subset.refl _, List.Subset.refl _, id, id⟩

theorem trans (outer : folded.Absorbs other) (inner : other.Absorbs type) :
    folded.Absorbs type where
  length_le := Nat.le_trans inner.length_le outer.length_le
  elements_subset := List.Subset.trans inner.elements_subset outer.elements_subset
  attributes_subset := List.Subset.trans inner.attributes_subset outer.attributes_subset
  base given := outer.base (inner.base given)
  text given := outer.text (inner.text given)

/-- What two operands make together is no shorter than the one that leads, and has all names. -/
theorem combine {lead : MergedType} (name : String) (sources : List FilePath)
    (shorter : other.elements.length ≤ lead.elements.length) :
    (lead.combine other name sources).Absorbs lead ∧
      (lead.combine other name sources).Absorbs other := by
  have length : lead.elements.length ≤ (lead.combine other name sources).elements.length :=
    (prefix_mergeByName Particle.name lead.elements other.elements).length_le
  constructor
  · refine ⟨length, ?_, ?_, ?_, ?_⟩
    · exact fun part member => (mem_names_mergeByName _ _ _ part).2 (.inl member)
    · exact fun part member => (mem_names_mergeByName _ _ _ part).2 (.inl member)
    · exact fun given => by simp [MergedType.combine, given]
    · exact fun given => by simp [MergedType.combine, given]
  · refine ⟨Nat.le_trans shorter length, ?_, ?_, ?_, ?_⟩
    · exact fun part member => (mem_names_mergeByName _ _ _ part).2 (.inr member)
    · exact fun part member => (mem_names_mergeByName _ _ _ part).2 (.inr member)
    · exact fun given => by simp [MergedType.combine, given]
    · exact fun given => by simp [MergedType.combine, given]

/-- Merging one more definition keeps what was absorbed, and absorbs the definition. -/
theorem merge (folded : MergedType) (type : ComplexType) :
    (folded.merge type).Absorbs folded ∧ (folded.merge type).Absorbs (ofDefinition type) := by
  unfold MergedType.merge
  dsimp only
  split
  · next longer => exact (combine _ _ (Nat.le_of_lt longer)).symm
  · next shorter => exact combine _ _ (Nat.le_of_not_lt shorter)

/-- A definition is absorbed as soon as one that declares the same names is. -/
theorem of_restates {again type : ComplexType} (absorbs : folded.Absorbs (ofDefinition type))
    (same : again.Restates type) : folded.Absorbs (ofDefinition again) := by
  refine absorbs.trans ⟨?_, ?_, ?_, ?_, ?_⟩
  · have lengths := congrArg List.length same.elements_eq
    rw [List.length_map, List.length_map] at lengths
    exact Nat.le_of_eq lengths
  · exact fun _ member => same.elements_eq ▸ member
  · exact fun _ member => same.attributes_eq ▸ member
  · exact fun given => same.base_eq.symm.trans given
  · exact fun given => same.text_eq.symm.trans given

end Absorbs

/-- Every definition that was folded is absorbed. -/
theorem absorbs_fold {first : ComplexType} {later : List ComplexType} {type : ComplexType}
    (member : type ∈ first :: later) : (fold first later).Absorbs (ofDefinition type) := by
  induction later using List.reverseRecOn with
  | nil =>
      obtain rfl := List.mem_singleton.1 member
      exact .refl _
  | append_singleton later last ih =>
      obtain ⟨kept, new⟩ := Absorbs.merge (fold first later) last
      rw [fold_append]
      rw [← List.cons_append] at member
      rcases List.mem_append.1 member with earlier | here
      · exact kept.trans (ih earlier)
      · rwa [List.mem_singleton.1 here]

/-- Merging a definition that was absorbed changes nothing but the documents. -/
theorem Absorbs.merge_same {folded : MergedType} {type : ComplexType}
    (absorbs : folded.Absorbs (ofDefinition type)) :
    (folded.merge type).SameButSources folded := by
  unfold MergedType.merge
  dsimp only
  rw [if_neg (Nat.not_lt.2 absorbs.length_le)]
  refine ⟨rfl, ?_, ?_, ?_, ?_, rfl⟩
  · exact mergeByName_of_subset Particle.name absorbs.elements_subset
  · exact mergeByName_of_subset AttributeUse.name absorbs.attributes_subset
  · exact or_eq_left absorbs.base
  · exact or_eq_left absorbs.text

/-- Folding what declares the same names as an earlier definition changes no content. -/
theorem fold_again {first type again : ComplexType} {earlier : List ComplexType}
    (declared : type ∈ first :: earlier) (same : again.Restates type) (later : List ComplexType) :
    (fold first (earlier ++ again :: later)).SameButSources (fold first (earlier ++ later)) := by
  have absorbs := (absorbs_fold declared).of_restates same
  rw [fold, fold, List.foldl_append, List.foldl_append, List.foldl_cons]
  exact absorbs.merge_same.foldl later

theorem rel_ofList?_again {type again : ComplexType} {earlier : List ComplexType}
    (declared : type ∈ earlier) (same : again.Restates type) (later : List ComplexType) :
    Option.Rel SameButSources (ofList? (earlier ++ again :: later))
      (ofList? (earlier ++ later)) := by
  cases earlier with
  | nil => exact absurd declared List.not_mem_nil
  | cons first earlier => exact .some (fold_again declared same later)

end MergedType

namespace Catalog

/-- The merged types in the order of their names. -/
theorem mergedTypes_eq_filterMap {catalog : Catalog} (unique : catalog.complexTypes.names.Nodup) :
    catalog.mergedTypes = catalog.complexTypes.names.filterMap catalog.foldedType? := by
  rw [Registry.names, List.filterMap_map, mergedTypes, ← List.filterMap_eq_map]
  refine List.filterMap_congr (fun entry member => ?_)
  have found := Registry.definitions?_of_mem unique member
  change some (MergedType.fold entry.2.first entry.2.later) = catalog.foldedType? entry.1
  rw [foldedType?, Registry.get, found]
  rfl

/-- One more declaration of a declared name adds no name. -/
theorem names_ofList_again {α : Type} {nameOf : α → String} {earlier : List α} {again : α}
    (declared : nameOf again ∈ earlier.map nameOf) (later : List α) :
    (Registry.ofList nameOf (earlier ++ again :: later)).names =
      (Registry.ofList nameOf (earlier ++ later)).names := by
  rw [Registry.names_ofList, Registry.names_ofList, List.map_append, List.map_append,
    List.map_cons, List.eraseDups_append, List.eraseDups_append]
  congr 2
  rw [List.removeAll, List.removeAll, List.filter_cons_of_neg (by simpa using declared)]

/-- The merged types stay the same, but for their documents, when a type is declared again. -/
theorem forall₂_mergedTypes_again {first second : Catalog} {type again : ComplexType}
    {earlier later : List ComplexType} (declared : type ∈ earlier) (same : again.Restates type)
    (firstTypes : first.complexTypes = .ofList ComplexType.name (earlier ++ again :: later))
    (secondTypes : second.complexTypes = .ofList ComplexType.name (earlier ++ later)) :
    List.Forall₂ MergedType.SameButSources first.mergedTypes second.mergedTypes := by
  have named : again.name ∈ earlier.map ComplexType.name := by
    rw [same.name_eq]
    exact List.mem_map_of_mem declared
  have each : ∀ name, Option.Rel MergedType.SameButSources (first.foldedType? name)
      (second.foldedType? name) := by
    intro name
    rw [foldedType?, foldedType?, firstTypes, secondTypes, Registry.get_ofList,
      Registry.get_ofList, List.filter_append, List.filter_append, List.filter_cons]
    split
    · next own =>
        refine MergedType.rel_ofList?_again (List.mem_filter.2 ⟨declared, ?_⟩) same _
        rw [← same.name_eq]
        exact own
    · exact optionRel_refl .refl _
  rw [mergedTypes_eq_filterMap (by rw [firstTypes]; exact Registry.nodup_names_ofList _ _),
    mergedTypes_eq_filterMap (by rw [secondTypes]; exact Registry.nodup_names_ofList _ _),
    firstTypes, secondTypes, names_ofList_again named]
  refine List.rel_filterMap (R := Eq) ?_ (List.forall₂_eq_eq_eq ▸ rfl)
  rintro name _ rfl
  exact each name

theorem snd_mergeAll_ofSchemas (schemas : List Schema) :
    (ofSchemas schemas).classifyAll.value.mergeAll.value.2 = (ofSchemas schemas).mergedTypes := by
  rw [value_classifyAll_ofSchemas]
  obtain ⟨table, all⟩ :=
    ((ofSchemas schemas).withScalars (ofSchemas schemas).representations).value_mergeAll
      (tables_foldl_register schemas .empty).1 (by
        change (ofSchemas schemas).complexTypes.names.Nodup
        rw [(holds_ofSchemas schemas).complexTypes_eq]
        exact Registry.nodup_names_ofList _ _)
  rw [all]
  rfl

end Catalog

namespace Emission

structure Request.SameButSources (request other : Request) : Prop where
  type : request.type.SameButSources other.type
  isSynthesized_eq : request.isSynthesized = other.isSynthesized

namespace Request.SameButSources

variable {request other : Request} (same : request.SameButSources other)
include same

theorem exists_sources :
    ∃ sources, request = { other with type := { other.type with sources } } := by
  obtain ⟨type, isSynthesized⟩ := request
  obtain ⟨sameType, rfl⟩ := same
  obtain ⟨sources, rfl⟩ := sameType.exists_sources
  exact ⟨sources, rfl⟩

theorem inner_eq : request.inner = other.inner := by
  obtain ⟨sources, rfl⟩ := same.exists_sources
  rfl

/-- A class does not show where its type was declared. -/
theorem classOf_eq (catalog : Catalog) (roots : List (String × RootElement)) :
    classOf catalog roots request = classOf catalog roots other := by
  obtain ⟨sources, rfl⟩ := same.exists_sources
  rfl

end Request.SameButSources

theorem Request.SameButSources.refl (request : Request) : request.SameButSources request :=
  ⟨.refl request.type, rfl⟩

section Alike

variable {first second : Catalog} (alike : first.Resembles second)
include alike

theorem collectRoots_eq (elements : first.elements = second.elements) (before : Emission) :
    (before.collectRoots first).value = (before.collectRoots second).value := by
  have step : ∀ emission name element, (collectRoot first emission name element).value =
      (collectRoot second emission name element).value := by
    intro emission name element
    unfold collectRoot
    simp only [alike.contains_complexType_eq, alike.targetOf_eq]
  rw [collectRoots, collectRoots, Logged.value_foldlM, Logged.value_foldlM, elements]
  simp only [step]

theorem addEnums_eq (simpleTypes : first.simpleTypes = second.simpleTypes) (before : Emission) :
    before.addEnums first = before.addEnums second := by
  have scalars : first.scalars = second.scalars := by
    rw [alike.computed, alike.otherComputed, Catalog.representations, Catalog.representations,
      simpleTypes]
    simp only [alike.classify_eq]
  unfold addEnums addEnum enumOf
  rw [scalars, simpleTypes]

/-- Requests that differ in the documents of their types at most add the same classes. -/
theorem grow_eq (before : Emission) {entered left otherEntered otherLeft : List Request}
    (sameEntered : List.Forall₂ Request.SameButSources entered otherEntered)
    (sameLeft : List.Forall₂ Request.SameButSources left otherLeft) :
    before.grow first entered left = before.grow second otherEntered otherLeft := by
  have sameNames : ∀ request other : Request, request.SameButSources other →
      request.name = other.name := fun _ _ same => same.type.name_eq
  have classes : left.map (classOf first before.roots) =
      otherLeft.map (classOf second before.roots) :=
    map_eq_map_of_forall₂
      (fun request other same => (alike.classOf_eq rfl).trans (same.classOf_eq second _)) sameLeft
  have names := map_eq_map_of_forall₂ sameNames sameLeft
  rw [grow, grow, classes, map_eq_map_of_forall₂ sameNames sameEntered]
  rw [← List.foldl_map (f := Request.name)
    (g := fun table name => Model.assign table name (Naming.typeName name)), names, List.foldl_map]

/-- Catalogues whose merged types differ in their documents at most are emitted alike. -/
theorem next_everything_eq (elements : first.elements = second.elements)
    (simpleTypes : first.simpleTypes = second.simpleTypes)
    (types : List.Forall₂ MergedType.SameButSources first.mergeAll.value.2
      second.mergeAll.value.2) (before : Emission) :
    (Call.everything first).next before = (Call.everything second).next before := by
  obtain ⟨entered, left, records, serves⟩ := exists_serves_everything first before
  obtain ⟨otherEntered, otherLeft, otherRecords, otherServes⟩ :=
    exists_serves_everything second before
  have started : begun first before = begun second before := by
    rw [begun, begun, collectRoots_eq alike elements, addEnums_eq alike simpleTypes]
  have requests : List.Forall₂ Request.SameButSources ((Call.everything first).requests before)
      ((Call.everything second).requests before) := by
    rw [Call.requests, Call.requests, collectRoots_eq alike elements]
    refine List.rel_append ?_ (List.forall₂_same.2 fun request _ => .refl request)
    rw [List.forall₂_map_left_iff, List.forall₂_map_right_iff]
    exact types.imp (fun _ _ same => ⟨same, rfl⟩)
  obtain ⟨likeEntered, likeLeft, traversal, sameEntered, sameLeft⟩ := serves.traversal.rel
    (fun _ _ same => same.type.name_eq)
    (fun _ _ same => same.inner_eq ▸ List.forall₂_same.2 fun request _ => .refl request) requests
  rw [started] at traversal
  obtain ⟨rfl, rfl⟩ := traversal.unique otherServes.traversal
  rw [serves.after_eq, otherServes.after_eq, started, first.mergeAll_eq_addMissing,
    second.mergeAll_eq_addMissing]
  exact grow_eq alike _ sameEntered sameLeft

end Alike

end Emission

open Emission

/-- Schemas that declare what other ones do, and one more definition of a complex type. -/
structure DeclaresAgain (schemas others : List Schema) (earlier : List ComplexType)
    (again : ComplexType) (later : List ComplexType) : Prop where
  complexTypes : schemas.flatMap Schema.complexTypes = earlier ++ again :: later
  otherComplexTypes : others.flatMap Schema.complexTypes = earlier ++ later
  simpleTypes_eq : schemas.flatMap Schema.simpleTypes = others.flatMap Schema.simpleTypes
  elements_eq : schemas.flatMap Schema.elements = others.flatMap Schema.elements

namespace DeclaresAgain

variable {schemas others : List Schema} {earlier later : List ComplexType}
variable {type again : ComplexType}

/-- The catalogues of the schemas find the same declarations. -/
theorem resembles (declares : DeclaresAgain schemas others earlier again later)
    (declared : type ∈ earlier) (same : again.Restates type) :
    (Catalog.ofSchemas schemas).classifyAll.value.Resembles
      (Catalog.ofSchemas others).classifyAll.value := by
  have holds := Catalog.holds_ofSchemas schemas
  have otherHolds := Catalog.holds_ofSchemas others
  have contains : ∀ name, (Catalog.ofSchemas schemas).complexTypes.contains name =
      (Catalog.ofSchemas others).complexTypes.contains name := by
    intro name
    rw [Bool.eq_iff_iff, holds.complexTypes_eq, otherHolds.complexTypes_eq,
      declares.complexTypes, declares.otherComplexTypes, Registry.contains_ofList,
      Registry.contains_ofList]
    simp only [List.mem_append, List.mem_cons]
    constructor
    · rintro ⟨found, early | rfl | late, named⟩
      · exact ⟨found, .inl early, named⟩
      · exact ⟨type, .inl declared, same.name_eq ▸ named⟩
      · exact ⟨found, .inr late, named⟩
    · rintro ⟨found, early | late, named⟩
      · exact ⟨found, .inl early, named⟩
      · exact ⟨found, .inr (.inr late), named⟩
  rw [Catalog.value_classifyAll_ofSchemas, Catalog.value_classifyAll_ofSchemas]
  refine ⟨contains, ?_, ?_, rfl, rfl⟩
  · intro name
    change (Catalog.ofSchemas schemas).simpleTypes.first? name =
      (Catalog.ofSchemas others).simpleTypes.first? name
    rw [holds.simpleTypes_eq, otherHolds.simpleTypes_eq, declares.simpleTypes_eq]
  · intro name
    change (Catalog.ofSchemas schemas).elements.first? name =
      (Catalog.ofSchemas others).elements.first? name
    rw [holds.elements_eq, otherHolds.elements_eq, declares.elements_eq]

theorem modelOf_eq (declares : DeclaresAgain schemas others earlier again later)
    (declared : type ∈ earlier) (same : again.Restates type) :
    (Generator.modelOf (.ofSchemas schemas)).value.2 =
      (Generator.modelOf (.ofSchemas others)).value.2 := by
  have holds := Catalog.holds_ofSchemas schemas
  have otherHolds := Catalog.holds_ofSchemas others
  have alike := declares.resembles declared same
  have types := Catalog.forall₂_mergedTypes_again declared same
    (holds.complexTypes_eq.trans (congrArg _ declares.complexTypes))
    (otherHolds.complexTypes_eq.trans (congrArg _ declares.otherComplexTypes))
  have merged : List.Forall₂ MergedType.SameButSources
      (Catalog.ofSchemas schemas).classifyAll.value.mergeAll.value.2
      (Catalog.ofSchemas others).classifyAll.value.mergeAll.value.2 := by
    rw [Catalog.snd_mergeAll_ofSchemas, Catalog.snd_mergeAll_ofSchemas]
    exact types
  have emitted : (empty.emit (Catalog.ofSchemas schemas).classifyAll.value).value.2 =
      (empty.emit (Catalog.ofSchemas others).classifyAll.value).value.2 := by
    refine next_everything_eq alike ?_ ?_ merged empty
    · rw [Catalog.value_classifyAll_ofSchemas, Catalog.value_classifyAll_ofSchemas]
      exact holds.elements_eq.trans
        ((congrArg _ declares.elements_eq).trans otherHolds.elements_eq.symm)
    · rw [Catalog.value_classifyAll_ofSchemas, Catalog.value_classifyAll_ofSchemas]
      exact holds.simpleTypes_eq.trans
        ((congrArg _ declares.simpleTypes_eq).trans otherHolds.simpleTypes_eq.symm)
  rw [value_modelOf, value_modelOf, emitted]

end DeclaresAgain

/--
Folding what declares the same names as an earlier definition, such as the definition
itself, changes no content, since every definition is absorbed; so registering it
again does not change the model.
-/
theorem fold_and_modelOf_again (earlier later : List ComplexType) {type again : ComplexType}
    (declared : type ∈ earlier) (same : again.Restates type) :
    (∃ folded other, MergedType.ofList? (earlier ++ [again] ++ later) = some folded ∧
      MergedType.ofList? (earlier ++ later) = some other ∧ folded.SameButSources other ∧
      ∀ definition ∈ earlier ++ [again] ++ later,
        folded.Absorbs (MergedType.ofDefinition definition)) ∧
    ∀ schemas others, DeclaresAgain schemas others earlier again later →
      (Generator.modelOf (.ofSchemas schemas)).value.2 =
        (Generator.modelOf (.ofSchemas others)).value.2 := by
  refine ⟨?_, fun schemas others declares => declares.modelOf_eq declared same⟩
  rw [List.append_assoc, List.singleton_append]
  cases earlier with
  | nil => exact absurd declared List.not_mem_nil
  | cons first earlier =>
      exact ⟨_, _, rfl, rfl, MergedType.fold_again declared same later,
        fun definition member => MergedType.absorbs_fold member⟩

def kiteType (document : String) : ComplexType where
  name := "Kite"
  elements := [{ name := "tail", complexType := some { source := some ⟨"", [document]⟩ } }]
  attributes := [{ name := "span" }]
  source := some ⟨"", [document]⟩

def kiteSchema (document : String) : Schema where
  source := ⟨"", [document]⟩
  targetNamespace := none
  namespaces := []
  complexTypes := [kiteType document]
  simpleTypes := []
  elements := []
  directives := []

theorem fold_and_modelOf_again_kiteType :
    kiteType "here.xsd" ∈ [kiteType "here.xsd"] ∧
      (kiteType "there.xsd").Restates (kiteType "here.xsd") ∧
      DeclaresAgain [kiteSchema "here.xsd", kiteSchema "there.xsd"] [kiteSchema "here.xsd"]
        [kiteType "here.xsd"] (kiteType "there.xsd") [] ∧
      (∃ folded other,
        MergedType.ofList? ([kiteType "here.xsd"] ++ [kiteType "there.xsd"] ++ []) = some folded ∧
        MergedType.ofList? ([kiteType "here.xsd"] ++ []) = some other ∧
        folded.SameButSources other ∧
        ∀ definition ∈ [kiteType "here.xsd"] ++ [kiteType "there.xsd"] ++ [],
          folded.Absorbs (MergedType.ofDefinition definition)) ∧
      (Generator.modelOf (.ofSchemas [kiteSchema "here.xsd", kiteSchema "there.xsd"])).value.2 =
        (Generator.modelOf (.ofSchemas [kiteSchema "here.xsd"])).value.2 := by
  have declared : kiteType "here.xsd" ∈ [kiteType "here.xsd"] := List.mem_singleton_self _
  have same : (kiteType "there.xsd").Restates (kiteType "here.xsd") := ⟨rfl, rfl, rfl, rfl, rfl⟩
  have declares : DeclaresAgain [kiteSchema "here.xsd", kiteSchema "there.xsd"]
      [kiteSchema "here.xsd"] [kiteType "here.xsd"] (kiteType "there.xsd") [] :=
    ⟨rfl, rfl, rfl, rfl⟩
  obtain ⟨folded, model⟩ := fold_and_modelOf_again [kiteType "here.xsd"] [] declared same
  exact ⟨declared, same, declares, folded, model _ _ declares⟩

end SchemaBinding
