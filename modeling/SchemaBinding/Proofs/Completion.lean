import SchemaBinding.Proofs.Model

/-!
# Completing tables

The tables that are computed from the registries of a catalogue, when some of
their entries were computed before: those stay as they are and in front, and the
missing ones follow.  A table that is complete stays as it is.
-/

namespace SchemaBinding

section Missing

variable {α : Type}

/-- The pairs, followed by each entry whose key does not occur before it. -/
def addMissing (pairs : List (String × α)) : List (String × α) → List (String × α)
  | [] => pairs
  | entry :: rest =>
      if (Emission.find? pairs entry.1).isSome then addMissing pairs rest
      else addMissing (pairs ++ [entry]) rest

theorem find?_append (pairs others : List (String × α)) (key : String) :
    Emission.find? (pairs ++ others) key =
      (Emission.find? pairs key).or (Emission.find? others key) := by
  rw [Emission.find?, List.find?_append, Option.map_or]
  rfl

theorem find?_mapValues {β : Type} (f : α → β) (pairs : List (String × α)) (key : String) :
    Emission.find? (pairs.map (fun pair => (pair.1, f pair.2))) key =
      (Emission.find? pairs key).map f := by
  rw [Emission.find?, List.find?_map, Option.map_map, Emission.find?, Option.map_map]
  rfl

theorem prefix_addMissing (pairs entries : List (String × α)) :
    pairs <+: addMissing pairs entries := by
  induction entries generalizing pairs with
  | nil => exact List.prefix_rfl
  | cons entry rest ih =>
      unfold addMissing
      split
      · exact ih pairs
      · exact (List.prefix_append pairs [entry]).trans (ih (pairs ++ [entry]))

/-- What is found among the pairs goes before what the entries have. -/
theorem find?_addMissing (pairs entries : List (String × α)) (key : String) :
    Emission.find? (addMissing pairs entries) key =
      (Emission.find? pairs key).or (Emission.find? entries key) := by
  induction entries generalizing pairs with
  | nil => exact Option.or_none.symm
  | cons entry rest ih =>
      have split := find?_append [entry] rest key
      rw [List.singleton_append] at split
      unfold addMissing
      split
      · next known =>
          rw [ih, split, ← Option.or_assoc]
          congr 1
          by_cases same : entry.1 = key
          · obtain ⟨value, found⟩ := Option.isSome_iff_exists.1 (same ▸ known)
            rw [found, Option.some_or]
          · have other : Emission.find? [entry] key = none := by simp [Emission.find?, same]
            rw [other, Option.or_none]
      · rw [ih, find?_append, split, Option.or_assoc]

theorem addMissing_append (pairs first second : List (String × α)) :
    addMissing pairs (first ++ second) = addMissing (addMissing pairs first) second := by
  induction first generalizing pairs with
  | nil => rfl
  | cons entry rest ih =>
      rw [List.cons_append, addMissing, addMissing]
      split
      · exact ih pairs
      · exact ih (pairs ++ [entry])

theorem addMissing_of_found {pairs entries : List (String × α)}
    (found : ∀ entry ∈ entries, (Emission.find? pairs entry.1).isSome = true) :
    addMissing pairs entries = pairs := by
  induction entries with
  | nil => rfl
  | cons entry rest ih =>
      rw [addMissing, if_pos (found entry List.mem_cons_self)]
      exact ih (fun other member => found other (List.mem_cons_of_mem entry member))

theorem addMissing_of_absent {pairs entries : List (String × α)}
    (unique : (pairs.map Prod.fst ++ entries.map Prod.fst).Nodup) :
    addMissing pairs entries = pairs ++ entries := by
  induction entries generalizing pairs with
  | nil => exact (List.append_nil pairs).symm
  | cons entry rest ih =>
      have absent : ¬(Emission.find? pairs entry.1).isSome = true := by
        rw [Emission.find?_isSome_iff]
        intro member
        exact (List.nodup_append'.1 unique).2.2 member (by simp)
      rw [addMissing, if_neg absent, ih (by simpa using unique), List.append_assoc,
        List.singleton_append]

/-- Nothing is added a second time. -/
theorem addMissing_addMissing (pairs entries : List (String × α)) :
    addMissing (addMissing pairs entries) entries = addMissing pairs entries := by
  refine addMissing_of_found (fun entry member => ?_)
  rw [find?_addMissing, Option.isSome_or, Bool.or_eq_true]
  exact .inr (Emission.find?_isSome_iff.2 (List.mem_map_of_mem member))

/-- Pairs for the first keys of the entries are completed to pairs for all of them. -/
theorem keys_addMissing {pairs entries : List (String × α)}
    (begun : pairs.map Prod.fst <+: entries.map Prod.fst)
    (unique : (entries.map Prod.fst).Nodup) :
    (addMissing pairs entries).map Prod.fst = entries.map Prod.fst := by
  obtain ⟨more, keys⟩ := begun
  obtain ⟨old, new, rfl, oldKeys, newKeys⟩ := List.map_eq_append_iff.1 keys.symm
  have known : addMissing pairs old = pairs := by
    refine addMissing_of_found (fun entry member => Emission.find?_isSome_iff.2 ?_)
    rw [← oldKeys]
    exact List.mem_map_of_mem member
  rw [addMissing_append, known, addMissing_of_absent]
  · rw [List.map_append, List.map_append, oldKeys]
  · rwa [← oldKeys, ← List.map_append]

end Missing

namespace Catalog

variable (catalog : Catalog)

theorem classifyEntry_eq_addMissing (scalars : List (String × ScalarType)) (name : String)
    (definitions : Definitions SimpleType) :
    ((catalog.withScalars scalars).classifyEntry name definitions).value =
      catalog.withScalars (addMissing scalars [(name, catalog.classify definitions.first)]) := by
  by_cases known : name ∈ scalars.map Prod.fst
  · have found := Emission.find?_isSome_iff.2 known
    rw [addMissing, if_pos found]
    unfold classifyEntry
    rw [if_pos (show ((catalog.withScalars scalars).scalar? name).isSome = true from found)]
    rfl
  · have absent : ¬(Emission.find? scalars name).isSome = true :=
      fun found => known (Emission.find?_isSome_iff.1 found)
    rw [addMissing, if_neg absent]
    exact catalog.value_classifyEntry definitions known

/-- The simple types that are not represented yet are, by their first declarations. -/
theorem classifyAll_eq_addMissing :
    catalog.classifyAll.value =
      catalog.withScalars (addMissing catalog.scalars catalog.representations) := by
  suffices general : ∀ (scalars : List (String × ScalarType))
      (entries : List (String × Definitions SimpleType)),
      (entries.foldlM (fun (catalog : Catalog) (entry : String × Definitions SimpleType) =>
          catalog.classifyEntry entry.1 entry.2) (catalog.withScalars scalars)).value =
        catalog.withScalars (addMissing scalars
          (entries.map (fun entry => (entry.1, catalog.classify entry.2.first)))) from
    general catalog.scalars catalog.simpleTypes.entries
  intro scalars entries
  induction entries generalizing scalars with
  | nil => rfl
  | cons entry rest ih =>
      rw [List.foldlM_cons, Logged.value_bind, classifyEntry_eq_addMissing, ih,
        ← addMissing_append]
      rfl

def foldedTypes : List (String × MergedType) :=
  catalog.complexTypes.entries.map
    (fun entry => (entry.1, MergedType.fold entry.2.first entry.2.later))

/-- The merged definitions with those of the complex types that were not merged before. -/
def mergedTable : List (String × MergedType) :=
  addMissing catalog.merged catalog.foldedTypes

theorem mergeDefinitions_eq_addMissing (merged : List (String × MergedType)) (name : String)
    (definitions : Definitions ComplexType) :
    ∃ type, Emission.find?
        (addMissing merged [(name, MergedType.fold definitions.first definitions.later)]) name =
          some type ∧
      ((catalog.withMerged merged).mergeDefinitions name definitions).value =
        (catalog.withMerged
          (addMissing merged [(name, MergedType.fold definitions.first definitions.later)]),
          type) := by
  cases known : Emission.find? merged name with
  | some type =>
      have same := show (catalog.withMerged merged).merged? name = some type from known
      refine ⟨type, ?_, ?_⟩
      · rw [find?_addMissing, known, Option.some_or]
      · rw [addMissing, if_pos (by rw [known, Option.isSome_some])]
        unfold mergeDefinitions
        rw [same]
        rfl
  | none =>
      have same := show (catalog.withMerged merged).merged? name = none from known
      refine ⟨MergedType.fold definitions.first definitions.later, ?_, ?_⟩
      · rw [find?_addMissing, known, Option.none_or]
        simp [Emission.find?]
      · rw [addMissing, if_neg (by simp [known])]
        unfold mergeDefinitions
        rw [same]
        rfl

/-- The complex types that are not merged yet are, and all of them are looked up. -/
theorem mergeAll_eq_addMissing :
    catalog.mergeAll.value =
      (catalog.withMerged catalog.mergedTable,
        catalog.complexTypes.names.filterMap (Emission.find? catalog.mergedTable)) := by
  suffices general : ∀ (merged : List (String × MergedType))
      (entries : List (String × Definitions ComplexType)) (table : List (String × MergedType)),
      addMissing merged (entries.map
          (fun entry => (entry.1, MergedType.fold entry.2.first entry.2.later))) = table →
        (mergeEach entries (catalog.withMerged merged)).value =
          (catalog.withMerged table,
            (entries.map Prod.fst).filterMap (Emission.find? table)) from
    general catalog.merged catalog.complexTypes.entries _ rfl
  intro merged entries
  induction entries generalizing merged with
  | nil =>
      rintro table rfl
      rfl
  | cons entry rest ih =>
      rintro table completed
      obtain ⟨type, found, step⟩ := catalog.mergeDefinitions_eq_addMissing merged entry.1 entry.2
      rw [List.map_cons, ← List.singleton_append, addMissing_append] at completed
      have kept : Emission.find? table entry.1 = some type := by
        rw [← completed, find?_addMissing, found, Option.some_or]
      rw [value_mergeEach_cons, step, ih _ table completed, List.map_cons,
        List.filterMap_cons_some kept]

theorem scalar?_classifyAll (name : String) :
    catalog.classifyAll.value.scalar? name =
      (catalog.scalar? name).or ((catalog.simpleTypes.first? name).map catalog.classify) := by
  rw [classifyAll_eq_addMissing]
  refine (find?_addMissing catalog.scalars catalog.representations name).trans ?_
  have found := find?_mapValues (fun definitions => catalog.classify definitions.first)
    catalog.simpleTypes.entries name
  rw [representations, found, Registry.first?, Option.map_map]
  rfl

end Catalog

end SchemaBinding
