import SchemaBinding.Proofs.Registration

/-!
# Computed tables

The tables that are computed from the registries of a catalogue: how each simple
type is represented, and what the definitions of each complex type make
together.  Neither computation changes anything but its own table.
-/

namespace SchemaBinding

namespace Catalog

variable (catalog : Catalog)

/-- How each declared simple type is represented: by its first declaration. -/
def representations : List (String × ScalarType) :=
  catalog.simpleTypes.entries.map (fun entry => (entry.1, catalog.classify entry.2.first))

def withScalars (scalars : List (String × ScalarType)) : Catalog :=
  { catalog with scalars }

theorem scalar?_eq_none {scalars : List (String × ScalarType)} {name : String}
    (absent : name ∉ scalars.map Prod.fst) :
    (catalog.withScalars scalars).scalar? name = none := by
  rw [scalar?, Option.map_eq_none_iff]
  exact find?_key_eq_none absent

theorem value_classifyEntry {scalars : List (String × ScalarType)} {name : String}
    (definitions : Definitions SimpleType) (absent : name ∉ scalars.map Prod.fst) :
    ((catalog.withScalars scalars).classifyEntry name definitions).value =
      catalog.withScalars (scalars ++ [(name, catalog.classify definitions.first)]) := by
  unfold classifyEntry
  rw [catalog.scalar?_eq_none absent]
  cases definitions.later.isEmpty <;> rfl

theorem value_foldlM_classifyEntry (scalars : List (String × ScalarType))
    (entries : List (String × Definitions SimpleType))
    (unique : (scalars.map Prod.fst ++ entries.map Prod.fst).Nodup) :
    (entries.foldlM (fun (catalog : Catalog) (entry : String × Definitions SimpleType) =>
        catalog.classifyEntry entry.1 entry.2) (catalog.withScalars scalars)).value =
      catalog.withScalars
        (scalars ++ entries.map (fun entry => (entry.1, catalog.classify entry.2.first))) := by
  rw [Logged.value_foldlM]
  induction entries generalizing scalars with
  | nil => simp
  | cons entry rest ih =>
      have absent : entry.1 ∉ scalars.map Prod.fst := by
        intro member
        exact (List.nodup_append'.1 unique).2.2 member (by simp)
      rw [List.foldl_cons, catalog.value_classifyEntry entry.2 absent, ih, List.append_assoc]
      · rfl
      · simpa using unique

/-- The representations are computed all at once. -/
theorem value_classifyAll (fresh : catalog.scalars = [])
    (unique : catalog.simpleTypes.names.Nodup) :
    catalog.classifyAll.value = catalog.withScalars catalog.representations := by
  have start : catalog = catalog.withScalars [] := by
    rw [withScalars, ← fresh]
  have all := catalog.value_foldlM_classifyEntry [] catalog.simpleTypes.entries
    (by simpa [Registry.names] using unique)
  rw [← start] at all
  exact all

/-- The simple types of registered schemas are represented all at once. -/
theorem value_classifyAll_ofSchemas (schemas : List Schema) :
    (ofSchemas schemas).classifyAll.value =
      (ofSchemas schemas).withScalars (ofSchemas schemas).representations := by
  refine value_classifyAll _ (tables_foldl_register schemas .empty).2 ?_
  rw [(holds_ofSchemas schemas).simpleTypes_eq]
  exact Registry.nodup_names_ofList _ _

def mergedTypes : List MergedType :=
  catalog.complexTypes.entries.map (fun entry => MergedType.fold entry.2.first entry.2.later)

def withMerged (merged : List (String × MergedType)) : Catalog :=
  { catalog with merged }

theorem merged?_eq_none {merged : List (String × MergedType)} {name : String}
    (absent : name ∉ merged.map Prod.fst) :
    (catalog.withMerged merged).merged? name = none := by
  rw [merged?, Option.map_eq_none_iff]
  exact find?_key_eq_none absent

theorem value_mergeDefinitions {merged : List (String × MergedType)} {name : String}
    (definitions : Definitions ComplexType) (absent : name ∉ merged.map Prod.fst) :
    ((catalog.withMerged merged).mergeDefinitions name definitions).value =
      (catalog.withMerged
        (merged ++ [(name, MergedType.fold definitions.first definitions.later)]),
        MergedType.fold definitions.first definitions.later) := by
  unfold mergeDefinitions
  rw [catalog.merged?_eq_none absent]
  rfl

theorem value_mergeEach_cons (entry : String × Definitions ComplexType)
    (rest : List (String × Definitions ComplexType)) :
    (mergeEach (entry :: rest) catalog).value =
      ((mergeEach rest (catalog.mergeDefinitions entry.1 entry.2).value.1).value.1,
        (catalog.mergeDefinitions entry.1 entry.2).value.2 ::
          (mergeEach rest (catalog.mergeDefinitions entry.1 entry.2).value.1).value.2) := rfl

theorem value_mergeEach (merged : List (String × MergedType))
    (entries : List (String × Definitions ComplexType))
    (unique : (merged.map Prod.fst ++ entries.map Prod.fst).Nodup) :
    ∃ table, (mergeEach entries (catalog.withMerged merged)).value =
      (catalog.withMerged table,
        entries.map (fun entry => MergedType.fold entry.2.first entry.2.later)) := by
  induction entries generalizing merged with
  | nil => exact ⟨merged, rfl⟩
  | cons entry rest ih =>
      have absent : entry.1 ∉ merged.map Prod.fst := by
        intro member
        exact (List.nodup_append'.1 unique).2.2 member (by simp)
      have step := catalog.value_mergeDefinitions entry.2 absent
      obtain ⟨table, equal⟩ := ih
        (merged ++ [(entry.1, MergedType.fold entry.2.first entry.2.later)])
        (by simpa using unique)
      refine ⟨table, ?_⟩
      rw [value_mergeEach_cons, step, equal]
      rfl

/-- All definitions are merged, and only the table of merged definitions changes. -/
theorem value_mergeAll (fresh : catalog.merged = [])
    (unique : catalog.complexTypes.names.Nodup) :
    ∃ table, catalog.mergeAll.value = (catalog.withMerged table, catalog.mergedTypes) := by
  have start : catalog = catalog.withMerged [] := by
    rw [withMerged, ← fresh]
  have all := catalog.value_mergeEach [] catalog.complexTypes.entries
    (by simpa [Registry.names] using unique)
  rw [← start] at all
  exact all

end Catalog

end SchemaBinding
