import SchemaBinding.Proofs.Generation
import SchemaBinding.Proofs.WorkspaceBuilding

/-!
# Building a model again

The model of a catalogue is built from its declarations alone: they are left as
they are, and the tables that the catalogue keeps are only completed.  So a
generator that has loaded its schemas builds the same model however often it is
asked, whatever happens to the files meanwhile.  That holds as well where everything
is an object that may be shared and changed in place.
-/

namespace SchemaBinding

namespace Catalog

/-- The same declarations, with everything still there that was computed of them. -/
structure Keeps (before after : Catalog) : Prop where
  complexTypes_eq : after.complexTypes = before.complexTypes
  simpleTypes_eq : after.simpleTypes = before.simpleTypes
  elements_eq : after.elements = before.elements
  namespaces_eq : after.namespaces = before.namespaces
  schemas_eq : after.schemas = before.schemas
  merged_prefix : before.merged <+: after.merged
  scalars_prefix : before.scalars <+: after.scalars

variable (catalog : Catalog)

theorem Keeps.refl : catalog.Keeps catalog :=
  ⟨rfl, rfl, rfl, rfl, rfl, List.prefix_rfl, List.prefix_rfl⟩

def completed : Catalog :=
  (catalog.withScalars (addMissing catalog.scalars catalog.representations)).withMerged
    catalog.mergedTable

theorem keeps_completed : catalog.Keeps catalog.completed where
  complexTypes_eq := rfl
  simpleTypes_eq := rfl
  elements_eq := rfl
  namespaces_eq := rfl
  schemas_eq := rfl
  merged_prefix := prefix_addMissing catalog.merged catalog.foldedTypes
  scalars_prefix := prefix_addMissing catalog.scalars catalog.representations

theorem value_classifyAll_completed : catalog.completed.classifyAll.value = catalog.completed := by
  have complete : addMissing catalog.completed.scalars catalog.completed.representations =
      catalog.completed.scalars :=
    addMissing_addMissing catalog.scalars catalog.representations
  rw [classifyAll_eq_addMissing, complete]
  rfl

/-- The merged definitions of all complex types are the same when they are asked for again. -/
theorem value_mergeAll_completed :
    catalog.completed.mergeAll.value = catalog.classifyAll.value.mergeAll.value := by
  have complete : catalog.completed.mergedTable = catalog.mergedTable :=
    addMissing_addMissing catalog.merged catalog.foldedTypes
  rw [mergeAll_eq_addMissing, complete, classifyAll_eq_addMissing, mergeAll_eq_addMissing]
  rfl

theorem fst_value_mergeAll_classifyAll :
    catalog.classifyAll.value.mergeAll.value.1 = catalog.completed := by
  rw [classifyAll_eq_addMissing, mergeAll_eq_addMissing]
  rfl

end Catalog

namespace Emission

variable {catalog : Catalog}

/-- What is emitted depends on the merged definitions only through what is asked for. -/
theorem value_emit_congr (merged : List (String × MergedType))
    (same : (catalog.withMerged merged).mergeAll.value = catalog.mergeAll.value) :
    (empty.emit (catalog.withMerged merged)).value = (empty.emit catalog).value := by
  have begun : afterMerged (catalog.withMerged merged) = afterMerged catalog := by
    rw [afterMerged, afterMerged, same]
    rfl
  rw [value_emit, value_emit, begun, same]

end Emission

namespace Generator

theorem fst_value_modelOf (catalog : Catalog) :
    (modelOf catalog).value.1 = catalog.completed := by
  rw [value_modelOf, value_emit]
  exact catalog.fst_value_mergeAll_classifyAll

/-- A complete catalogue has the model that it had before it was complete. -/
theorem value_modelOf_completed (catalog : Catalog) :
    (modelOf catalog.completed).value = (modelOf catalog).value := by
  have split : catalog.completed =
      catalog.classifyAll.value.withMerged catalog.mergedTable := by
    rw [Catalog.classifyAll_eq_addMissing]
    rfl
  have same := catalog.value_mergeAll_completed
  rw [value_modelOf, value_modelOf, catalog.value_classifyAll_completed, split,
    Emission.value_emit_congr catalog.mergedTable (split ▸ same)]

/-- The generator with the model of a catalogue, and with the catalogue complete. -/
def built (generator : Generator) (catalog : Catalog) : Generator :=
  { generator with
    catalog := some catalog.completed
    model := some (modelOf catalog).value.2 }

variable {generator : Generator} {catalog : Catalog}

theorem buildModel_eq_built (loaded : generator.catalog = some catalog) (tree : FileTree) :
    buildModel tree generator =
      (⟨(modelOf catalog).records, .ok (modelOf catalog).value.2⟩, generator.built catalog) := by
  rw [buildModel_of_loaded loaded, fst_value_modelOf]
  rfl

theorem completed_completed (catalog : Catalog) :
    catalog.completed.completed = catalog.completed := by
  rw [← fst_value_modelOf, value_modelOf_completed, fst_value_modelOf]

theorem built_completed (generator : Generator) (catalog : Catalog) :
    generator.built catalog.completed = generator.built catalog := by
  rw [built, completed_completed, value_modelOf_completed]
  rfl

/-- The first build after a loading is the only one that changes anything. -/
theorem mapM_buildModel (loaded : generator.catalog = some catalog) (trees : List FileTree) :
    (trees.mapM buildModel generator).1.outcome =
        .ok (List.replicate trees.length (modelOf catalog).value.2) ∧
      (trees.mapM buildModel generator).2 =
        if trees.isEmpty then generator else generator.built catalog := by
  induction trees generalizing generator catalog with
  | nil => exact ⟨rfl, rfl⟩
  | cons tree rest ih =>
      obtain ⟨outcome, state⟩ := @ih (generator.built catalog) catalog.completed rfl
      have nothing : (generator.built catalog).built catalog = generator.built catalog := rfl
      rw [built_completed, nothing, ite_self] at state
      rw [List.mapM_cons, Action.bind_of_ok (buildModel_eq_built loaded tree)]
      rcases later : rest.mapM buildModel (generator.built catalog) with ⟨⟨records, ending⟩, left⟩
      rw [later] at outcome state
      obtain rfl : ending = _ := outcome
      rw [Action.bind_of_ok later]
      refine ⟨?_, state⟩
      rw [value_modelOf_completed]
      rfl

/-- What is reported at the first build, and then at the others. -/
theorem records_mapM_buildModel (loaded : generator.catalog = some catalog) (tree : FileTree)
    (rest : List FileTree) :
    ((tree :: rest).mapM buildModel generator).1.records =
      (modelOf catalog).records ++
        (rest.mapM buildModel (generator.built catalog)).1.records := by
  have outcome := (@mapM_buildModel (generator.built catalog) catalog.completed rfl rest).1
  rw [List.mapM_cons, Action.bind_of_ok (buildModel_eq_built loaded tree)]
  rcases later : rest.mapM buildModel (generator.built catalog) with ⟨⟨records, ending⟩, left⟩
  rw [later] at outcome
  obtain rfl : ending = _ := outcome
  rw [Action.bind_of_ok later]
  exact congrArg ((modelOf catalog).records ++ ·) (List.append_nil records)

section Objects

open Workspace Work

/-- The builds in a workspace make a model each, and do not change the models made before. -/
theorem simulates_mapM_buildModel {room : Nat} {workspace : Workspace}
    (loaded : generator.catalog = some catalog) (trees : List FileTree)
    (holds : workspace.Holds room catalog) :
    Simulates (Extends []) (buildModels room trees.length) workspace
      ⟨(trees.mapM buildModel generator).1.records,
        if trees.isEmpty then catalog else catalog.completed⟩
      (fun addresses left after => after.Holds room left ∧
        List.Forall₂ after.ShowsModel addresses
          (List.replicate trees.length (modelOf catalog).value.2)) := by
  induction trees generalizing generator catalog workspace with
  | nil => exact .pure ⟨holds, .nil⟩
  | cons tree rest ih =>
      have one := simulates_buildModel holds
      have exactly : Simulates (Extends []) (Work.buildModel room) workspace (modelOf catalog)
          (fun address _ after => after.Holds room catalog.completed ∧
            after.ShowsModel address (modelOf catalog).value.2) :=
        ⟨one.records_eq, one.framed, fst_value_modelOf catalog ▸ one.related.1, one.related.2⟩
      have plain : (⟨((tree :: rest).mapM buildModel generator).1.records, catalog.completed⟩ :
          Logged Catalog) = modelOf catalog >>= fun _ =>
            ⟨(rest.mapM buildModel (generator.built catalog)).1.records,
              if rest.isEmpty then catalog.completed else catalog.completed.completed⟩ := by
        rw [records_mapM_buildModel loaded, completed_completed, ite_self]
        rfl
      show Simulates _ _ _ ⟨_, catalog.completed⟩ _
      rw [plain]
      refine .bind exactly id ?_
      rintro address _ middle - ⟨held, shown⟩
      refine .bindPure (ih rfl held) id ?_
      rintro addresses left after more ⟨heldAfter, all⟩
      rw [value_modelOf_completed] at all
      exact .pure ⟨heldAfter, .cons (shown.extends more) all⟩

end Objects

/--
However often the model of loaded schemas is built, and whatever the files are
then, it is the same model; the generator keeps its settings, and its catalogue
keeps all declarations and everything that was computed of them before.

The catalogue may be held by objects, however these are shared.  Then the builds make
objects for as many models and report the same; all objects that were there before are
what they were, and the tables lead to them as before.
-/
theorem buildModel_isRepeatable (loaded : generator.catalog = some catalog)
    (trees : List FileTree) :
    (trees.mapM buildModel generator).1.outcome =
        .ok (List.replicate trees.length (modelOf catalog).value.2) ∧
      (∃ left model, catalog.Keeps left ∧
        (trees.mapM buildModel generator).2 = { generator with catalog := some left, model } ∧
        ∀ room workspace, Workspace.Holds workspace room catalog →
          Work.Simulates (Workspace.Extends []) (Work.buildModels room trees.length)
            workspace ⟨(trees.mapM buildModel generator).1.records, left⟩
            (fun addresses left after => after.Holds room left ∧
              List.Forall₂ after.ShowsModel addresses
                (List.replicate trees.length (modelOf catalog).value.2))) ∧
      ∃ room workspace, Workspace.Holds workspace room catalog := by
  obtain ⟨outcome, state⟩ := mapM_buildModel loaded trees
  refine ⟨outcome, ?_, Workspace.exists_holds catalog⟩
  have objects := fun room workspace holds =>
    @simulates_mapM_buildModel generator catalog room workspace loaded trees holds
  rw [state]
  cases trees with
  | nil => exact ⟨catalog, generator.model, .refl catalog, by rw [← loaded]; rfl, objects⟩
  | cons tree rest =>
      exact ⟨catalog.completed, some (modelOf catalog).value.2, catalog.keeps_completed, rfl,
        objects⟩

def soleTree (name : String) : FileTree where
  entries := [(["a.xsd"], Loader.textFile
    ("<schema xmlns='http://www.w3.org/2001/XMLSchema'><complexType name='" ++ name ++
      "'/></schema>"))]
  workingDirectory := []

def lampGenerator : Generator :=
  .new (.ofString "a.xsd") {} "generate"

/--
One document with an enumeration, a type that is declared twice, and types inside a
particle and inside a global element.
-/
def deskTree : FileTree where
  entries := [(["a.xsd"], Loader.textFile ("<schema xmlns='http://www.w3.org/2001/XMLSchema'>" ++
    "<simpleType name='Tint'><restriction><enumeration value='warm'/></restriction>" ++
    "</simpleType>" ++
    "<complexType name='Lamp'><all><element name='tint' type='Tint'/>" ++
    "<element name='shade'><complexType/></element></all></complexType>" ++
    "<complexType name='Lamp'><attribute name='watts'/></complexType>" ++
    "<element name='Desk'><complexType><all><element name='lamp' type='Lamp'/></all>" ++
    "</complexType></element></schema>"))]
  workingDirectory := []

/-- The names in a model: those of its enumerations, and those of its classes and their fields. -/
def namesIn (model : Model) : List String × List (String × List String) :=
  (model.enums.map EnumModel.name,
    model.classes.map fun kept => (kept.name, kept.fields.map Field.name))

/--
A model is built three times; its file is gone the second time, and another one the third.
The builds may as well be made in a workspace.
-/
theorem buildModel_isRepeatable_deskTree :
    ∃ catalog, (load deskTree lampGenerator).2.catalog = some catalog ∧
      namesIn (modelOf catalog).value.2 =
        (["Tint"], [("Lamp_shadeType", []), ("Lamp", ["tint", "shade", "watts"]),
          ("Desk", ["lamp"])]) ∧
      ([deskTree, ⟨[], []⟩, soleTree "Vase"].mapM buildModel
        (load deskTree lampGenerator).2).1.outcome =
          .ok (List.replicate 3 (modelOf catalog).value.2) ∧
      ∃ room workspace, Workspace.Holds workspace room catalog ∧
        Workspace.Extends [] workspace (Work.buildModels room 3 workspace).value.2 ∧
        List.Forall₂ (Work.buildModels room 3 workspace).value.2.ShowsModel
          (Work.buildModels room 3 workspace).value.1
          (List.replicate 3 (modelOf catalog).value.2) := by
  have one : (load deskTree lampGenerator).2.catalog.map
      (fun catalog => namesIn (modelOf catalog).value.2) =
        some (["Tint"], [("Lamp_shadeType", []), ("Lamp", ["tint", "shade", "watts"]),
          ("Desk", ["lamp"])]) := by
    simp only [deskTree, Loader.textFile, String.toList_append, String.reduceToList]
    decide +kernel
  obtain ⟨catalog, loaded, names⟩ := Option.map_eq_some_iff.1 one
  obtain ⟨outcome, ⟨left, model, -, -, objects⟩, room, workspace, holds⟩ :=
    buildModel_isRepeatable loaded [deskTree, ⟨[], []⟩, soleTree "Vase"]
  have run := objects room workspace holds
  exact ⟨catalog, loaded, names, outcome, room, workspace, holds, run.framed, run.related.2⟩

end Generator

end SchemaBinding
