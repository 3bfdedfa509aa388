import SchemaBinding.Proofs.Model

/-!
# Which types keep a class

Every name that a class is requested for gets exactly one class, that of the first
type requested under the name.  A type goes without a class of its own only where
another type, one inside a particle, bears its name.
-/

namespace SchemaBinding

open Emission

def Shown (model : Model) (name : String) (parts : List Part) : Prop :=
  ∃ kept ∈ model.classes, kept.originalName = name ∧ kept.name = Naming.typeName name ∧
    kept.parts = parts

/-- A type is shown, or in its place another one of the same name that has other parts. -/
def ShownUnless (model : Model) (others : List Request) (type : MergedType) : Prop :=
  Shown model type.name type.parts ∨
    ∃ other ∈ others, other.name = type.name ∧ other.type.parts ≠ type.parts ∧
      Shown model other.name other.type.parts

/-- What the classes of a model show of the types of schemas, when requests were served in an order. -/
structure Covered (schemas : List Schema) (run : Logged (Catalog × Model))
    (served : List Request) : Prop where
  /-- Of several requests for a name the first one counts, depth first. -/
  order : ∃ left,
    Traversal Request.name Request.inner [] (requestsOf run.value.1) served left ∧
    run.value.2.classes.map (fun kept => (kept.originalName, kept.parts)) =
      left.map (fun request => (request.name, request.type.parts))
  once : (run.value.2.classes.map ClassModel.originalName).Nodup
  declared : ∀ name merged,
    MergedType.ofList? (complexTypesNamed schemas name) = some merged →
    merged.name = name ∧
      ShownUnless run.value.2 (served.flatMap Request.inner) merged
  inside : ∀ kept ∈ run.value.2.classes, ∃ owner ∈ served,
    kept.originalName = owner.name ∧ kept.parts = owner.type.parts ∧
    List.Forall₂ (fun particle field => ∀ type, particle.complexType = some type →
      field.type.target =
          .structural (Naming.typeName (Naming.synthesizedName owner.name particle.name)) ∧
        ShownUnless run.value.2
          (requestsOf run.value.1 ++ served.flatMap Request.inner)
          (owner.type.synthesized particle.name type))
      owner.type.elements kept.elementFields
  roots : ∀ name element type, firstElement? schemas name = some element →
    element.complexType = some type → ¬ DeclaresComplex schemas name →
    type.name = name ∧
      ShownUnless run.value.2 (served.flatMap Request.inner) (.ofDefinition type)
  /-- A type inside an element with the name of a complex type is given up, and that is reported. -/
  collisions : ∀ name element type, firstElement? schemas name = some element →
    element.complexType = some type → DeclaresComplex schemas name →
    collisionRecord name ∈ run.records

namespace Modelled

variable {schemas : List Schema} {run : Logged (Catalog × Model)}
variable {roots : List (String × RootElement)} {entered left : List Request}

theorem shown_of_served (modelled : Modelled schemas run roots entered left)
    {request : Request} (served : request ∈ entered) :
    Shown run.value.2 request.name request.type.parts :=
  ⟨_, (modelled.mem_classes_iff _).2 ⟨request, served, rfl⟩, rfl, rfl,
    parts_classOf run.value.1 roots request⟩

theorem map_classes (modelled : Modelled schemas run roots entered left) :
    run.value.2.classes.map (fun kept => (kept.originalName, kept.parts)) =
      left.map (fun request => (request.name, request.type.parts)) := by
  rw [modelled.classes_eq, List.map_map]
  refine List.map_congr_left (fun request _ => ?_)
  show (_, (classOf run.value.1 roots request).parts) = _
  rw [parts_classOf]
  rfl

theorem nodup_originalNames (modelled : Modelled schemas run roots entered left) :
    (run.value.2.classes.map ClassModel.originalName).Nodup := by
  have names : run.value.2.classes.map ClassModel.originalName = left.map Request.name := by
    rw [modelled.classes_eq, List.map_map]
    rfl
  rw [names]
  exact (modelled.traversal.perm.map Request.name).nodup_iff.1 modelled.traversal.nodup_keys

/-- No name is requested twice at first. -/
theorem nodup_requested (modelled : Modelled schemas run roots entered left)
    (read : ∀ schema ∈ schemas, schema.IsRead) :
    ((requestsOf run.value.1).map Request.name).Nodup := by
  have merged : (run.value.1.mergedTypes.map (⟨·, false⟩)).map Request.name =
      run.value.1.complexTypes.names := by
    rw [Catalog.mergedTypes, List.map_map, List.map_map]
    exact List.map_congr_left (fun entry member => (modelled.request_of_entry member).1)
  have inElements : ((rootTypesOf run.value.1).map (fun entry =>
      ⟨MergedType.ofDefinition entry.2, false⟩)).map Request.name =
      (rootTypesOf run.value.1).map Prod.fst := by
    rw [List.map_map]
    exact List.map_congr_left (fun entry member => (modelled.request_of_root read member).1)
  rw [requestsOf, List.map_append, merged, inElements, List.nodup_append']
  refine ⟨?_, ?_, ?_⟩
  · rw [modelled.holds.complexTypes_eq]
    exact Registry.nodup_names_ofList _ _
  · refine List.Nodup.sublist (names_rootTypesOf_sublist run.value.1) ?_
    rw [modelled.holds.elements_eq]
    exact Registry.nodup_names_ofList _ _
  · intro name declared root
    obtain ⟨entry, member, rfl⟩ := List.mem_map.1 root
    have free := not_contains_of_mem_rootTypesOf run.value.1 member
    rw [Registry.mem_names_iff_contains, free] at declared
    cases declared

/-- Where another request for the name was served, the type is shown if the parts are the same. -/
theorem shownUnless_of_served (modelled : Modelled schemas run roots entered left)
    {others : List Request} {other request : Request} (served : other ∈ entered)
    (same : other.name = request.name) (among : other ∈ others) :
    ShownUnless run.value.2 others request.type := by
  have shown := modelled.shown_of_served served
  by_cases equal : other.type.parts = request.type.parts
  · rw [same, equal] at shown
    exact .inl shown
  · exact .inr ⟨other, among, same, equal, shown⟩

/-- A type that is requested at first keeps its class, unless one inside a particle takes the name. -/
theorem shownUnless_requested (modelled : Modelled schemas run roots entered left)
    (read : ∀ schema ∈ schemas, schema.IsRead) {request : Request}
    (requested : request ∈ requestsOf run.value.1) :
    ShownUnless run.value.2 (entered.flatMap Request.inner) request.type := by
  obtain ⟨other, served, same⟩ := List.mem_map.1 (modelled.serves_requested requested)
  rcases modelled.traversal.requested served with atFirst | ⟨owner, ownerServed, leads⟩
  · obtain rfl := List.inj_on_of_nodup_map (modelled.nodup_requested read) atFirst requested same
    exact .inl (modelled.shown_of_served served)
  · exact modelled.shownUnless_of_served served same
      (List.mem_flatMap.2 ⟨owner, ownerServed, leads⟩)

/-- A type inside a particle keeps its class, unless another requested type takes the name. -/
theorem shownUnless_inner (modelled : Modelled schemas run roots entered left)
    {owner request : Request} (ownerServed : owner ∈ entered) (leads : request ∈ owner.inner) :
    ShownUnless run.value.2 (requestsOf run.value.1 ++ entered.flatMap Request.inner)
      request.type := by
  obtain ⟨other, served, same⟩ := List.mem_map.1 (modelled.serves_inner ownerServed leads)
  refine modelled.shownUnless_of_served served same ?_
  rcases modelled.traversal.requested served with atFirst | ⟨holder, holderServed, held⟩
  · exact List.mem_append_left _ atFirst
  · exact List.mem_append_right _ (List.mem_flatMap.2 ⟨holder, holderServed, held⟩)

/-- The fields for the particles of a served type refer to what is shown of the types inside. -/
theorem inside_classOf (modelled : Modelled schemas run roots entered left)
    {owner : Request} (served : owner ∈ entered) :
    List.Forall₂ (fun particle field => ∀ type, particle.complexType = some type →
      field.type.target =
          .structural (Naming.typeName (Naming.synthesizedName owner.name particle.name)) ∧
        ShownUnless run.value.2
          (requestsOf run.value.1 ++ entered.flatMap Request.inner)
          (owner.type.synthesized particle.name type))
      owner.type.elements (classOf run.value.1 roots owner).elementFields := by
  have each := forall₂_elementFields_classOf run.value.1 roots owner
  rw [List.forall₂_iff_get] at each ⊢
  refine ⟨each.1, fun i inTypes inFields type given => ?_⟩
  have isField := each.2 i inTypes inFields
  have leads : ⟨owner.type.synthesized (owner.type.elements.get ⟨i, inTypes⟩).name type, true⟩ ∈
      owner.inner :=
    List.mem_filterMap.2 ⟨_, List.get_mem _ _, by rw [given]; rfl⟩
  refine ⟨?_, modelled.shownUnless_inner served leads⟩
  rw [isField.type_eq, fieldType, given]
  rfl

end Modelled

/-- The model of schemas that were read covers their types. -/
theorem exists_covered_modelOf (schemas : List Schema)
    (read : ∀ schema ∈ schemas, schema.IsRead) :
    ∃ served, Covered schemas (Generator.modelOf (.ofSchemas schemas)) served := by
  obtain ⟨roots, served, left, modelled⟩ := exists_modelled schemas
  refine ⟨served, ?_⟩
  constructor
  case order => exact ⟨left, modelled.traversal, modelled.map_classes⟩
  case once => exact modelled.nodup_originalNames
  case declared =>
    intro name merged folded
    cases named : complexTypesNamed schemas name with
    | nil =>
        rw [named] at folded
        cases folded
    | cons first later =>
        rw [named] at folded
        obtain rfl := Option.some.inj folded
        obtain ⟨sameName, requested⟩ :=
          modelled.request_of_entry (modelled.holds.entry_of_complexTypesNamed named)
        exact ⟨sameName, modelled.shownUnless_requested read requested⟩
  case inside =>
    intro kept member
    obtain ⟨owner, ownerServed, rfl⟩ := (modelled.mem_classes_iff kept).1 member
    exact ⟨owner, ownerServed, rfl, parts_classOf _ roots owner,
      modelled.inside_classOf ownerServed⟩
  case roots =>
    intro name element type first given undeclared
    have free := mt (modelled.holds.declares_complexType name).1 undeclared
    obtain ⟨sameName, requested⟩ := modelled.request_of_root read
      (modelled.mem_rootTypesOf first given (by simpa using free))
    exact ⟨sameName, modelled.shownUnless_requested read requested⟩
  case collisions =>
    intro name element type first given declared
    exact collisionRecord_mem_modelOf first given declared

open Schema in
/-- A schema where a type inside a particle takes the name of a complex type. -/
def chestSchema : Schema :=
  (ofDeclarations? (.ofString "chest.xsd") [
    declaration "complexType" [("name", "Chest")] [
      declaration "sequence" [] [
        declaration "element" [("name", "lid")] [
          declaration "complexType" [] [declaration "attribute" [("name", "color")] []]]]],
    declaration "complexType" [("name", "Chest_lidType")] [
      declaration "attribute" [("name", "width")] []],
    declaration "element" [("name", "Key")] [
      declaration "complexType" [] [declaration "attribute" [("name", "teeth")] []]]]).getD default

theorem isRead_chestSchema : ∀ schema ∈ [chestSchema], schema.IsRead := by
  intro schema member
  obtain rfl := List.mem_singleton.1 member
  exact Schema.isRead_getD_ofDeclarations? (by decide +kernel)

theorem exists_covered_modelOf_chestSchema :
    (∀ schema ∈ [chestSchema], schema.IsRead) ∧
      (∃ served, Covered [chestSchema] (Generator.modelOf (.ofSchemas [chestSchema])) served) ∧
      (Generator.modelOf (.ofSchemas [chestSchema])).value.2.classes.map
          (fun kept => (kept.originalName, kept.parts)) =
        [("Chest_lidType", [.attributeUse "color"]), ("Chest", [.element "lid"]),
          ("Key", [.attributeUse "teeth"])] :=
  ⟨isRead_chestSchema, exists_covered_modelOf [chestSchema] isRead_chestSchema,
    by decide +kernel⟩

/-- A complex type may go without a class: not every name shows what its definitions merge to. -/
theorem exists_declared_not_shown :
    (∀ schema ∈ [chestSchema], schema.IsRead) ∧
      ¬ ∀ name merged,
        MergedType.ofList? (complexTypesNamed [chestSchema] name) = some merged →
        Shown (Generator.modelOf (.ofSchemas [chestSchema])).value.2 name merged.parts := by
  refine ⟨isRead_chestSchema, fun all => ?_⟩
  have width : (MergedType.ofList? (complexTypesNamed [chestSchema] "Chest_lidType")).map
      MergedType.parts = some [.attributeUse "width"] := by decide +kernel
  obtain ⟨merged, found, parts⟩ := Option.map_eq_some_iff.1 width
  have shown := all "Chest_lidType" merged found
  rw [parts] at shown
  have missing : ¬ ∃ kept ∈ (Generator.modelOf (.ofSchemas [chestSchema])).value.2.classes,
      kept.originalName = "Chest_lidType" ∧
        kept.name = Naming.typeName "Chest_lidType" ∧
        kept.parts = [.attributeUse "width"] := by decide +kernel
  exact missing shown

end SchemaBinding
