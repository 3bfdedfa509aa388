import SchemaBinding.Proofs.Caches
import SchemaBinding.Proofs.Names

/-!
# The order of classes

Calls on an emitter serve their requests in a depth-first traversal that goes on
from call to call.  The name of a type inside a particle is longer than that of
its owner, so it is never the name of a class that is still under construction:
every class comes behind those for the types inside its particles.
-/

namespace SchemaBinding

/-- Values with the keys that they were found under stand in the order of the keys. -/
theorem map_filterMap_sublist {α β : Type} {find : α → Option β} {keyOf : β → α}
    (named : ∀ key value, find key = some value → keyOf value = key) (keys : List α) :
    ((keys.filterMap find).map keyOf).Sublist keys := by
  induction keys with
  | nil => exact .slnil
  | cons key rest ih =>
      cases found : find key with
      | none =>
          rw [List.filterMap_cons_none found]
          exact ih.cons key
      | some value =>
          rw [List.filterMap_cons_some found, List.map_cons, named key value found]
          exact ih.cons_cons key

namespace Catalog

variable {history : List Call} {name : String} {type : MergedType}

/-- What the definitions of one name make together has that name. -/
theorem name_of_ofList? {types : List ComplexType}
    (folded : MergedType.ofList? (types.filter (·.name == name)) = some type) :
    type.name = name := by
  cases listed : types.filter (·.name == name) with
  | nil =>
      rw [listed] at folded
      cases folded
  | cons first later =>
      have member : first ∈ types.filter (·.name == name) := listed ▸ List.mem_cons_self
      rw [listed] at folded
      cases folded
      rw [MergedType.fold, MergedType.name_foldl]
      change first.name = name
      simpa using (List.mem_filter.1 member).2

/-- A merged definition is kept under its own name. -/
theorem name_of_merged? (known : (after history).merged? name = some type) :
    type.name = name := by
  induction history using List.reverseRecOn with
  | nil => cases known
  | append_singleton history call ih =>
      rw [merged?_after_concat] at known
      rcases Option.or_eq_some_iff.1 known with earlier | ⟨_, now⟩
      · exact ih earlier
      · unfold mergedBy? at now
        split at now
        · exact name_of_ofList? now
        · cases now

/-- Merging all types gives them in the order of their names. -/
theorem names_mergeAll_sublist (history : List Call) :
    ((after history).mergeAll.value.2.map MergedType.name).Sublist
      (after history).complexTypes.names := by
  rw [mergeAll_eq_addMissing]
  refine map_filterMap_sublist (fun name type found => ?_) _
  rw [mergedTable, find?_addMissing, find?_foldedTypes, foldedType?, complexTypes_after,
    Registry.get_ofList] at found
  rcases Option.or_eq_some_iff.1 found with known | ⟨_, folded⟩
  · exact name_of_merged? known
  · exact name_of_ofList? folded

theorem nodup_names_elements (history : List Call) : (after history).elements.names.Nodup := by
  rw [elements_after]
  exact Registry.nodup_names_ofList GlobalElement.name _

end Catalog

namespace Emission

inductive Call where
  /-- All that the catalogue declares is emitted. -/
  | everything (catalog : Catalog)
  /-- The class for one type is requested. -/
  | single (catalog : Catalog) (request : Request)

namespace Call

def catalog : Call → Catalog
  | everything catalog | single catalog _ => catalog

def next (emission : Emission) : Call → Emission
  | everything catalog => (emission.emit catalog).value.2
  | single catalog request =>
      (emission.emitClass catalog request.type request.isSynthesized).value.1

/-- The requests that a call makes itself. -/
def requests (emission : Emission) : Call → List Request
  | everything catalog =>
      catalog.mergeAll.value.2.map (⟨·, false⟩) ++
        (emission.collectRoots catalog).value.rootTypes.map
          (fun entry => ⟨MergedType.ofDefinition entry.2, false⟩)
  | single _ request => [request]

end Call

def afterFrom (emission : Emission) (calls : List Call) : Emission :=
  calls.foldl Call.next emission

def requestedFrom (emission : Emission) : List Call → List Request
  | [] => []
  | call :: rest => call.requests emission ++ requestedFrom (call.next emission) rest

/-- The emission after calls on a new emitter. -/
def after (calls : List Call) : Emission :=
  afterFrom empty calls

def BuiltAt (calls : List Call) (request : Request) (model : ClassModel) : Prop :=
  ∃ call ∈ calls, ∃ roots, classOf call.catalog roots request = model

section Emit

variable (catalog : Catalog)

def begun (before : Emission) : Emission :=
  (before.collectRoots catalog).value.addEnums catalog

/-- Before the first class nothing is added to the classes and their names. -/
theorem begun_keeps (before : Emission) :
    (begun catalog before).emitted = before.emitted ∧
      (begun catalog before).model.classes = before.model.classes ∧
      (begun catalog before).rootTypes = (before.collectRoots catalog).value.rootTypes := by
  obtain ⟨rootTypes, roots, collected⟩ := exists_withRoots_collectRoots catalog before
  obtain ⟨names, enumerated⟩ := exists_addEnums catalog (before.collectRoots catalog).value
  rw [begun, enumerated, collected]
  exact ⟨rfl, rfl, rfl⟩

def mergedAdded (before : Emission) : Emission :=
  ((begun catalog before).emitClasses catalog.mergeAll.value.1 catalog.mergeAll.value.2).value

theorem next_everything (before : Emission) :
    (Call.everything catalog).next before =
      ((mergedAdded catalog before).emitClasses catalog.mergeAll.value.1
        ((mergedAdded catalog before).rootTypes.map
          (fun entry => MergedType.ofDefinition entry.2))).value := rfl

/-- Emitting a catalogue serves the requests for merged types and for types inside elements. -/
theorem exists_serves_everything (before : Emission) :
    ∃ entered left records, Serves catalog.mergeAll.value.1 (begun catalog before)
      ((Call.everything catalog).requests before) entered left
      ((Call.everything catalog).next before) records := by
  obtain ⟨entered, left, first⟩ := exists_serves_emitClasses catalog.mergeAll.value.1
    (begun catalog before) catalog.mergeAll.value.2
  obtain ⟨enteredLater, leftLater, second⟩ := exists_serves_emitClasses catalog.mergeAll.value.1
    (mergedAdded catalog before)
    ((mergedAdded catalog before).rootTypes.map (fun entry => MergedType.ofDefinition entry.2))
  have kept : (mergedAdded catalog before).rootTypes =
      (before.collectRoots catalog).value.rootTypes := by
    rw [mergedAdded, first.after_eq, grow]
    exact (begun_keeps catalog before).2.2
  have served := first.append second
  rw [kept, List.map_map] at served
  rw [next_everything, kept]
  exact ⟨entered ++ enteredLater, left ++ leftLater, _, served⟩

end Emit

/-- A call serves its requests, and adds the classes of those that are left. -/
theorem exists_traversal_call (before : Emission) (call : Call) :
    ∃ entered left roots,
      Traversal Request.name Request.inner before.emitted (call.requests before) entered left ∧
      (call.next before).emitted = (entered.map Request.name).reverse ++ before.emitted ∧
      (call.next before).model.classes =
        before.model.classes ++ left.map (classOf call.catalog roots) := by
  cases call with
  | everything catalog =>
      obtain ⟨entered, left, records, served⟩ := exists_serves_everything catalog before
      obtain ⟨sameEmitted, sameClasses, _⟩ := begun_keeps catalog before
      have traversal := served.traversal
      rw [sameEmitted] at traversal
      refine ⟨entered, left, (begun catalog before).roots, traversal, ?_, ?_⟩
      · rw [served.after_eq, grow, sameEmitted]
      · rw [served.after_eq, grow, sameClasses, catalog.mergeAll_eq_addMissing]
        rfl
  | single catalog request =>
      obtain ⟨entered, left, served⟩ :=
        exists_serves_emitClass catalog before request.type request.isSynthesized
      refine ⟨entered, left, before.roots, served.traversal, ?_, ?_⟩
      · exact congrArg Emission.emitted served.after_eq
      · exact congrArg (fun emission => emission.model.classes) served.after_eq

/-- Calls serve their requests in one traversal, and add the classes of those that are left. -/
structure CallsServe (before : Emission) (calls : List Call) (entered left : List Request)
    (models : List ClassModel) : Prop where
  traversal : Traversal Request.name Request.inner before.emitted (requestedFrom before calls)
    entered left
  emitted_iff : ∀ name, name ∈ (afterFrom before calls).emitted ↔
    name ∈ entered.map Request.name ++ before.emitted
  classes_eq : (afterFrom before calls).model.classes = before.model.classes ++ models
  built : List.Forall₂ (BuiltAt calls) left models

theorem BuiltAt.mono {calls others : List Call} (inside : calls ⊆ others) {request : Request}
    {model : ClassModel} (built : BuiltAt calls request model) : BuiltAt others request model := by
  obtain ⟨call, member, roots, equal⟩ := built
  exact ⟨call, inside member, roots, equal⟩

/-- A class is of the request that it was built for. -/
theorem BuiltAt.originalName_eq {calls : List Call} {request : Request} {model : ClassModel}
    (built : BuiltAt calls request model) : model.originalName = request.name := by
  obtain ⟨call, member, roots, rfl⟩ := built
  rfl

theorem exists_callsServe (before : Emission) (calls : List Call) :
    ∃ entered left models, CallsServe before calls entered left models := by
  induction calls generalizing before with
  | nil =>
      exact ⟨[], [], [], .done _, fun name => .rfl, (List.append_nil _).symm, .nil⟩
  | cons call rest ih =>
      obtain ⟨entered, left, roots, first, emitted, classes⟩ := exists_traversal_call before call
      obtain ⟨enteredLater, leftLater, models, later⟩ := ih (call.next before)
      refine ⟨entered ++ enteredLater, left ++ leftLater,
        left.map (classOf call.catalog roots) ++ models, ?_, ?_, ?_, ?_⟩
      · refine first.append (later.traversal.of_seen_iff ?_)
        intro name
        simp [emitted]
      · intro name
        rw [afterFrom, List.foldl_cons, ← afterFrom, later.emitted_iff, emitted]
        simp [or_left_comm]
      · rw [afterFrom, List.foldl_cons, ← afterFrom, later.classes_eq, classes, List.append_assoc]
      · refine List.rel_append ?_ ?_
        · rw [List.forall₂_map_right_iff, List.forall₂_same]
          exact fun request _ => ⟨call, List.mem_cons_self, roots, rfl⟩
        · exact later.built.imp (fun _ _ => BuiltAt.mono (List.subset_cons_self call rest))

theorem Request.mem_inner_iff {owner request : Request} :
    request ∈ owner.inner ↔ ∃ particle ∈ owner.type.elements, ∃ type,
      particle.complexType = some type ∧
        ⟨owner.type.synthesized particle.name type, true⟩ = request := by
  simp only [Request.inner, innerOf, List.mem_filterMap, Option.map_eq_some_iff]

/-- The name of a type inside a particle is longer than that of its owner. -/
theorem Request.length_name_lt {owner request : Request} (leads : request ∈ owner.inner) :
    owner.name.length < request.name.length := by
  obtain ⟨particle, _, type, _, rfl⟩ := mem_inner_iff.1 leads
  change owner.name.length < (owner.name ++ "_" ++ particle.name ++ "Type").length
  simp only [String.length_append]
  have tail : "Type".length = 4 := rfl
  omega

/-- A request for a name that was given is passed over, and nothing changes. -/
theorem value_emitClass_of_mem (catalog : Catalog) {emission : Emission} {type : MergedType}
    (isSynthesized : Bool) (known : type.name ∈ emission.emitted) :
    (emission.emitClass catalog type isSynthesized).value = (emission, none) := by
  unfold emitClass
  rw [if_pos (by simpa using known)]
  rfl

/-- The classes that calls on a new emitter add, and their order. -/
structure IsOrdered (calls : List Call) : Prop where
  /-- No type of the schemas has two classes. -/
  once : ((after calls).model.classes.map ClassModel.originalName).Nodup
  /-- A request for a name that has a class is passed over, and nothing changes. -/
  passed : ∀ catalog type isSynthesized,
    type.name ∈ (after calls).model.classes.map ClassModel.originalName →
    ((after calls).emitClass catalog type isSynthesized).value = (after calls, none)
  /--
  The classes are built for the requests that are served, and before each of them
  there are those for the types inside the particles of its type.
  -/
  inner_first : ∃ entered left,
    Traversal Request.name Request.inner [] (requestedFrom empty calls) entered left ∧
    List.Forall₂ (BuiltAt calls) left (after calls).model.classes ∧
    ∀ earlier kept later, (after calls).model.classes = earlier ++ kept :: later →
      ∃ owner, left[earlier.length]? = some owner ∧ BuiltAt calls owner kept ∧
        ∀ particle ∈ owner.type.elements, particle.complexType.isSome = true →
          ∃ other ∈ earlier,
            other.originalName = Naming.synthesizedName kept.originalName particle.name

section Ordered

variable {calls : List Call} {left : List Request}

theorem originalNames_eq {models : List ClassModel}
    (built : List.Forall₂ (BuiltAt calls) left models) :
    models.map ClassModel.originalName = left.map Request.name :=
  (map_eq_map_of_forall₂ (fun _ _ here => here.originalName_eq.symm) built).symm

/-- A class stands where its request stands among those that are left. -/
theorem exists_owner_at {earlier later : List ClassModel} {kept : ClassModel}
    (built : List.Forall₂ (BuiltAt calls) left (earlier ++ kept :: later)) :
    ∃ before owner rest, left = before ++ owner :: rest ∧ before.length = earlier.length ∧
      before.map Request.name = earlier.map ClassModel.originalName ∧
      BuiltAt calls owner kept := by
  have front := List.forall₂_take_append left earlier (kept :: later) built
  obtain ⟨owner, rest, here, _, split⟩ := List.forall₂_cons_right_iff.1
    (List.forall₂_drop_append left earlier (kept :: later) built)
  refine ⟨left.take earlier.length, owner, rest, ?_, front.length_eq, ?_, here⟩
  · rw [← split, List.take_append_drop]
  · exact (originalNames_eq front).symm

/-- Calls on a new emitter add each class once, behind those for the types inside its type. -/
theorem isOrdered (calls : List Call) : IsOrdered calls := by
  obtain ⟨entered, left, models, serve⟩ := exists_callsServe empty calls
  have classes : (after calls).model.classes = models := serve.classes_eq
  have traversal := serve.traversal
  have names := originalNames_eq serve.built
  refine ⟨?_, ?_, ⟨entered, left, traversal, classes ▸ serve.built, ?_⟩⟩
  · rw [classes, names]
    exact (traversal.perm.map Request.name).nodup traversal.nodup_keys
  · intro catalog type isSynthesized member
    rw [classes, names, ← (traversal.perm.map Request.name).mem_iff] at member
    exact value_emitClass_of_mem catalog isSynthesized
      ((serve.emitted_iff type.name).2 (List.mem_append_left _ member))
  · intro earlier kept later split
    have built := serve.built
    rw [← classes, split] at built
    obtain ⟨before, owner, rest, placed, length, same, here⟩ := exists_owner_at built
    refine ⟨owner, ?_, here, ?_⟩
    · rw [placed, ← length, List.getElem?_append_right (Nat.le_refl _), Nat.sub_self]
      rfl
    · intro particle member inside
      obtain ⟨type, given⟩ := Option.isSome_iff_exists.1 inside
      have leads : ⟨owner.type.synthesized particle.name type, true⟩ ∈ owner.inner :=
        Request.mem_inner_iff.2 ⟨particle, member, type, given, rfl⟩
      have fresh : Traversal.RisesFrom Request.name String.length [] empty.emitted
          (requestedFrom empty calls) := fun _ member => absurd member List.not_mem_nil
      have first := traversal.left_after String.length
        (fun _ _ leads => Request.length_name_lt leads) fresh before owner rest placed _ leads
      rw [same] at first
      obtain ⟨other, otherIn, equal⟩ := List.mem_map.1 (first.resolve_left List.not_mem_nil)
      refine ⟨other, otherIn, ?_⟩
      rw [equal, here.originalName_eq]
      rfl

end Ordered

def insideElements (catalog : Catalog) : List (String × ComplexType) :=
  catalog.elements.entries.filterMap (fun entry =>
    entry.2.first.complexType.map (fun type => (entry.1, type)))

def outerNames (model : Model) : List String :=
  (model.classes.filter (!·.isSynthesized)).map ClassModel.originalName

/-- The classes of a catalogue, but for types inside particles, are in the declared order. -/
structure FollowsDeclarations (catalog : Catalog) : Prop where
  /-- The complex types come first, then the types inside global elements. -/
  declared : (outerNames (empty.emit catalog).value.2.model).Sublist
    (catalog.complexTypes.names ++ (insideElements catalog).map (fun entry => entry.2.name))
  /-- The types inside global elements may have the names of the elements. -/
  named : (∀ entry ∈ insideElements catalog, entry.2.name = entry.1) →
    (outerNames (empty.emit catalog).value.2.model).Sublist
      (catalog.complexTypes.names ++ (insideElements catalog).map Prod.fst)

theorem rootTypesOf_sublist (catalog : Catalog) :
    (rootTypesOf catalog).Sublist (insideElements catalog) := by
  rw [rootTypesOf, insideElements, List.filterMap_eq_flatMap_toList,
    List.filterMap_eq_flatMap_toList]
  induction catalog.elements.entries with
  | nil => exact .slnil
  | cons entry rest ih =>
      have here : (rootType? catalog entry.1 entry.2.first).toList.Sublist
          (entry.2.first.complexType.map (fun type => (entry.1, type))).toList := by
        unfold rootType?
        split
        · exact List.nil_sublist _
        · exact .refl _
      rw [List.flatMap_cons, List.flatMap_cons]
      exact here.append ih

/-- The classes that emitting a catalogue adds follow its requests. -/
theorem outerNames_emit_sublist (catalog : Catalog) :
    (outerNames (empty.emit catalog).value.2.model).Sublist
      (((Call.everything catalog).requests empty).map Request.name) := by
  obtain ⟨entered, left, roots, traversal, _, classes⟩ :=
    exists_traversal_call empty (.everything catalog)
  have outer : ∀ owner, ∀ request ∈ Request.inner owner, (!request.isSynthesized) = false := by
    intro owner request leads
    obtain ⟨particle, _, type, _, rfl⟩ := Request.mem_inner_iff.1 leads
    rfl
  have names : outerNames (empty.emit catalog).value.2.model =
      (left.filter (!·.isSynthesized)).map Request.name := by
    change outerNames ((Call.everything catalog).next empty).model = _
    rw [outerNames, classes]
    change ((left.map (classOf catalog roots)).filter _).map _ = _
    rw [List.filter_map, List.map_map]
    rfl
  rw [names]
  exact ((traversal.filter_sublist outer).trans List.filter_sublist).map Request.name

theorem declared_sublist (history : List Catalog.Call) :
    (outerNames (empty.emit (Catalog.after history)).value.2.model).Sublist
      ((Catalog.after history).complexTypes.names ++
        (insideElements (Catalog.after history)).map (fun entry => entry.2.name)) := by
  obtain ⟨roots, collected⟩ := exists_collectRoots (Catalog.after history)
    (Catalog.nodup_names_elements history)
  refine (outerNames_emit_sublist (Catalog.after history)).trans ?_
  rw [Call.requests, collected, List.map_append, List.map_map, List.map_map]
  exact (Catalog.names_mergeAll_sublist history).append ((rootTypesOf_sublist _).map _)

theorem followsDeclarations (history : List Catalog.Call) :
    FollowsDeclarations (Catalog.after history) where
  declared := declared_sublist history
  named same := by
    have declared := declared_sublist history
    rwa [List.map_congr_left same] at declared

/--
The classes that calls on an emitter add: each name has one, and it comes behind
those for the types inside the particles of its type.  The classes of everything
that was declared follow the declarations.
-/
theorem classes_inOrder (history : List Catalog.Call) (calls : List Call) :
    IsOrdered calls ∧ FollowsDeclarations (Catalog.after history) :=
  ⟨isOrdered calls, followsDeclarations history⟩

/-- A lamp with a bulb, declared inside a global element, and then its stand. -/
def lampHistory : List Catalog.Call := [
  .addElement {
    name := "Lamp"
    complexType := some {
      name := "Lamp"
      elements := [{ name := "bulb", complexType := some {} }] } },
  .addComplexType { name := "Stand" }]

theorem classes_inOrder_lampHistory :
    (∀ entry ∈ insideElements (Catalog.after lampHistory), entry.2.name = entry.1) ∧
      (outerNames (empty.emit (Catalog.after lampHistory)).value.2.model).Sublist
        ((Catalog.after lampHistory).complexTypes.names ++
          (insideElements (Catalog.after lampHistory)).map Prod.fst) ∧
      (after [.everything (Catalog.after lampHistory)]).model.classes.map
        ClassModel.originalName = ["Stand", "Lamp_bulbType", "Lamp"] := by
  have named : ∀ entry ∈ insideElements (Catalog.after lampHistory), entry.2.name = entry.1 := by
    decide
  exact ⟨named, (classes_inOrder lampHistory []).2.named named, by decide⟩

/-- A type inside a global element that has a name of its own: its class has that name. -/
def renamedHistory : List Catalog.Call := [
  .addElement { name := "Lamp", complexType := some { name := "Vase" } }]

theorem outerNames_not_sublist_elementNames :
    ¬ ∀ (history : List Catalog.Call) (calls : List Call), IsOrdered calls ∧
      (outerNames (empty.emit (Catalog.after history)).value.2.model).Sublist
        ((Catalog.after history).complexTypes.names ++
          (insideElements (Catalog.after history)).map Prod.fst) := by
  intro always
  have outer : outerNames (empty.emit (Catalog.after renamedHistory)).value.2.model = ["Vase"] := by
    decide
  have declared : (Catalog.after renamedHistory).complexTypes.names ++
      (insideElements (Catalog.after renamedHistory)).map Prod.fst = ["Lamp"] := by
    decide
  have inside := (always renamedHistory []).2
  rw [outer, declared] at inside
  exact absurd inside (by decide)

end Emission

end SchemaBinding
