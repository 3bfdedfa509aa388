import SchemaBinding.Proofs.Completion
import SchemaBinding.Proofs.WorkspaceModels

/-!
# Builds in a workspace

A model is built as an object just as it is as a value.  A build makes objects of its
own and completes the tables; whatever was there before stays as it is, the models of
earlier builds included.
-/

namespace SchemaBinding

namespace Emitter

open Workspace Work

variable {before : Workspace} {room : Nat} {catalog : Catalog} {building : List Handle}
variable {emitter : Emitter} {emission : Emission}

/-! ## Classes for types inside each other -/

theorem emitsClasses_emitNested (depth : Nat) :
    EmitsClasses room catalog depth true (emitNested (depth + 1)) := by
  induction depth with
  | zero =>
      refine emitsClasses_emitType (fun below same => ?_) true
      exact nomatch same
  | succ depth ih =>
      refine emitsClasses_emitType (fun below same => ?_) true
      obtain rfl := Nat.succ.inj same
      exact ih

/-- A workspace has room for the types inside those that it holds. -/
theorem emitsClasses_emitType_emitNested :
    EmitsClasses room catalog room false
      (fun emitter merged => emitType (emitNested room) emitter merged false) := by
  refine emitsClasses_emitType (fun below same => ?_) false
  rw [same]
  exact emitsClasses_emitNested below

/-! ## Roots -/

theorem Emits.addRoot (emits : Emits before room catalog building emitter emission) (type : String)
    (element : GlobalElement) :
    Emits before room catalog building
      (emitter.addRoot type ⟨element.name, element.targetNamespace⟩)
      (emission.addRoot type element) := by
  unfold Emitter.addRoot Emission.addRoot
  rw [emits.roots_eq]
  split
  · exact emits
  · exact ⟨emits.holds, emits.emitted_eq, rfl, emits.rootTypes, emits.shown, emits.building_lt⟩

theorem Emits.addRootType (emits : Emits before room catalog building emitter emission)
    (name : String) {address : Handle} {type : ComplexType}
    (held : before.HoldsType (room + 1) address type) :
    Emits before room catalog building (emitter.addRootType name address)
      (emission.addRootType name type) := by
  have known : (Emission.find? emitter.rootTypes name).isSome =
      (Emission.find? emission.rootTypes name).isSome :=
    isSome_eq_of_optionRel (optionRel_find?_key emits.rootTypes name)
  unfold Emitter.addRootType Emission.addRootType
  rw [known]
  split
  · refine ⟨emits.holds, emits.emitted_eq, emits.roots_eq, ?_, emits.shown, emits.building_lt⟩
    refine List.forall₂_map_left_iff.2 (List.forall₂_map_right_iff.2 (emits.rootTypes.imp ?_))
    intro entry other same
    rw [same.key_eq]
    split
    · exact ⟨rfl, held⟩
    · exact same
  · exact ⟨emits.holds, emits.emitted_eq, emits.roots_eq,
      List.rel_append emits.rootTypes (.cons ⟨rfl, held⟩ .nil), emits.shown, emits.building_lt⟩

def KeepsEmitting (room : Nat) (catalog : Catalog) (model : Handle) (emitter : Emitter)
    (emission : Emission) (workspace : Workspace) : Prop :=
  emitter.model = model ∧ Emits workspace room catalog [] emitter emission

theorem model_addRoot (emitter : Emitter) (type : String) (root : RootElement) :
    (emitter.addRoot type root).model = emitter.model := by
  unfold Emitter.addRoot
  split <;> rfl

theorem model_addRootType (emitter : Emitter) (name : String) (type : Handle) :
    (emitter.addRootType name type).model = emitter.model := by
  unfold Emitter.addRootType
  split <;> rfl

theorem simulates_collectRoot (emits : Emits before room catalog [] emitter emission)
    (name : String) {element : GlobalElement} {inner : Option Handle}
    (held : Option.Rel (before.HoldsType (room + 1)) inner element.complexType) :
    Simulates (Keeps []) (emitter.collectRoot name (element.object inner)) before
      (emission.collectRoot catalog name element)
      (KeepsEmitting room catalog emitter.model) := by
  unfold Emitter.collectRoot Emission.collectRoot
  dsimp only [GlobalElement.object]
  generalize element.complexType = complexType at held ⊢
  cases held with
  | some inside =>
      refine .outline emits.holds ?_
      rw [Catalog.contains_complexTypes_outline]
      dsimp only
      split
      · exact .report (.pure ⟨rfl, emits⟩)
      · exact .pure ⟨(model_addRoot _ _ _).trans (model_addRootType _ _ _),
          (emits.addRootType name inside).addRoot name element⟩
  | none =>
      cases element.typeName with
      | none => exact .pure ⟨rfl, emits⟩
      | some ref =>
          refine .step (simulates_typeFor emits.holds ref) id ?_
          rintro type middle keeps ⟨-, hasType⟩
          have still := emits.keeps keeps (by simp) (by simp)
          refine .fetch hasType ?_
          dsimp only
          cases catalog.targetOf ref with
          | primitive _ => exact .pure ⟨rfl, still⟩
          | enumeration _ => exact .pure ⟨rfl, still⟩
          | structural type => exact .pure ⟨model_addRoot _ _ _, still.addRoot type element⟩

/-- The roots that are collected are those of the global elements. -/
theorem simulates_collectRoots (emits : Emits before room catalog [] emitter emission) :
    Simulates (Keeps []) emitter.collectRoots before (emission.collectRoots catalog)
      (KeepsEmitting room catalog emitter.model) := by
  refine .get (.foldlM (fun workspace => Keyed fun list (definitions : Definitions GlobalElement) =>
    workspace.HoldsList (workspace.HoldsElement room) list definitions.toList)
    (fun _ _ keeps _ _ same => ⟨same.key_eq, ?_⟩) ?_ emits.holds.elements ⟨rfl, emits⟩)
  · have records := keeps.keepsRecords (by simp)
    exact records.holdsList (fun _ _ => records.holdsElement) same.value
  rintro before ⟨name, list⟩ ⟨_, definitions⟩ state plainState ⟨rfl, held⟩ ⟨same, emits⟩
  obtain ⟨addresses, has, all⟩ := held
  obtain ⟨first, others, ⟨inner, found, inside⟩, -, rfl⟩ := List.forall₂_cons_right_iff.1 all
  have listed : (before.listed .element list).headD default = definitions.first.object inner := by
    rw [listed, has.content_eq]
    exact found.content_eq
  refine .get ?_
  show Simulates (Keeps []) (state.collectRoot name ((before.listed .element list).headD default))
    before (plainState.collectRoot catalog name definitions.first)
    (KeepsEmitting room catalog emitter.model)
  rw [listed, ← same]
  exact simulates_collectRoot emits name inside

/-! ## Enumerations -/

theorem simulates_addMembers {enumeration : Handle} {model : EnumModel} {artifact : String}
    {used literals : List String} (has : before.Has .enumeration enumeration model) :
    Simulates (Keeps [(.enumeration, enumeration)])
      (addMembers enumeration artifact used literals) before (pure ())
      (fun _ _ after => after.Has .enumeration enumeration { model with
        members := model.members ++ Emission.membersOf artifact used literals }) := by
  induction literals generalizing before used model with
  | nil =>
      refine .pure ?_
      rw [Emission.membersOf, List.append_nil]
      exact has
  | cons literal rest ih =>
      refine .change (by simp) has fun middle _ hasMore => (ih hasMore).imp ?_
      intro _ _ _ _ hasAll
      rw [Emission.membersOf, List.append_cons]
      exact hasAll

/-- An enumeration belongs to the model once it has all its members. -/
theorem simulates_addEnum (emits : Emits before room catalog building emitter emission)
    (name : String) :
    Simulates (Keeps [(.model, emitter.model)]) (emitter.addEnum name) before
      (pure (emission.addEnum catalog name))
      (fun _ emission after => Emits after room catalog building emitter emission) := by
  refine .outline emits.holds ?_
  refine .allocate fun enumeration first fresh keeps has => ?_
  refine .step (simulates_addMembers has) (·.mono (by simp)) ?_
  rintro _ filled keepsMembers hasMembers
  have still := emits.keeps (keeps.after_new keepsMembers fresh) (by simp) (by simp)
  obtain ⟨object, hasModel, parts, outside⟩ := still.shown
  refine .change (by simp) hasModel fun middle keepsName hasNamed => ?_
  refine .lastChange (by simp) hasNamed fun after keepsAdded hasAdded => ?_
  refine still.renew (keepsName.trans keepsAdded) hasAdded ⟨?_, parts.classes, ?_⟩
    (List.Subset.refl building) outside
  · exact List.rel_append parts.enums (.cons hasMembers .nil)
  · exact congrArg (Model.assign · name (Naming.typeName name)) parts.names_eq

theorem simulates_addEnums (emits : Emits before room catalog building emitter emission) :
    Simulates (Keeps [(.model, emitter.model)]) emitter.addEnums before
      (pure (emission.addEnums catalog))
      (fun _ emission after => Emits after room catalog building emitter emission) := by
  rw [Emitter.addEnums, Emission.addEnums]
  refine .get ?_
  rw [emits.holds.scalars_eq]
  generalize catalog.scalars = scalars
  induction scalars generalizing before emission with
  | nil => exact .pure emits
  | cons entry rest ih =>
      obtain ⟨name, type⟩ := entry
      cases type with
      | primitive _ => exact ih emits
      | enumeration _ => exact .step (simulates_addEnum emits name) id fun _ _ _ emits => ih emits

/-! ## Models -/

section Loops

variable {model : Handle}

/-- Classes are emitted in place for the objects of several types. -/
theorem simulates_emitClasses (start : KeepsEmitting room catalog model emitter emission before)
    {addresses : List Handle} {types : List MergedType}
    (held : List.Forall₂ (before.HoldsMerged room) addresses types) :
    Simulates (Keeps [(.model, model)])
      (addresses.foldlM
        (fun emitter merged => emitType (emitNested room) emitter merged false) emitter) before
      (emission.emitClasses catalog types) (KeepsEmitting room catalog model) := by
  refine .foldlM (fun workspace => workspace.HoldsMerged room)
    (fun _ _ keeps _ _ held => held.extends keeps.extends (by simp)) ?_ held start
  rintro before merged type emitter emission held ⟨rfl, emits⟩
  refine .map ((emitsClasses_emitType_emitNested emits held).imp ?_)
  exact fun _ _ _ _ both => ⟨both.1.model_eq, both.2⟩

/-- The types inside global elements get merged types of their own, as all others do. -/
theorem simulates_emitRootTypes (start : KeepsEmitting room catalog model emitter emission before)
    {rootTypes : List (String × Handle)} {types : List (String × ComplexType)}
    (held : List.Forall₂ (Keyed (before.HoldsType (room + 1))) rootTypes types) :
    Simulates (Keeps [(.model, model)])
      (rootTypes.foldlM
        (fun emitter entry => do
          emitType (emitNested room) emitter (← ofDefinition entry.2) false) emitter) before
      (emission.emitClasses catalog (types.map fun entry => .ofDefinition entry.2))
      (KeepsEmitting room catalog model) := by
  rw [Emission.emitClasses, List.foldlM_map]
  refine .foldlM (fun workspace => Keyed (workspace.HoldsType (room + 1)))
    (fun _ _ keeps _ _ same => ⟨same.key_eq, ?_⟩) ?_ held start
  · exact (keeps.keepsRecords (by simp)).holdsType same.value
  rintro before entry other emitter emission ⟨-, heldType⟩ ⟨rfl, emits⟩
  refine .step (simulates_ofDefinition heldType) (·.mono (List.nil_subset _)) ?_
  rintro merged middle keeps ⟨-, held⟩
  have still := emits.keeps keeps (by simp) (by simp)
  refine .map ((emitsClasses_emitType_emitNested still held).imp ?_)
  exact fun _ _ _ _ both => ⟨both.1.model_eq, both.2⟩

end Loops

/-- A model is completed in place as the plain one is, and the same is reported. -/
theorem simulates_emit (emits : Emits before room catalog [] emitter emission) :
    Simulates (Extends [(.model, emitter.model)]) (emit room emitter) before
      (emission.emit catalog)
      (fun _ result after => after.Holds room result.1 ∧
        after.ShowsModel emitter.model result.2.model) := by
  refine .bind (simulates_collectRoots emits) (·.mono (List.nil_subset _) |>.extends) ?_
  rintro rooted whole first - ⟨same, emitsRooted⟩
  rw [← same]
  refine .step (simulates_addEnums emitsRooted) Keeps.extends ?_
  rintro _ second - emitsEnums
  refine .bind (simulates_mergeAll emitsEnums.holds) (·.mono (List.nil_subset _)) ?_
  rintro addresses ⟨left, types⟩ third more ⟨holds, held⟩
  have emitsLeft := emitsEnums.extends more (by simp) (by simp) holds
  refine .bind (simulates_emitClasses ⟨rfl, emitsLeft⟩ held) Keeps.extends ?_
  rintro classed wholeClassed fourth - ⟨sameClassed, emitsClassed⟩
  refine .bind (simulates_emitRootTypes ⟨sameClassed, emitsClassed⟩ emitsClassed.rootTypes)
    Keeps.extends ?_
  rintro last wholeLast fifth - ⟨sameLast, emitsLast⟩
  obtain ⟨object, has, parts, -⟩ := emitsLast.shown
  refine .fetch has ?_
  rw [← bind_pure (Work.report _), parts.enums.length_eq, parts.classes.length_eq, ← sameLast]
  exact .report (.pure ⟨emitsLast.holds, object, has, parts⟩)

end Emitter

namespace Work

open Workspace

variable {before : Workspace} {room : Nat} {catalog : Catalog}

/-- The first model that is made is empty. -/
theorem emits_push_model (holds : before.Holds room catalog) :
    Emitter.Emits (before.push .model (⟨[], [], []⟩ : ModelObject)) room catalog []
      ⟨before.fresh .model, [], [], []⟩ .empty where
  holds := holds.keeps (keeps_push _) (by simp)
  emitted_eq := rfl
  roots_eq := rfl
  rootTypes := .nil
  shown := ⟨_, has_push_self _, ⟨.nil, .nil, rfl⟩, by simp⟩
  building_lt := by simp

/-- All simple types are represented from then on. -/
theorem holds_withScalars (holds : before.Holds room catalog) :
    Extends [] before (before.withScalars catalog.classifyAll.value.scalars) ∧
      (before.withScalars catalog.classifyAll.value.scalars).Holds room
        catalog.classifyAll.value := by
  have more : Extends [] before (before.withScalars catalog.classifyAll.value.scalars) := by
    refine { (refl before : Extends [] before before) with scalars_prefix := ?_ }
    rw [holds.scalars_eq, catalog.classifyAll_eq_addMissing]
    exact prefix_addMissing _ _
  have same : catalog.classifyAll.value =
      (catalog.withScalars catalog.classifyAll.value.scalars).withMerged catalog.merged := by
    rw [catalog.classifyAll_eq_addMissing]
    rfl
  refine ⟨more, ?_⟩
  rw [same]
  exact holds.extends (more.keepsRecords (by simp)) more
    (holds.merged.imp fun _ _ same => ⟨same.key_eq, same.value.extends more (by simp)⟩) rfl

/--
A build in a workspace is the build of the catalogue that the workspace holds.  No object
that was there is changed, and the tables are only completed.
-/
theorem simulates_buildModel (holds : before.Holds room catalog) :
    Simulates (Extends []) (buildModel room) before (Generator.modelOf catalog)
      (fun address result after => after.Holds room result.1 ∧
        after.ShowsModel address result.2) := by
  refine .outline holds ?_
  rw [Catalog.classifyAll_outline]
  obtain ⟨more, classified⟩ := holds_withScalars holds
  refine .ofLogged (List.append_nil _) (.modify more (.create ?_))
  refine .bind (Emitter.simulates_emit (emits_push_model classified)) id ?_
  rintro _ ⟨left, emission⟩ after - both
  exact .pure both

end Work

end SchemaBinding
