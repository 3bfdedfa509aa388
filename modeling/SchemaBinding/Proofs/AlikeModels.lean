import SchemaBinding.Proofs.AlikeCatalogs
import SchemaBinding.Proofs.Model

/-!
# Models of alike schemas

Emission goes through alike catalogues in step: the same classes are requested in
the same order, each of them has the same fields, and the same is reported.
-/

namespace SchemaBinding

namespace Emission

/-- Models under construction that are the same; the types inside global elements are alike. -/
structure Alike (names : Correspondence) (emission other : Emission) : Prop where
  model_eq : emission.model = other.model
  emitted_eq : emission.emitted = other.emitted
  rootTypes : List.Forall₂ (Keyed (ComplexType.Alike names)) emission.rootTypes other.rootTypes
  roots_eq : emission.roots = other.roots

variable {names : Correspondence} {emission other : Emission}

theorem Alike.addRoot (alike : emission.Alike names other) (type : String)
    {element otherElement : GlobalElement} (same : element.Alike names otherElement) :
    (emission.addRoot type element).Alike names (other.addRoot type otherElement) := by
  unfold Emission.addRoot
  rw [alike.roots_eq, same.name_eq, same.targetNamespace_eq]
  split
  · exact alike
  · exact { alike with roots_eq := rfl }

theorem Alike.addRootType (alike : emission.Alike names other) (name : String)
    {type otherType : ComplexType} (same : type.Alike names otherType) :
    (emission.addRootType name type).Alike names (other.addRootType name otherType) := by
  have known : (find? emission.rootTypes name).isSome = (find? other.rootTypes name).isSome :=
    isSome_eq_of_optionRel (optionRel_find?_key alike.rootTypes name)
  unfold Emission.addRootType
  rw [known]
  split
  · refine { alike with rootTypes := List.rel_map ?_ alike.rootTypes }
    intro entry otherEntry kept
    dsimp only
    rw [kept.key_eq]
    split
    · exact ⟨rfl, same⟩
    · exact kept
  · exact { alike with rootTypes := List.rel_append alike.rootTypes (.cons ⟨rfl, same⟩ .nil) }

section Catalogs

variable {first second : Catalog} (catalogs : first.Alike names second)
include catalogs

theorem alike_collectRoot (alike : emission.Alike names other) (name : String)
    {element otherElement : GlobalElement} (same : element.Alike names otherElement) :
    Logged.Alike (Alike names) (emission.collectRoot first name element)
      (other.collectRoot second name otherElement) := by
  have types := same.complexType
  have references := same.typeName
  unfold collectRoot
  rw [catalogs.complexTypes.contains_eq]
  generalize element.complexType = type? at types ⊢
  generalize otherElement.complexType = otherType? at types ⊢
  generalize element.typeName = reference? at references ⊢
  generalize otherElement.typeName = otherReference? at references ⊢
  cases types with
  | some type =>
      dsimp only
      split
      · exact ⟨rfl, alike⟩
      · exact Logged.alike_pure ((alike.addRootType name type).addRoot name same)
  | none =>
      cases references with
      | none => exact Logged.alike_pure alike
      | some reference =>
          dsimp only
          rw [catalogs.findsAlike.targetOf_eq reference]
          split
          · exact Logged.alike_pure (alike.addRoot _ same)
          · exact Logged.alike_pure alike

theorem alike_collectRoots (alike : emission.Alike names other) :
    Logged.Alike (Alike names) (emission.collectRoots first) (other.collectRoots second) := by
  refine Logged.alike_foldlM catalogs.elements alike ?_
  rintro ⟨name, definitions⟩ ⟨otherName, others⟩ ⟨rfl, same⟩ _ _ alike
  exact alike_collectRoot catalogs alike name same.first

theorem enumOf_eq (name : String) : enumOf first name = enumOf second name := by
  have types := catalogs.simpleTypes.first? name
  unfold enumOf
  generalize first.simpleTypes.first? name = type? at types ⊢
  generalize second.simpleTypes.first? name = otherType? at types ⊢
  cases types with
  | none => rfl
  | some same =>
      simp only [Option.bind_some, Option.map_some, same.targetNamespace_eq, same.enumerations_eq]

theorem alike_addEnums (alike : emission.Alike names other) :
    (emission.addEnums first).Alike names (other.addEnums second) := by
  unfold addEnums
  rw [catalogs.scalars_eq]
  induction second.scalars generalizing emission other with
  | nil => exact alike
  | cons entry rest ih =>
      obtain ⟨name, type⟩ := entry
      cases type with
      | primitive kind => exact ih alike
      | enumeration original =>
          refine ih { alike with model_eq := ?_ }
          simp only [addEnum, nameEnum, alike.model_eq, enumOf_eq catalogs]

theorem checkTarget_eq (alike : emission.Alike names other) (target : Target) :
    emission.checkTarget first target = other.checkTarget second target := by
  cases target with
  | primitive kind => rfl
  | enumeration name => rfl
  | structural name =>
      have known : (find? emission.rootTypes name).isSome =
          (find? other.rootTypes name).isSome :=
        isSome_eq_of_optionRel (optionRel_find?_key alike.rootTypes name)
      simp only [checkTarget, catalogs.complexTypes.contains_eq, known]

theorem baseOf_eq (alike : emission.Alike names other) {base otherBase : Option QName}
    (same : Option.Rel names.types base otherBase) :
    emission.baseOf first base = other.baseOf second otherBase := by
  cases same with
  | none => rfl
  | some same =>
      unfold baseOf
      dsimp only
      rw [catalogs.findsAlike.targetOf_eq same]
      split
      · rw [checkTarget_eq catalogs alike]
      · rfl

theorem addAttributes_eq (draft : Draft) {uses others : List AttributeUse}
    (each : List.Forall₂ (AttributeUse.Alike names) uses others) :
    addAttributes first draft uses = addAttributes second draft others := by
  refine (Logged.alike_foldlM each rfl ?_).eq
  rintro use other same state _ rfl
  rw [catalogs.findsAlike.typeOfAttribute_eq same, same.name_eq, AttributeUse.isOptional, same.required_eq]
  exact Logged.alike_same _

omit catalogs in
theorem isEmpty_eq {type otherType : MergedType} (same : type.Alike names otherType) :
    type.isEmpty = otherType.isEmpty := by
  have texts := isSome_eq_of_optionRel same.text
  unfold MergedType.isEmpty
  rw [isEmpty_eq_of_forall₂ same.elements, isEmpty_eq_of_forall₂ same.attributes,
    ← Option.not_isSome, ← Option.not_isSome, texts]

theorem alike_addClass (alike : emission.Alike names other) {type otherType : MergedType}
    (same : type.Alike names otherType) (isSynthesized : Bool) (base : Option String)
    (draft : Draft) :
    (emission.addClass first type isSynthesized base draft).1.Alike names
      (other.addClass second otherType isSynthesized base draft).1 := by
  have texts := same.text
  unfold addClass
  dsimp only
  rw [isEmpty_eq same, same.name_eq, same.targetNamespace_eq, alike.model_eq, alike.roots_eq]
  generalize type.text = text? at texts ⊢
  generalize otherType.text = otherText? at texts ⊢
  cases texts with
  | none => exact { alike with model_eq := rfl, roots_eq := rfl }
  | some text =>
      dsimp only
      rw [catalogs.findsAlike.typeOfText_eq text]
      exact { alike with model_eq := rfl, roots_eq := rfl }

/-- What emitting a class for one of two types does to emissions that are alike. -/
def EmitsAlike (names : Correspondence) (first second : Catalog) (type other : MergedType) : Prop :=
  ∀ before otherBefore, Alike names before otherBefore → ∀ isSynthesized,
    Logged.Alike (fun result otherResult => Alike names result.1 otherResult.1)
      (before.emitClass first type isSynthesized)
      (otherBefore.emitClass second other isSynthesized)

structure ParticlesAlike (names : Correspondence) (first second : Catalog)
    (particle otherParticle : ElementParticle) : Prop where
  outside : particle.AlikeOutside names otherParticle
  inner : Option.Rel (fun inside otherInside => ∀ owner otherOwner : MergedType,
      owner.Alike names otherOwner →
        EmitsAlike names first second (owner.synthesized particle.name inside)
          (otherOwner.synthesized otherParticle.name otherInside))
    particle.complexType otherParticle.complexType

structure DraftsAlike (names : Correspondence) (result other : Draft × Emission) : Prop where
  draft_eq : result.1 = other.1
  emission : result.2.Alike names other.2

theorem alike_addParticles {owner otherOwner : MergedType}
    (owners : owner.Alike names otherOwner) {particles others : List ElementParticle}
    (each : List.Forall₂ (ParticlesAlike names first second) particles others) (draft : Draft)
    (alike : emission.Alike names other) :
    Logged.Alike (DraftsAlike names) (addParticles first owner particles draft emission)
      (addParticles second otherOwner others draft other) := by
  induction each generalizing draft emission other with
  | nil =>
      rw [addParticles, addParticles]
      exact Logged.alike_pure ⟨rfl, alike⟩
  | @cons particle otherParticle rest otherRest same _ ih =>
      have inner := same.inner
      cases given : particle.complexType with
      | none =>
          have otherGiven : otherParticle.complexType = none := by
            rw [given] at inner
            generalize otherParticle.complexType = otherType? at inner
            cases inner
            rfl
          rw [addParticles_plain first owner particle rest draft emission given,
            addParticles_plain second otherOwner otherParticle otherRest draft other otherGiven,
            catalogs.findsAlike.typeOfParticle_eq same.outside,
            catalogs.findsAlike.draftParticle_eq owners.name_eq owners.targetNamespace_eq draft
              same.outside]
          refine (Logged.alike_same _).bind ?_
          rintro type _ rfl
          rw [checkTarget_eq catalogs alike]
          exact (Logged.alike_same _).bind fun _ _ _ => ih _ alike
      | some type =>
          obtain ⟨otherType, otherGiven, emits⟩ : ∃ otherType,
              otherParticle.complexType = some otherType ∧
                EmitsAlike names first second (owner.synthesized particle.name type)
                  (otherOwner.synthesized otherParticle.name otherType) := by
            rw [given] at inner
            generalize otherParticle.complexType = otherType? at inner ⊢
            cases inner with
            | some emits => exact ⟨_, rfl, emits owner otherOwner owners⟩
          rw [addParticles_inner first owner particle rest draft emission given,
            addParticles_inner second otherOwner otherParticle otherRest draft other otherGiven,
            catalogs.findsAlike.draftParticle_eq owners.name_eq owners.targetNamespace_eq draft
              same.outside]
          exact (emits _ _ alike true).bind fun _ _ emitted => ih _ emitted

theorem emitsAlike {type otherType : MergedType} (same : type.Alike names otherType)
    (each : List.Forall₂ (ParticlesAlike names first second) type.elements otherType.elements) :
    EmitsAlike names first second type otherType := by
  intro before otherBefore alike isSynthesized
  have begun : Alike names { before with emitted := otherType.name :: otherBefore.emitted }
      { otherBefore with emitted := otherType.name :: otherBefore.emitted } :=
    { alike with emitted_eq := rfl }
  unfold emitClass
  rw [alike.emitted_eq, same.name_eq]
  split
  · exact ⟨rfl, alike⟩
  · dsimp only
    rw [baseOf_eq catalogs begun same.base]
    refine (Logged.alike_same _).bind ?_
    rintro base _ rfl
    refine (alike_addParticles catalogs same each .empty begun).bind ?_
    rintro ⟨draft, emission⟩ ⟨_, other⟩ ⟨rfl, alike⟩
    dsimp only
    rw [addAttributes_eq catalogs draft same.attributes]
    refine (Logged.alike_same _).bind ?_
    rintro draft _ rfl
    exact Logged.alike_pure (alike_addClass catalogs alike same isSynthesized base draft)

omit catalogs in
theorem alike_synthesized {owner otherOwner : MergedType} (owners : owner.Alike names otherOwner)
    (name : String) {type otherType : ComplexType} (same : type.Alike names otherType) :
    (owner.synthesized name type).Alike names (otherOwner.synthesized name otherType) :=
  { MergedType.alike_ofDefinition same with
    name_eq := by
      unfold MergedType.synthesized
      rw [owners.name_eq]
    targetNamespace_eq := by
      unfold MergedType.synthesized
      rw [owners.targetNamespace_eq, same.outside.targetNamespace_eq] }

/-- By induction over the types, classes for types inside particles are emitted alike. -/
theorem emitsAlike_synthesized {type otherType : ComplexType} (same : type.Alike names otherType)
    (name : String) {owner otherOwner : MergedType} (owners : owner.Alike names otherOwner) :
    EmitsAlike names first second (owner.synthesized name type)
      (otherOwner.synthesized name otherType) := by
  have both : type.Alike names otherType ∧ ∀ name (owner otherOwner : MergedType),
      owner.Alike names otherOwner →
        EmitsAlike names first second (owner.synthesized name type)
          (otherOwner.synthesized name otherType) := by
    refine same.induction (motive := fun type otherType => type.Alike names otherType ∧
      ∀ name (owner otherOwner : MergedType), owner.Alike names otherOwner →
        EmitsAlike names first second (owner.synthesized name type)
          (otherOwner.synthesized name otherType)) ?_
    intro type otherType outside particles
    have alike : type.Alike names otherType := .of_elements outside
      (particles.imp fun _ _ same => ⟨same.1, optionRel_imp same.2 fun _ _ _ _ inner => inner.1⟩)
    refine ⟨alike, fun name owner otherOwner owners =>
      emitsAlike catalogs (alike_synthesized owners name alike) ?_⟩
    refine particles.imp ?_
    rintro particle otherParticle ⟨outside, inner⟩
    refine ⟨outside, optionRel_imp inner ?_⟩
    rintro inside _ otherInside _ ⟨_, _, emits⟩ owner otherOwner owners
    rw [outside.name_eq]
    exact emits _ owner otherOwner owners
  exact both.2 name owner otherOwner owners

/-- Classes for types that are alike are emitted alike. -/
theorem alike_emitClass {type otherType : MergedType} (same : type.Alike names otherType) :
    EmitsAlike names first second type otherType := by
  refine emitsAlike catalogs same (same.elements.imp ?_)
  rintro particle otherParticle ⟨outside, types⟩
  refine ⟨outside, optionRel_imp types ?_⟩
  intro inside _ otherInside _ alike owner otherOwner owners
  rw [outside.name_eq]
  exact emitsAlike_synthesized catalogs alike _ owners

theorem alike_emitClasses {types otherTypes : List MergedType}
    (each : List.Forall₂ (MergedType.Alike names) types otherTypes)
    (alike : emission.Alike names other) :
    Logged.Alike (Alike names) (emission.emitClasses first types)
      (other.emitClasses second otherTypes) := by
  refine Logged.alike_foldlM each alike ?_
  intro type otherType same before otherBefore alike
  have emitted := alike_emitClass catalogs same before otherBefore alike false
  rw [map_eq_pure_bind, map_eq_pure_bind]
  exact emitted.bind fun _ _ result => Logged.alike_pure result

/-- Everything is emitted alike. -/
theorem alike_emit (alike : emission.Alike names other) :
    Logged.Alike (Catalog.AlikeWith names (Alike names)) (emission.emit first)
      (other.emit second) := by
  unfold emit
  refine (alike_collectRoots catalogs alike).bind fun collected otherCollected alike => ?_
  refine (Catalog.alike_mergeAll catalogs).bind ?_
  rintro ⟨merged, types⟩ ⟨otherMerged, otherTypes⟩ ⟨catalogs', each⟩
  dsimp only
  refine (alike_emitClasses catalogs' each (alike_addEnums catalogs alike)).bind
    fun emitted otherEmitted alike => ?_
  have roots := List.rel_map (fun _ _ same => MergedType.alike_ofDefinition same.value)
    alike.rootTypes
  refine (alike_emitClasses catalogs' roots alike).bind fun emitted otherEmitted alike => ?_
  rw [alike.model_eq]
  exact (Logged.alike_same _).bind fun _ _ _ => Logged.alike_pure ⟨catalogs', alike⟩

end Catalogs

end Emission

/-- Catalogues that are alike have the same model, and the same is reported on the way to it. -/
theorem Catalog.Alike.modelOf {names : Correspondence} {first second : Catalog}
    (catalogs : first.Alike names second) :
    Logged.Alike (AlikeWith names Eq) (Generator.modelOf first) (Generator.modelOf second) := by
  unfold Generator.modelOf
  refine (alike_classifyAll catalogs).bind fun _ _ catalogs => ?_
  refine (Emission.alike_emit catalogs ⟨rfl, rfl, .nil, rfl⟩).bind fun _ _ emitted =>
    Logged.alike_pure ⟨emitted.catalog, emitted.value.model_eq⟩

/-- Schemas have the same model if their names are read alike and nothing else differs. -/
theorem alike_modelOf_ofSchemas {schemas others : List Schema}
    (each : List.Forall₂ (Schema.Alike (Catalog.ofSchemas schemas).readings) schemas others) :
    Logged.Alike (Catalog.AlikeWith (Catalog.ofSchemas schemas).readings Eq)
      (Generator.modelOf (.ofSchemas schemas)) (Generator.modelOf (.ofSchemas others)) :=
  (Catalog.alike_ofSchemas each (Catalog.settles_readings _)).modelOf

end SchemaBinding
