import SchemaBinding.Proofs.Generation

/-!
# Warnings

Two things are warned of: a reference that leads nowhere, while schemas are
loaded, and a file that is rendered in the place of another one.  Nothing that is
done between these two steps gives a warning.
-/

namespace SchemaBinding

open Loader (isWarning)

namespace Logged

variable {α β : Type}

def Calm (run : Logged α) : Prop :=
  ∀ record ∈ run.records, isWarning record = false

theorem calm_pure (value : α) : Calm (pure value : Logged α) :=
  fun _ member => absurd member List.not_mem_nil

theorem calm_report {record : Record} (mild : isWarning record = false) :
    Calm (report record) := by
  intro other member
  obtain rfl := List.mem_singleton.1 member
  exact mild

theorem Calm.bind {first : Logged α} (calm : Calm first) {next : α → Logged β}
    (calmNext : ∀ value, Calm (next value)) : Calm (first >>= next) := by
  intro record member
  rw [records_bind] at member
  rcases List.mem_append.1 member with early | late
  · exact calm record early
  · exact calmNext first.value record late

theorem Calm.map {first : Logged α} (calm : Calm first) (f : α → β) : Calm (f <$> first) := by
  intro record member
  rw [records_map] at member
  exact calm record member

theorem calm_foldlM {step : β → α → Logged β} (items : List α)
    (calm : ∀ state item, Calm (step state item)) (start : β) :
    Calm (items.foldlM step start) := by
  induction items generalizing start with
  | nil => exact calm_pure start
  | cons item rest ih =>
      rw [List.foldlM_cons]
      exact (calm start item).bind ih

end Logged

namespace Catalog

open Logged

variable (catalog : Catalog)

theorem calm_classifyAll : Calm catalog.classifyAll := by
  refine calm_foldlM _ (fun state entry => ?_) _
  obtain ⟨name, definitions⟩ := entry
  dsimp only
  unfold classifyEntry
  split
  · exact calm_pure _
  · split
    · exact (calm_report rfl).bind fun _ => calm_pure _
    · exact calm_pure _

theorem calm_mergeDefinitions (name : String) (definitions : Definitions ComplexType) :
    Calm (catalog.mergeDefinitions name definitions) := by
  unfold mergeDefinitions
  split
  · exact calm_pure _
  · intro record member
    unfold mergeRecords at member
    split at member
    · exact absurd member List.not_mem_nil
    · obtain rfl := List.mem_singleton.1 member
      rfl

theorem calm_mergeEach (entries : List (String × Definitions ComplexType)) :
    Calm (mergeEach entries catalog) := by
  induction entries generalizing catalog with
  | nil => exact calm_pure _
  | cons entry rest ih =>
      exact (calm_mergeDefinitions catalog entry.1 entry.2).bind fun merged =>
        (ih merged.1).bind fun _ => calm_pure _

theorem calm_targetOfParticle (particle : ElementParticle) :
    Calm (catalog.targetOfParticle particle) := by
  unfold targetOfParticle
  split
  · exact calm_pure _
  · exact calm_pure _
  · unfold targetOfElement
    split
    · exact (calm_report rfl).bind fun _ => calm_pure _
    · split <;> exact calm_pure _
  · exact calm_pure _

theorem calm_typeOfAttribute (use : AttributeUse) : Calm (catalog.typeOfAttribute use) := by
  unfold typeOfAttribute
  split
  · exact calm_pure _
  · split
    · exact (calm_report rfl).bind fun _ => calm_pure _
    · exact calm_pure _
  · exact calm_pure _

end Catalog

namespace Emission

open Logged

variable (catalog : Catalog)

theorem calm_collectRoots (emission : Emission) : Calm (emission.collectRoots catalog) := by
  refine calm_foldlM _ (fun state entry => ?_) _
  obtain ⟨name, definitions⟩ := entry
  dsimp only
  unfold collectRoot
  split
  · split
    · exact (calm_report rfl).bind fun _ => calm_pure _
    · exact calm_pure _
  · split <;> exact calm_pure _
  · exact calm_pure _

theorem calm_checkTarget (emission : Emission) (target : Target) :
    Calm (emission.checkTarget catalog target) := by
  unfold checkTarget
  split
  · split
    · exact calm_pure _
    · exact calm_report rfl
  · exact calm_pure _

theorem calm_baseOf (emission : Emission) (base : Option QName) :
    Calm (emission.baseOf catalog base) := by
  cases base with
  | none => exact calm_pure _
  | some name =>
      unfold baseOf
      dsimp only
      split
      · exact (calm_checkTarget catalog emission _).bind fun _ => calm_pure _
      · exact calm_pure _

theorem calm_addAttributes (draft : Draft) (uses : List AttributeUse) :
    Calm (addAttributes catalog draft uses) :=
  calm_foldlM _
    (fun _ use => (catalog.calm_typeOfAttribute use).bind fun _ => calm_pure _) _

mutual

theorem calm_addInner (nested : MergedType) (type : ComplexType) (emission : Emission) :
    Calm (addInner catalog nested type emission) := by
  match type with
  | ⟨_, elements, attributes, base, _, _, _⟩ =>
      unfold addInner
      split
      · exact (calm_report rfl).bind fun _ => calm_pure _
      · refine (calm_baseOf catalog _ base).bind fun _ => ?_
        refine (calm_addParticles nested elements _ _).bind fun _ => ?_
        exact (calm_addAttributes catalog _ attributes).bind fun _ => calm_pure _

theorem calm_addParticle (owner : MergedType) (particle : ElementParticle) (draft : Draft)
    (emission : Emission) : Calm (addParticle catalog owner particle draft emission) := by
  match particle with
  | ⟨_, _, _, none, _, _, _, _⟩ =>
      unfold addParticle
      refine ((catalog.calm_targetOfParticle _).bind fun _ => calm_pure _).bind fun _ => ?_
      exact (calm_checkTarget catalog emission _).bind fun _ => calm_pure _
  | ⟨_, _, _, some inner, _, _, _, _⟩ =>
      unfold addParticle
      exact (calm_addInner _ inner emission).bind fun _ => calm_pure _

theorem calm_addParticles (owner : MergedType) (particles : List ElementParticle) (draft : Draft)
    (emission : Emission) : Calm (addParticles catalog owner particles draft emission) := by
  match particles with
  | [] =>
      unfold addParticles
      exact calm_pure _
  | particle :: rest =>
      unfold addParticles
      exact (calm_addParticle owner particle draft emission).bind fun added =>
        calm_addParticles owner rest added.1 added.2

end

theorem calm_emitClasses (emission : Emission) (types : List MergedType) :
    Calm (emission.emitClasses catalog types) := by
  refine calm_foldlM _ (fun state type => Calm.map ?_ _) _
  unfold emitClass
  split
  · exact (calm_report rfl).bind fun _ => calm_pure _
  · refine (calm_baseOf catalog _ _).bind fun _ => ?_
    refine (calm_addParticles catalog type _ _ _).bind fun _ => ?_
    exact (calm_addAttributes catalog _ _).bind fun _ => calm_pure _

theorem calm_emit (emission : Emission) : Calm (emit catalog emission) := by
  unfold emit
  refine (calm_collectRoots catalog emission).bind fun _ => ?_
  refine (catalog.calm_mergeEach _).bind fun merged => ?_
  refine (calm_emitClasses merged.1 _ _).bind fun _ => ?_
  refine (calm_emitClasses merged.1 _ _).bind fun _ => ?_
  exact (calm_report rfl).bind fun _ => calm_pure _

end Emission

/-- No warning is given while a model is built, whatever the catalogue holds. -/
theorem calm_modelOf (catalog : Catalog) : (Generator.modelOf catalog).Calm :=
  catalog.calm_classifyAll.bind fun classified =>
    (Emission.calm_emit classified .empty).bind fun _ => Logged.calm_pure _

namespace Loader

/-- Every warning of a loading that succeeds is of a reference that leads nowhere. -/
theorem exists_skippedRecord_of_load {tree : FileTree} {root : String} {recurse : Bool}
    {records : List Record} {schemas : List Schema} {after : Loader}
    (loads : load tree root recurse .empty = (⟨records, .ok schemas⟩, after)) {record : Record}
    (member : record ∈ records) (warns : isWarning record = true) :
    ∃ location source, record = skippedRecord location source := by
  have discarded : (load tree root recurse >>= fun _ => pure ()) .empty =
      (⟨records ++ [], .ok ()⟩, after) := Action.bind_of_ok loads
  obtain ⟨roots, entered, _, gathers⟩ :=
    (gathersRoots_load root recurse .empty).value _ _ _ discarded
  rw [List.append_nil] at gathers
  have listed := gathers.warnings.subset (List.mem_filter.2 ⟨member, warns⟩)
  obtain ⟨path, _, warned⟩ := List.mem_flatMap.1 (by simpa using listed)
  obtain ⟨directive, _, given⟩ := List.mem_filterMap.1 warned
  obtain ⟨location, _, skipped⟩ := Option.bind_eq_some_iff.1 given
  split at skipped
  · cases skipped
  · exact ⟨location, path, (Option.some.inj skipped).symm⟩

end Loader

end SchemaBinding
