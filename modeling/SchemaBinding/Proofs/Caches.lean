import SchemaBinding.Proofs.Completion
import SchemaBinding.Proofs.Histories

/-!
# Runs on a catalogue

A catalogue keeps what it has computed of a name, and registration may go on
between the computations.  Whatever the order of the calls, a value is the one
that the first call computed which had a definition of its name, and it stays.
-/

namespace SchemaBinding

namespace Catalog

/-- What can be done with a catalogue: declarations are added, and tables are computed. -/
inductive Call where
  | register (schema : Schema)
  | addComplexType (type : ComplexType)
  | addSimpleType (type : SimpleType)
  | addElement (element : GlobalElement)
  | classifyAll
  | merge (name : String)
  | mergeAll

namespace Call

def perform : Call → Action Catalog Unit
  | register schema => Action.change (·.register schema)
  | addComplexType type => Action.change fun catalog =>
      { catalog with complexTypes := catalog.complexTypes.append type.name type }
  | addSimpleType type => Action.change fun catalog =>
      { catalog with simpleTypes := catalog.simpleTypes.append type.name type }
  | addElement element => Action.change fun catalog =>
      { catalog with elements := catalog.elements.append element.name element }
  | classifyAll => do
      let after ← Action.ofRun (.ofLogged (← Action.state).classifyAll)
      Action.change fun _ => after
  | merge name => Functor.discard (Catalog.merge name)
  | mergeAll => do
      let (after, _) ← Action.ofRun (.ofLogged (← Action.state).mergeAll)
      Action.change fun _ => after

def complexTypes : Call → List ComplexType
  | register schema => schema.complexTypes
  | addComplexType type => [type]
  | _ => []

def simpleTypes : Call → List SimpleType
  | register schema => schema.simpleTypes
  | addSimpleType type => [type]
  | _ => []

def elements : Call → List GlobalElement
  | register schema => schema.elements
  | addElement element => [element]
  | _ => []

def merges (name : String) : Call → Bool
  | merge other => other == name
  | mergeAll => true
  | _ => false

end Call

/-- The catalogue that a call leaves, also when it fails. -/
def next (catalog : Catalog) (call : Call) : Catalog :=
  (call.perform catalog).2

def after (calls : List Call) : Catalog :=
  calls.foldl next .empty

section Step

variable (catalog : Catalog) (name : String)

def foldedType? : Option MergedType :=
  MergedType.ofList? (catalog.complexTypes.get name)

theorem find?_foldedTypes :
    Emission.find? catalog.foldedTypes name = catalog.foldedType? name := by
  have found := find?_mapValues
    (fun definitions => MergedType.fold definitions.first definitions.later)
    catalog.complexTypes.entries name
  rw [foldedTypes, found, foldedType?, Registry.get, Registry.definitions?, ← Emission.find?]
  cases Emission.find? catalog.complexTypes.entries name <;> rfl

section Merge

variable {catalog name}

theorem merge_of_known {type : MergedType} (known : catalog.merged? name = some type) :
    merge name catalog = (pure type, catalog) := by
  simp only [merge, bind, Action.bind, Action.state, Run.pure, known, pure, Action.pure,
    List.nil_append]

variable (unknown : catalog.merged? name = none)

include unknown

theorem merge_of_declared {definitions : Definitions ComplexType}
    (declared : catalog.complexTypes.definitions? name = some definitions) :
    merge name catalog =
      (let type := MergedType.fold definitions.first definitions.later
      (⟨mergeRecords name definitions.toList.length type.elements.length type.attributes.length,
        .ok type⟩, catalog.withMerged (catalog.merged ++ [(name, type)]))) := by
  simp only [merge, mergeDefinitions, bind, Action.bind, Action.state, Run.pure, unknown, declared,
    Action.ofRun, Run.ofLogged, Action.change, pure, Action.pure, List.nil_append, List.append_nil]
  rfl

/-- The failure comes before anything is kept. -/
theorem merge_of_undeclared (undeclared : catalog.complexTypes.definitions? name = none) :
    merge name catalog = (.fail (.unregisteredType name), catalog) := by
  simp only [merge, bind, Action.bind, Action.state, Run.pure, unknown, undeclared, Action.fail,
    Action.ofRun, Run.fail, List.nil_append]

end Merge

theorem next_classifyAll :
    catalog.next .classifyAll =
      catalog.withScalars (addMissing catalog.scalars catalog.representations) :=
  catalog.classifyAll_eq_addMissing

theorem next_mergeAll : catalog.next .mergeAll = catalog.withMerged catalog.mergedTable :=
  congrArg Prod.fst catalog.mergeAll_eq_addMissing

theorem next_merge_eq_snd : catalog.next (.merge name) = (merge name catalog).2 := by
  show (Action.bind (merge name) (fun _ => Action.pure ()) catalog).2 = _
  unfold Action.bind
  rcases merge name catalog with ⟨⟨records, outcome⟩, after⟩
  cases outcome <;> rfl

theorem next_merge :
    catalog.next (.merge name) = catalog.withMerged (addMissing catalog.merged
      ((catalog.foldedType? name).toList.map (fun type => (name, type)))) := by
  rw [next_merge_eq_snd]
  cases known : catalog.merged? name with
  | some type =>
      have found : (Emission.find? catalog.merged name).isSome = true :=
        Option.isSome_of_mem known
      rw [merge_of_known known]
      cases catalog.foldedType? name with
      | none => rfl
      | some folded =>
          rw [Option.toList_some, List.map_singleton, addMissing, if_pos found]
          rfl
  | none =>
      have absent : ¬(Emission.find? catalog.merged name).isSome = true :=
        Option.not_isSome_iff_eq_none.2 known
      cases declared : catalog.complexTypes.definitions? name with
      | none =>
          rw [merge_of_undeclared known declared, foldedType?, Registry.get, declared]
          rfl
      | some definitions =>
          rw [merge_of_declared known declared, foldedType?, Registry.get, declared,
            Option.map_some, Option.getD_some, Definitions.toList, MergedType.ofList?,
            Option.toList_some, List.map_singleton, addMissing, if_neg absent]
          rfl

/-- A call puts what it declares into the registries, and nothing else. -/
theorem registries_next (call : Call) :
    (catalog.next call).complexTypes =
        catalog.complexTypes.appendAll ComplexType.name call.complexTypes ∧
      (catalog.next call).simpleTypes =
        catalog.simpleTypes.appendAll SimpleType.name call.simpleTypes ∧
      (catalog.next call).elements =
        catalog.elements.appendAll GlobalElement.name call.elements := by
  cases call with
  | register schema => exact ⟨rfl, rfl, rfl⟩
  | addComplexType type => exact ⟨rfl, rfl, rfl⟩
  | addSimpleType type => exact ⟨rfl, rfl, rfl⟩
  | addElement element => exact ⟨rfl, rfl, rfl⟩
  | classifyAll =>
      rw [next_classifyAll]
      exact ⟨rfl, rfl, rfl⟩
  | merge other =>
      rw [next_merge]
      exact ⟨rfl, rfl, rfl⟩
  | mergeAll =>
      rw [next_mergeAll]
      exact ⟨rfl, rfl, rfl⟩

/-- What is known of a name stays; otherwise a call that asks for it computes it. -/
theorem merged?_next (call : Call) :
    (catalog.next call).merged? name = (catalog.merged? name).or
      (if call.merges name then catalog.foldedType? name else none) := by
  cases call with
  | register schema => exact Option.or_none.symm
  | addComplexType type => exact Option.or_none.symm
  | addSimpleType type => exact Option.or_none.symm
  | addElement element => exact Option.or_none.symm
  | classifyAll =>
      rw [next_classifyAll]
      exact Option.or_none.symm
  | merge other =>
      rw [next_merge]
      refine (find?_addMissing catalog.merged _ name).trans (congrArg _ ?_)
      by_cases same : other = name
      · subst same
        cases catalog.foldedType? other <;> simp [Emission.find?, Call.merges]
      · cases catalog.foldedType? other <;> simp [Emission.find?, Call.merges, same]
  | mergeAll =>
      rw [next_mergeAll]
      refine (find?_addMissing catalog.merged _ name).trans (congrArg _ ?_)
      exact catalog.find?_foldedTypes name

/-- The representation of a name that a call computes unless it is known. -/
def classifiedIn? : Call → Option ScalarType
  | .classifyAll => (catalog.simpleTypes.first? name).map catalog.classify
  | _ => none

theorem scalar?_next (call : Call) :
    (catalog.next call).scalar? name =
      (catalog.scalar? name).or (catalog.classifiedIn? name call) := by
  cases call with
  | register schema => exact Option.or_none.symm
  | addComplexType type => exact Option.or_none.symm
  | addSimpleType type => exact Option.or_none.symm
  | addElement element => exact Option.or_none.symm
  | classifyAll => exact catalog.scalar?_classifyAll name
  | merge other =>
      rw [next_merge]
      exact Option.or_none.symm
  | mergeAll =>
      rw [next_mergeAll]
      exact Option.or_none.symm

end Step

section Runs

theorem after_concat (calls : List Call) (call : Call) :
    after (calls ++ [call]) = (after calls).next call :=
  List.foldl_append

/-- The registries hold what the calls declare, in the order of the calls. -/
theorem registries_after (calls : List Call) :
    (after calls).complexTypes = .ofList ComplexType.name (calls.flatMap Call.complexTypes) ∧
      (after calls).simpleTypes = .ofList SimpleType.name (calls.flatMap Call.simpleTypes) ∧
      (after calls).elements = .ofList GlobalElement.name (calls.flatMap Call.elements) := by
  induction calls using List.reverseRecOn with
  | nil => exact ⟨rfl, rfl, rfl⟩
  | append_singleton calls call ih =>
      obtain ⟨complexTypes, simpleTypes, elements⟩ := ih
      obtain ⟨moreComplex, moreSimple, moreElements⟩ := registries_next (after calls) call
      rw [after_concat, moreComplex, moreSimple, moreElements, complexTypes, simpleTypes, elements]
      simp only [Registry.ofList_flatMap_concat, and_self]

theorem complexTypes_after (calls : List Call) :
    (after calls).complexTypes = .ofList ComplexType.name (calls.flatMap Call.complexTypes) :=
  (registries_after calls).1

theorem simpleTypes_after (calls : List Call) :
    (after calls).simpleTypes = .ofList SimpleType.name (calls.flatMap Call.simpleTypes) :=
  (registries_after calls).2.1

theorem elements_after (calls : List Call) :
    (after calls).elements = .ofList GlobalElement.name (calls.flatMap Call.elements) :=
  (registries_after calls).2.2

variable (name : String)

/-- What a call that merges a name makes of the definitions that earlier calls declare. -/
def mergedBy? (earlier : List Call) (call : Call) : Option MergedType :=
  if call.merges name then
    MergedType.ofList? ((earlier.flatMap Call.complexTypes).filter (·.name == name))
  else none

/--
What a call that classifies the simple types makes of the first definition that
earlier calls declare, with all that they declare at hand.
-/
def classifiedBy? (earlier : List Call) : Call → Option ScalarType
  | .classifyAll =>
      ((earlier.flatMap Call.simpleTypes).find? (·.name == name)).map (after earlier).classify
  | _ => none

theorem merged?_after_concat (calls : List Call) (call : Call) :
    (after (calls ++ [call])).merged? name =
      ((after calls).merged? name).or (mergedBy? name calls call) := by
  rw [after_concat, merged?_next, mergedBy?, foldedType?, complexTypes_after,
    Registry.get_ofList]

theorem scalar?_after_concat (calls : List Call) (call : Call) :
    (after (calls ++ [call])).scalar? name =
      ((after calls).scalar? name).or (classifiedBy? name calls call) := by
  rw [after_concat, scalar?_next]
  cases call with
  | classifyAll => rw [classifiedIn?, classifiedBy?, simpleTypes_after, Registry.first?_ofList]
  | register schema => rfl
  | addComplexType type => rfl
  | addSimpleType type => rfl
  | addElement element => rfl
  | merge other => rfl
  | mergeAll => rfl

/-- Only names of declared simple types are represented, the first ones of them. -/
theorem keys_scalars_after (calls : List Call) :
    (after calls).scalars.map Prod.fst <+: (after calls).simpleTypes.names := by
  induction calls using List.reverseRecOn with
  | nil => exact List.prefix_rfl
  | append_singleton calls call ih =>
      rw [after_concat]
      have more : (after calls).simpleTypes.names <+:
          ((after calls).next call).simpleTypes.names := by
        rw [(registries_next (after calls) call).2.1]
        exact Registry.prefix_names_appendAll SimpleType.name _ call.simpleTypes
      cases call with
      | classifyAll =>
          have keys : (after calls).representations.map Prod.fst =
              (after calls).simpleTypes.names := by
            rw [representations, List.map_map]
            rfl
          have unique : (after calls).simpleTypes.names.Nodup := by
            rw [simpleTypes_after]
            exact Registry.nodup_names_ofList SimpleType.name _
          rw [← keys] at ih unique
          have completed : ((after calls).next .classifyAll).scalars.map Prod.fst =
              (after calls).simpleTypes.names := by
            rw [next_classifyAll, ← keys]
            exact keys_addMissing ih unique
          rw [completed]
          exact more
      | register schema => exact ih.trans more
      | addComplexType type => exact ih.trans more
      | addSimpleType type => exact ih.trans more
      | addElement element => exact ih.trans more
      | merge other =>
          rw [next_merge]
          exact ih
      | mergeAll =>
          rw [next_mergeAll]
          exact ih

theorem filter_name_eq_nil {types : List ComplexType} {name : String}
    (absent : name ∉ types.map ComplexType.name) : types.filter (·.name == name) = [] := by
  rw [List.filter_eq_nil_iff]
  intro type member same
  exact absent (List.mem_map.2 ⟨type, member, by simpa using same⟩)

/-- Merging a name that no call declares fails, and nothing changes. -/
theorem merge_undeclared {calls : List Call} {name : String}
    (undeclared : name ∉ (calls.flatMap Call.complexTypes).map ComplexType.name) :
    merge name (after calls) = (.fail (.unregisteredType name), after calls) ∧
      after (calls ++ [.merge name]) = after calls := by
  have folded : (after calls).foldedType? name = none := by
    rw [foldedType?, complexTypes_after, Registry.get_ofList, filter_name_eq_nil undeclared]
    rfl
  suffices fails : merge name (after calls) = (.fail (.unregisteredType name), after calls) by
    refine ⟨fails, ?_⟩
    rw [after_concat, next_merge_eq_snd, fails]
  refine merge_of_undeclared ?_ ?_
  · refine (eq_none_iff_computes (fun calls => (after calls).merged? name)
      (merged?_after_concat name) rfl calls).2 ?_
    intro before other rest split
    have earlier : name ∉ (before.flatMap Call.complexTypes).map ComplexType.name := by
      intro member
      rw [split, List.flatMap_append, List.map_append] at undeclared
      exact undeclared (List.mem_append_left _ member)
    rw [mergedBy?, filter_name_eq_nil earlier]
    exact ite_self none
  · rw [foldedType?, Registry.get] at folded
    cases declared : (after calls).complexTypes.definitions? name with
    | none => rfl
    | some definitions =>
        rw [declared] at folded
        cases folded

/-- What the tables of a catalogue hold after calls. -/
structure KeepsComputed (calls : List Call) : Prop where
  merged_iff : ∀ name type,
    (after calls).merged? name = some type ↔ IsFirst (mergedBy? name) calls type
  merged_kept : ∀ more name type, (after calls).merged? name = some type →
    (after (calls ++ more)).merged? name = some type
  scalar_iff : ∀ name type,
    (after calls).scalar? name = some type ↔ IsFirst (classifiedBy? name) calls type
  scalar_kept : ∀ more name type, (after calls).scalar? name = some type →
    (after (calls ++ more)).scalar? name = some type
  scalars_prefix : (after calls).scalars.map Prod.fst <+:
    ((calls.flatMap Call.simpleTypes).map SimpleType.name).eraseDups
  merge_undeclared : ∀ name, name ∉ (calls.flatMap Call.complexTypes).map ComplexType.name →
    merge name (after calls) = (.fail (.unregisteredType name), after calls) ∧
      after (calls ++ [.merge name]) = after calls

/--
Whatever the order of declarations and computations: a merged definition is the one
of the definitions that were there when the name was first merged, a representation
that of the first definition when the types were first classified after it, and
both stay.  Merging a name that is not declared fails and changes nothing.
-/
theorem keepsComputed (calls : List Call) : KeepsComputed calls where
  merged_iff name type :=
    eq_some_iff_isFirst (fun calls => (after calls).merged? name) (merged?_after_concat name) rfl
      calls type
  merged_kept more name type :=
    eq_some_append (fun calls => (after calls).merged? name) (merged?_after_concat name) more
  scalar_iff name type :=
    eq_some_iff_isFirst (fun calls => (after calls).scalar? name) (scalar?_after_concat name) rfl
      calls type
  scalar_kept more name type :=
    eq_some_append (fun calls => (after calls).scalar? name) (scalar?_after_concat name) more
  scalars_prefix := by
    have keys := keys_scalars_after calls
    rwa [simpleTypes_after, Registry.names_ofList] at keys
  merge_undeclared _ undeclared := Catalog.merge_undeclared undeclared

end Runs

end Catalog

end SchemaBinding
