import SchemaBinding.Proofs.Model

/-!
# Names of artifacts

A model tells under which name each type is represented.  Each step of emission
keeps the table of names in step with the artifacts: the types in it are those
with an enumeration or a class, each of them once.
-/

namespace SchemaBinding

namespace Model

variable {pairs : List (String × String)} {key value : String}

theorem keys_assign :
    (assign pairs key value).map Prod.fst =
      pairs.map Prod.fst ++ if key ∈ pairs.map Prod.fst then [] else [key] := by
  unfold assign
  by_cases known : key ∈ pairs.map Prod.fst
  · have present : pairs.any (·.1 == key) = true := by simpa using known
    rw [if_pos present, if_pos known, List.append_nil, List.map_map]
    refine List.map_congr_left ?_
    intro pair member
    by_cases same : pair.1 = key
    · simp [same]
    · simp [same]
  · have absent : ¬ pairs.any (·.1 == key) = true := by simpa using known
    rw [if_neg absent, if_neg known, List.map_append]
    rfl

theorem mem_assign (pair : String × String) :
    pair ∈ assign pairs key value ↔
      pair = (key, value) ∨ pair.1 ≠ key ∧ pair ∈ pairs := by
  unfold assign
  by_cases present : pairs.any (·.1 == key) = true
  · rw [if_pos present, List.mem_map]
    constructor
    · rintro ⟨other, member, rfl⟩
      by_cases same : other.1 = key
      · exact .inl (if_pos same)
      · rw [if_neg same]
        exact .inr ⟨same, member⟩
    · rintro (rfl | ⟨different, member⟩)
      · obtain ⟨other, member, same⟩ := List.any_eq_true.1 present
        exact ⟨other, member, if_pos (by simpa using same)⟩
      · exact ⟨pair, member, if_neg different⟩
  · rw [if_neg present, List.mem_append, List.mem_singleton]
    constructor
    · rintro (member | same)
      · refine .inr ⟨?_, member⟩
        intro equal
        exact present (List.any_eq_true.2 ⟨pair, member, by simpa using equal⟩)
      · exact .inl same
    · rintro (same | ⟨_, member⟩)
      · exact .inr same
      · exact .inl member

/-- A table gives each of the listed types, and nothing else, the name of its artifact. -/
structure Tells (pairs : List (String × String)) (types : List String) : Prop where
  nodup_keys : (pairs.map Prod.fst).Nodup
  mem_iff : ∀ pair, pair ∈ pairs ↔ pair.1 ∈ types ∧ pair.2 = Naming.typeName pair.1

namespace Tells

variable {types others : List String}

theorem of_mem_iff (tells : Tells pairs types) (same : ∀ type, type ∈ others ↔ type ∈ types) :
    Tells pairs others where
  nodup_keys := tells.nodup_keys
  mem_iff pair := by rw [tells.mem_iff, same]

theorem assign (tells : Tells pairs types) (type : String) :
    Tells (assign pairs type (Naming.typeName type)) (types ++ [type]) where
  nodup_keys := by
    rw [keys_assign]
    split
    · simpa using tells.nodup_keys
    · next absent =>
        exact List.nodup_append'.2
          ⟨tells.nodup_keys, List.nodup_singleton _, by simpa using absent⟩
  mem_iff pair := by
    rw [mem_assign, tells.mem_iff, List.mem_append, List.mem_singleton]
    constructor
    · rintro (rfl | ⟨_, listed, named⟩)
      · exact ⟨.inr rfl, rfl⟩
      · exact ⟨.inl listed, named⟩
    · rintro ⟨listed, named⟩
      by_cases same : pair.1 = type
      · exact .inl (Prod.ext same (by rw [named, same]))
      · exact .inr ⟨same, listed.resolve_right same, named⟩

theorem foldl_assign (tells : Tells pairs types) (more : List String) :
    Tells (more.foldl (fun names type => Model.assign names type (Naming.typeName type)) pairs)
      (types ++ more) := by
  induction more generalizing pairs types with
  | nil => simpa using tells
  | cons type rest ih => simpa using ih (tells.assign type)

/-- Tables that tell the names of the same types are the same but for their order. -/
theorem perm {otherPairs : List (String × String)} (tells : Tells pairs types)
    (otherTells : Tells otherPairs others) (same : ∀ type, type ∈ others ↔ type ∈ types) :
    pairs.Perm otherPairs := by
  refine (List.perm_ext_iff_of_nodup tells.nodup_keys.of_map otherTells.nodup_keys.of_map).2 ?_
  intro pair
  rw [tells.mem_iff, otherTells.mem_iff, same]

theorem find?_eq (tells : Tells pairs types) (type : String) :
    Emission.find? pairs type =
      if type ∈ types then some (Naming.typeName type) else none := by
  unfold Emission.find?
  split
  · next listed =>
      have member : (type, Naming.typeName type) ∈ pairs := (tells.mem_iff _).2 ⟨listed, rfl⟩
      rw [find?_key_of_mem tells.nodup_keys member]
      rfl
  · next unlisted =>
      rw [find?_key_eq_none]
      · rfl
      · intro known
        obtain ⟨pair, member, rfl⟩ := List.mem_map.1 known
        exact unlisted ((tells.mem_iff pair).1 member).1

end Tells

def represented (model : Model) : List String :=
  model.enums.map EnumModel.originalName ++ model.classes.map ClassModel.originalName

def IsNamed (model : Model) : Prop :=
  Tells model.names model.represented

end Model

namespace Emission

open Model

variable (catalog : Catalog)

/-- Collecting roots adds no artifact. -/
theorem model_collectRoots (emission : Emission) :
    (emission.collectRoots catalog).value.model = emission.model := by
  obtain ⟨rootTypes, roots, collected⟩ := exists_withRoots_collectRoots catalog emission
  rw [collected]
  rfl

/-- One more enumeration is named. -/
theorem isNamed_addEnum {emission : Emission} (named : emission.model.IsNamed) (name : String) :
    (emission.addEnum catalog name).model.IsNamed := by
  refine (named.assign name).of_mem_iff ?_
  intro type
  simp [represented, addEnum, nameEnum, enumOf, Model.rename, or_assoc, or_comm]

theorem isNamed_addEnums {emission : Emission} (named : emission.model.IsNamed) :
    (emission.addEnums catalog).model.IsNamed := by
  unfold addEnums
  induction catalog.scalars generalizing emission with
  | nil => exact named
  | cons entry rest ih =>
      rw [List.foldl_cons]
      obtain ⟨name, type⟩ := entry
      cases type with
      | primitive kind => exact ih named
      | enumeration other => exact ih (isNamed_addEnum catalog named name)

/-- The classes of served requests are named. -/
theorem isNamed_grow {emission : Emission} (named : emission.model.IsNamed)
    (entered left : List Request) : (emission.grow catalog entered left).model.IsNamed := by
  have all := named.foldl_assign (left.map Request.name)
  rw [List.foldl_map] at all
  refine all.of_mem_iff ?_
  intro type
  simp [represented, grow, classOf, Request.name]

theorem isNamed_emitClasses {emission : Emission} (named : emission.model.IsNamed)
    (types : List MergedType) : (emission.emitClasses catalog types).value.model.IsNamed := by
  obtain ⟨entered, left, serves⟩ := exists_serves_emitClasses catalog emission types
  rw [serves.after_eq]
  exact isNamed_grow catalog named entered left

end Emission

open Emission

/-- The model of any catalogue names every enumeration and every class, and nothing else. -/
theorem isNamed_modelOf (catalog : Catalog) : (Generator.modelOf catalog).value.2.IsNamed := by
  have start : Emission.empty.model.IsNamed :=
    ⟨List.nodup_nil, by simp [Emission.empty, Model.empty, Model.represented]⟩
  have collected : (empty.collectRoots catalog.classifyAll.value).value.model.IsNamed := by
    rw [model_collectRoots]
    exact start
  rw [value_modelOf, value_emit]
  exact isNamed_emitClasses _
    (isNamed_emitClasses _ (isNamed_addEnums _ collected) _) _

end SchemaBinding
