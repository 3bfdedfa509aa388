import SchemaBinding.Proofs.NameRequests
import SchemaBinding.Proofs.Resolution

/-!
# Enumerations

Each simple type that is represented by an enumeration gets one, made from its first
declaration: a member for each value, in their order and with repetitions.  Values
that spell the same identifier are told apart by numbers, each as small as the names
of the earlier members allow.
-/

namespace SchemaBinding

open Text

def firstSimpleType? (schemas : List Schema) (name : String) : Option SimpleType :=
  (schemas.flatMap Schema.simpleTypes).find? (·.name == name)

def enumerated (table : List (String × ScalarType)) : List String :=
  table.filterMap (fun entry =>
    match entry.2 with
    | .enumeration _ => some entry.1
    | .primitive _ => none)

/-- The name of the member for a value, as long as no other member has it. -/
def Naming.plainMember (enumeration literal : String) : String :=
  enumeration ++ "_" ++ Identifier.sanitize literal

structure EnumModel.IsFor (schemas : List Schema) (name : String) (model : EnumModel) : Prop where
  originalName_eq : model.originalName = name
  name_eq : model.name = Identifier.sanitize name
  declared : ∃ type, firstSimpleType? schemas name = some type ∧
    model.uri = type.targetNamespace ∧
    model.members.map Member.literal = type.enumerations
  distinct : (model.members.map Member.name).Nodup
  named : ∀ member ∈ model.members, IsName member.name
  numbered : ∀ before member after, model.members = before ++ member :: after →
    Naming.IsNumbered (Naming.plainMember model.name member.literal) (before.map Member.name)
      member.name

namespace Naming

theorem isName_memberName {enumeration : String} (isName : IsName enumeration) (literal : String)
    (used : List String) : IsName (memberName enumeration literal used) := by
  apply isName_unique
  apply IsName.append (isName.append (by decide))
  exact (isName_sanitize literal).all_isPart

end Naming

namespace Emission

variable (enumeration : String)

theorem literals_membersOf (used literals : List String) :
    (membersOf enumeration used literals).map Member.literal = literals := by
  induction literals generalizing used with
  | nil => rfl
  | cons literal rest ih => exact congrArg (literal :: ·) (ih _)

/-- The names of members are those that are requested for the values, one after the other. -/
theorem names_membersOf (used literals : List String) :
    (membersOf enumeration used literals).map Member.name =
      (Identifier.uniqueEach used (literals.map (Naming.plainMember enumeration))).1 := by
  induction literals generalizing used with
  | nil => rfl
  | cons literal rest ih => exact congrArg (_ :: ·) (ih _)

theorem isName_of_mem_membersOf {enumeration : String} (isName : IsName enumeration)
    {used literals : List String} {member : Member}
    (among : member ∈ membersOf enumeration used literals) : IsName member.name := by
  induction literals generalizing used with
  | nil => exact absurd among List.not_mem_nil
  | cons literal rest ih =>
      rw [membersOf] at among
      rcases List.mem_cons.1 among with rfl | later
      · exact Naming.isName_memberName isName literal used
      · exact ih later

/-- The name of a member is the first one that the members before it have left free. -/
theorem isNumbered_of_membersOf {literals : List String} {before after : List Member}
    {member : Member} (split : membersOf enumeration [] literals = before ++ member :: after) :
    Naming.IsNumbered (Naming.plainMember enumeration member.literal) (before.map Member.name)
      member.name := by
  have values := literals_membersOf enumeration [] literals
  have names := names_membersOf enumeration [] literals
  rw [split, List.map_append, List.map_cons] at values names
  obtain ⟨plain, requested, first⟩ := Identifier.isFirstFree_of_uniqueEach names.symm
  rw [← values, List.map_append, List.map_cons, List.length_map] at requested
  obtain rfl : Naming.plainMember enumeration member.literal = plain := by simpa using requested
  rw [List.append_nil] at first
  exact first.isNumbered

/-- A numbered name may be the plain name for a later value. -/
example : (membersOf "Size" [] ["a b", "a.b", "a b1"]).map Member.name =
    ["Size_a_b", "Size_a_b1", "Size_a_b11"] := by decide

theorem isFor_enumOf {schemas : List Schema} {catalog : Catalog} (holds : catalog.Holds schemas)
    {name : String} {type : SimpleType} (first : firstSimpleType? schemas name = some type) :
    (enumOf catalog name).IsFor schemas name := by
  have found : catalog.simpleTypes.first? name = some type := by
    rw [holds.simpleTypes_eq, Registry.first?_ofList]
    exact first
  have members : (enumOf catalog name).members =
      membersOf (Naming.typeName name) [] type.enumerations := by
    rw [enumOf, found]
    rfl
  constructor
  case originalName_eq => rfl
  case name_eq => rfl
  case declared =>
    refine ⟨type, first, ?_, ?_⟩
    · rw [enumOf, found]
      rfl
    · rw [members, literals_membersOf]
  case distinct =>
    rw [members, names_membersOf]
    exact (Identifier.uniqueEach_apart _ _).1
  case named =>
    rw [members]
    exact fun member => isName_of_mem_membersOf (isName_sanitize name)
  case numbered =>
    rw [members]
    exact fun before member after => isNumbered_of_membersOf _

end Emission

/-- A declared simple type is represented by an enumeration if it restricts values to a list. -/
theorem Catalog.classify_eq_enumeration_iff (catalog : Catalog) (type : SimpleType)
    (other : String) : catalog.classify type = .enumeration other ↔
      other = type.name ∧ type.variety = .restriction ∧ type.enumerations ≠ [] := by
  obtain ⟨kind, primitive⟩ := @exists_classifyInline catalog type
  unfold classify
  split
  · next restricts listed => simp [restricts, listed, eq_comm]
  · next apart =>
      rw [primitive]
      refine iff_of_false (by simp) ?_
      rintro ⟨-, restricts, filled⟩
      obtain ⟨value, rest, listed⟩ := List.exists_cons_of_ne_nil filled
      exact apart value rest restricts listed

/-- The enumerations of a model, by the table that represents the simple types of schemas. -/
structure Enumerates (schemas : List Schema) (table : List (String × ScalarType))
    (enums : List EnumModel) : Prop where
  /-- There is one for each entry of the table that is an enumeration, in their order. -/
  enums : List.Forall₂ (EnumModel.IsFor schemas) (enumerated table) enums
  /-- A type has such an entry if its first declaration restricts values to a list. -/
  entry_iff : ∀ name other, (name, ScalarType.enumeration other) ∈ table ↔ other = name ∧
    ∃ type, firstSimpleType? schemas name = some type ∧
      type.variety = .restriction ∧ type.enumerations ≠ []

namespace Modelled

variable {schemas : List Schema} {run : Logged (Catalog × Model)}
variable {roots : List (String × RootElement)} {entered left : List Emission.Request}

/-- A type of the table is represented as its first declaration asks. -/
theorem mem_scalars_iff (modelled : Modelled schemas run roots entered left)
    (name : String) (representation : ScalarType) :
    (name, representation) ∈ run.value.1.scalars ↔
      ∃ type, firstSimpleType? schemas name = some type ∧
        representation = run.value.1.classify type := by
  have found (name : String) :
      run.value.1.simpleTypes.first? name = firstSimpleType? schemas name := by
    rw [modelled.holds.simpleTypes_eq, Registry.first?_ofList, firstSimpleType?]
  have unique : run.value.1.simpleTypes.names.Nodup := by
    rw [modelled.holds.simpleTypes_eq]
    exact Registry.nodup_names_ofList _ _
  rw [modelled.scalars_eq, Catalog.representations, List.mem_map]
  constructor
  · rintro ⟨⟨key, definitions⟩, member, same⟩
    obtain ⟨rfl, rfl⟩ := Prod.mk.inj same
    exact ⟨definitions.first, by rw [← found, Registry.first?_of_mem unique member], rfl⟩
  · rintro ⟨type, first, rfl⟩
    rw [← found] at first
    obtain ⟨definitions, given, rfl⟩ := Option.map_eq_some_iff.1 first
    exact ⟨(name, definitions), Registry.mem_entries_of_definitions? given, rfl⟩

theorem enums_eq_map (modelled : Modelled schemas run roots entered left) :
    run.value.2.enums =
      (enumerated run.value.1.scalars).map (Emission.enumOf run.value.1) := by
  rw [modelled.enums_eq, Emission.enumsOf, enumerated, List.map_filterMap]
  refine List.filterMap_congr ?_
  rintro ⟨name, representation⟩ member
  cases representation with
  | primitive kind => rfl
  | enumeration other => rfl

end Modelled

/-- The enumerations of a model are those of its table, made from the first declarations. -/
theorem modelOf_enumerates (schemas : List Schema) :
    Enumerates schemas (Generator.modelOf (.ofSchemas schemas)).value.1.scalars
      (Generator.modelOf (.ofSchemas schemas)).value.2.enums := by
  obtain ⟨roots, entered, left, modelled⟩ := exists_modelled schemas
  constructor
  case enums =>
    rw [modelled.enums_eq_map, List.forall₂_map_right_iff, List.forall₂_same]
    intro name member
    obtain ⟨⟨key, representation⟩, among, given⟩ := List.mem_filterMap.1 member
    obtain ⟨type, first, -⟩ := (modelled.mem_scalars_iff key representation).1 among
    cases representation with
    | primitive kind => cases given
    | enumeration other =>
        obtain rfl := Option.some.inj given
        exact Emission.isFor_enumOf modelled.holds first
  case entry_iff =>
    intro name other
    rw [modelled.mem_scalars_iff]
    have named {type : SimpleType} (first : firstSimpleType? schemas name = some type) :
        type.name = name := by
      simpa using List.find?_some first
    constructor
    · rintro ⟨type, first, same⟩
      obtain ⟨rfl, restricts, filled⟩ :=
        (Catalog.classify_eq_enumeration_iff _ type other).1 same.symm
      exact ⟨named first, type, first, restricts, filled⟩
    · rintro ⟨rfl, type, first, restricts, filled⟩
      refine ⟨type, first, ((Catalog.classify_eq_enumeration_iff _ type _).2 ?_).symm⟩
      exact ⟨(named first).symm, restricts, filled⟩

end SchemaBinding
