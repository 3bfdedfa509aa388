import Mathlib.Data.List.Induction
import Mathlib.Data.List.Nodup
import SchemaBinding.Proofs.Reading
import SchemaBinding.Resolution

/-!
# Registered schemas

What a catalogue knows after schemas were registered in an empty one: each
registry holds the declarations of all schemas, one after the other, by their
names.  Then the tables that are computed from the registries are described.
-/

namespace SchemaBinding

/-- No pair is found for a key that does not occur. -/
theorem find?_key_eq_none {α : Type} {pairs : List (String × α)} {key : String}
    (absent : key ∉ pairs.map Prod.fst) : pairs.find? (·.1 == key) = none := by
  rw [List.find?_eq_none]
  intro pair member
  have different : pair.1 ≠ key := by
    rintro rfl
    exact absent (List.mem_map.2 ⟨pair, member, rfl⟩)
  simpa using different

/-- The pair with a key, where no key occurs twice. -/
theorem find?_key_of_mem {α : Type} {pairs : List (String × α)} {key : String} {value : α}
    (unique : (pairs.map Prod.fst).Nodup) (member : (key, value) ∈ pairs) :
    pairs.find? (·.1 == key) = some (key, value) := by
  induction pairs with
  | nil => simp at member
  | cons pair rest ih =>
      rw [List.map_cons, List.nodup_cons] at unique
      rcases List.mem_cons.1 member with rfl | member
      · simp
      · have different : pair.1 ≠ key := by
          rintro rfl
          exact unique.1 (List.mem_map.2 ⟨_, member, rfl⟩)
        rw [List.find?_cons_of_neg (by simpa using different)]
        exact ih unique.2 member

/-- Another item counts where it did not occur before. -/
theorem eraseDups_concat {α : Type} [DecidableEq α] (items : List α) (item : α) :
    (items ++ [item]).eraseDups = items.eraseDups ++ if item ∈ items then [] else [item] := by
  rw [List.eraseDups_append]
  by_cases known : item ∈ items
  · simp [List.removeAll, known]
  · simp [List.removeAll, known, List.eraseDups_cons]

namespace Registry

variable {α : Type} (nameOf : α → String)

def appendAll (registry : Registry α) (items : List α) : Registry α :=
  items.foldl (fun registry item => registry.append (nameOf item) item) registry

def ofList (items : List α) : Registry α :=
  appendAll nameOf .empty items

theorem appendAll_append (registry : Registry α) (first second : List α) :
    registry.appendAll nameOf (first ++ second) =
      (registry.appendAll nameOf first).appendAll nameOf second :=
  List.foldl_append

/-- What one more part holds is appended to the registry of what the parts hold. -/
theorem ofList_flatMap_concat {β : Type} (parts : List β) (part : β) (found : β → List α) :
    ofList nameOf ((parts ++ [part]).flatMap found) =
      (ofList nameOf (parts.flatMap found)).appendAll nameOf (found part) := by
  rw [List.flatMap_append, List.flatMap_singleton, ofList, ofList, appendAll_append]

theorem get_appendAll (registry : Registry α) (items : List α) (name : String) :
    (registry.appendAll nameOf items).get name =
      registry.get name ++ items.filter (nameOf · == name) := by
  induction items generalizing registry with
  | nil => simp [appendAll]
  | cons item rest ih =>
      have step := ih (registry.append (nameOf item) item)
      simp only [appendAll, List.foldl_cons] at step ⊢
      rw [step, get_append, List.append_assoc]
      by_cases same : nameOf item = name
      · simp [same]
      · simp [same, Ne.symm same]

theorem get_ofList (items : List α) (name : String) :
    (ofList nameOf items).get name = items.filter (nameOf · == name) := by
  rw [ofList, get_appendAll]
  rfl

theorem first?_eq_head? (registry : Registry α) (name : String) :
    registry.first? name = (registry.get name).head? := by
  unfold first? get
  cases registry.definitions? name <;> rfl

theorem first?_ofList (items : List α) (name : String) :
    (ofList nameOf items).first? name = items.find? (nameOf · == name) := by
  rw [first?_eq_head?, get_ofList, List.head?_filter]

theorem contains_iff_first? (registry : Registry α) (name : String) :
    registry.contains name = true ↔ ∃ item, registry.first? name = some item := by
  unfold contains first?
  cases registry.definitions? name <;> simp

theorem contains_ofList (items : List α) (name : String) :
    (ofList nameOf items).contains name = true ↔ ∃ item ∈ items, nameOf item = name := by
  rw [contains_iff_first?, first?_ofList, ← Option.isSome_iff_exists, List.find?_isSome]
  simp

/-- A registry of what is found in each part contains what is found in one of them. -/
theorem contains_ofList_flatMap {β : Type} (parts : List β) (found : β → List α) (name : String) :
    (ofList nameOf (parts.flatMap found)).contains name = true ↔
      ∃ part ∈ parts, ∃ item ∈ found part, nameOf item = name := by
  rw [contains_ofList]
  simp only [List.mem_flatMap]
  constructor
  · rintro ⟨item, ⟨part, member, inside⟩, equal⟩
    exact ⟨part, member, item, inside, equal⟩
  · rintro ⟨part, member, item, inside, equal⟩
    exact ⟨item, ⟨part, member, inside⟩, equal⟩

theorem nodup_names_appendAll {registry : Registry α} (items : List α)
    (unique : registry.names.Nodup) : (registry.appendAll nameOf items).names.Nodup := by
  induction items generalizing registry with
  | nil => exact unique
  | cons item rest ih =>
      refine @ih (registry.append (nameOf item) item) ?_
      rw [names_append]
      split
      · simpa using unique
      · next absent =>
          exact List.nodup_append'.2 ⟨unique, List.nodup_singleton _, by simpa using absent⟩

theorem nodup_names_ofList (items : List α) : (ofList nameOf items).names.Nodup :=
  nodup_names_appendAll nameOf items List.nodup_nil

theorem prefix_names_appendAll (registry : Registry α) (items : List α) :
    registry.names <+: (registry.appendAll nameOf items).names := by
  induction items generalizing registry with
  | nil => exact List.prefix_rfl
  | cons item rest ih =>
      refine List.IsPrefix.trans ?_ (ih (registry.append (nameOf item) item))
      rw [names_append]
      exact List.prefix_append registry.names _

/-- The names of the items, each where it occurs first. -/
theorem names_ofList (items : List α) :
    (ofList nameOf items).names = (items.map nameOf).eraseDups := by
  induction items using List.reverseRecOn with
  | nil => rfl
  | append_singleton items item ih =>
      have last : ofList nameOf (items ++ [item]) =
          (ofList nameOf items).append (nameOf item) item :=
        appendAll_append nameOf .empty items [item]
      rw [last, names_append, ih, List.map_append, List.map_singleton, eraseDups_concat]
      simp only [List.mem_eraseDups]

theorem definitions?_of_mem {registry : Registry α} {name : String}
    {definitions : Definitions α} (unique : registry.names.Nodup)
    (member : (name, definitions) ∈ registry.entries) :
    registry.definitions? name = some definitions := by
  rw [definitions?, find?_key_of_mem unique member]
  rfl

theorem first?_of_mem {registry : Registry α} {name : String} {definitions : Definitions α}
    (unique : registry.names.Nodup) (member : (name, definitions) ∈ registry.entries) :
    registry.first? name = some definitions.first := by
  rw [first?, definitions?_of_mem unique member]
  rfl

/-- The first definition of an entry has the name of the entry. -/
theorem name_first_of_mem_ofList {items : List α} {name : String} {definitions : Definitions α}
    (member : (name, definitions) ∈ (ofList nameOf items).entries) :
    nameOf definitions.first = name := by
  have found := first?_of_mem (nodup_names_ofList nameOf items) member
  rw [first?_ofList] at found
  simpa using List.find?_some found

theorem mem_names_iff_contains (registry : Registry α) (name : String) :
    name ∈ registry.names ↔ registry.contains name = true := by
  simp [names, contains, definitions?]

theorem exists_entry_of_contains {registry : Registry α} {name : String}
    (contained : registry.contains name = true) :
    ∃ definitions, (name, definitions) ∈ registry.entries := by
  obtain ⟨⟨other, definitions⟩, member, rfl⟩ :=
    List.mem_map.1 ((registry.mem_names_iff_contains name).2 contained)
  exact ⟨definitions, member⟩

theorem mem_entries_of_definitions? {registry : Registry α} {name : String}
    {definitions : Definitions α} (found : registry.definitions? name = some definitions) :
    (name, definitions) ∈ registry.entries := by
  obtain ⟨⟨other, kept⟩, first, rfl⟩ := Option.map_eq_some_iff.1 found
  obtain rfl : other = name := by simpa using List.find?_some first
  exact List.mem_of_find?_eq_some first

/-- The definitions of a name are the items of that name. -/
theorem definitions?_ofList {items : List α} {name : String} {first : α} {later : List α}
    (named : items.filter (nameOf · == name) = first :: later) :
    (ofList nameOf items).definitions? name = some ⟨first, later⟩ := by
  have all := get_ofList nameOf items name
  rw [named, get] at all
  cases found : (ofList nameOf items).definitions? name with
  | none =>
      rw [found] at all
      cases all
  | some definitions =>
      rw [found] at all
      obtain ⟨rfl, rfl⟩ := List.cons.inj all
      rfl

end Registry

def DeclaresSimple (schemas : List Schema) (name : String) : Prop :=
  ∃ schema ∈ schemas, ∃ type ∈ schema.simpleTypes, type.name = name

def DeclaresComplex (schemas : List Schema) (name : String) : Prop :=
  ∃ schema ∈ schemas, ∃ type ∈ schema.complexTypes, type.name = name

/-- The complex types of a name among all schemas, in the order of their declarations. -/
def complexTypesNamed (schemas : List Schema) (name : String) : List ComplexType :=
  (schemas.flatMap Schema.complexTypes).filter (·.name == name)

def firstElement? (schemas : List Schema) (name : String) : Option GlobalElement :=
  (schemas.flatMap Schema.elements).find? (·.name == name)

namespace Catalog

def ofSchemas (schemas : List Schema) : Catalog :=
  schemas.foldl register .empty

/-- The registries of a catalogue hold the declarations of a list of schemas. -/
structure Holds (catalog : Catalog) (schemas : List Schema) : Prop where
  complexTypes_eq :
    catalog.complexTypes = .ofList ComplexType.name (schemas.flatMap Schema.complexTypes)
  simpleTypes_eq :
    catalog.simpleTypes = .ofList SimpleType.name (schemas.flatMap Schema.simpleTypes)
  elements_eq :
    catalog.elements = .ofList GlobalElement.name (schemas.flatMap Schema.elements)

theorem Holds.register {catalog : Catalog} {schemas : List Schema}
    (holds : catalog.Holds schemas) (schema : Schema) :
    (catalog.register schema).Holds (schemas ++ [schema]) := by
  obtain ⟨complexTypes, simpleTypes, elements⟩ := holds
  refine ⟨?_, ?_, ?_⟩
  · rw [Registry.ofList_flatMap_concat, ← complexTypes]
    rfl
  · rw [Registry.ofList_flatMap_concat, ← simpleTypes]
    rfl
  · rw [Registry.ofList_flatMap_concat, ← elements]
    rfl

theorem Holds.registerAll {catalog : Catalog} {schemas : List Schema}
    (holds : catalog.Holds schemas) (others : List Schema) :
    (others.foldl Catalog.register catalog).Holds (schemas ++ others) := by
  induction others generalizing catalog schemas with
  | nil => simpa using holds
  | cons schema rest ih => simpa using ih (holds.register schema)

theorem holds_ofSchemas (schemas : List Schema) : (ofSchemas schemas).Holds schemas := by
  have start : Catalog.empty.Holds [] := ⟨rfl, rfl, rfl⟩
  rw [ofSchemas]
  simpa using start.registerAll schemas

/-- Registration computes nothing. -/
theorem tables_foldl_register (schemas : List Schema) (catalog : Catalog) :
    (schemas.foldl register catalog).merged = catalog.merged ∧
      (schemas.foldl register catalog).scalars = catalog.scalars := by
  induction schemas generalizing catalog with
  | nil => exact ⟨rfl, rfl⟩
  | cons schema rest ih => exact ih (catalog.register schema)

section Tables

variable {catalog : Catalog} {schemas : List Schema}

theorem Holds.declares_complexType (holds : catalog.Holds schemas) (name : String) :
    catalog.complexTypes.contains name = true ↔ DeclaresComplex schemas name := by
  rw [holds.complexTypes_eq, Registry.contains_ofList_flatMap, DeclaresComplex]

theorem Holds.declares_simpleType (holds : catalog.Holds schemas) (name : String) :
    catalog.simpleTypes.contains name = true ↔ DeclaresSimple schemas name := by
  rw [holds.simpleTypes_eq, Registry.contains_ofList_flatMap, DeclaresSimple]

theorem Holds.first_element (holds : catalog.Holds schemas) (name : String) :
    catalog.elements.first? name = firstElement? schemas name := by
  rw [holds.elements_eq, Registry.first?_ofList, firstElement?]

theorem Holds.entry_of_firstElement (holds : catalog.Holds schemas) {name : String}
    {element : GlobalElement} (first : firstElement? schemas name = some element) :
    ∃ definitions, (name, definitions) ∈ catalog.elements.entries ∧
      definitions.first = element := by
  have found := (holds.first_element name).trans first
  obtain ⟨definitions, given, same⟩ := Option.map_eq_some_iff.1 found
  exact ⟨definitions, Registry.mem_entries_of_definitions? given, same⟩

theorem Holds.entry_of_complexTypesNamed (holds : catalog.Holds schemas) {name : String}
    {first : ComplexType} {later : List ComplexType}
    (named : complexTypesNamed schemas name = first :: later) :
    (name, ⟨first, later⟩) ∈ catalog.complexTypes.entries := by
  refine Registry.mem_entries_of_definitions? ?_
  rw [holds.complexTypes_eq]
  exact Registry.definitions?_ofList ComplexType.name named

end Tables

end Catalog

end SchemaBinding
