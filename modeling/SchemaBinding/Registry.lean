/-!
# Registries

A registry keeps every definition of a name, in the order in which they were
added.  Nothing is replaced, and no name is without a definition.
-/

namespace SchemaBinding

/-- The definitions of one name: at least one, in the order in which they were added. -/
structure Definitions (α : Type) where
  first : α
  later : List α
deriving Repr

namespace Definitions

def toList {α : Type} (definitions : Definitions α) : List α :=
  definitions.first :: definitions.later

end Definitions

/-- The definitions of each name; names stand in the order of their first definition. -/
structure Registry (α : Type) where
  entries : List (String × Definitions α)
deriving Repr

namespace Registry

variable {α : Type}

def empty : Registry α := ⟨[]⟩

def definitions? (registry : Registry α) (name : String) : Option (Definitions α) :=
  (registry.entries.find? (·.1 == name)).map Prod.snd

def get (registry : Registry α) (name : String) : List α :=
  ((registry.definitions? name).map Definitions.toList).getD []

def first? (registry : Registry α) (name : String) : Option α :=
  (registry.definitions? name).map Definitions.first

def contains (registry : Registry α) (name : String) : Bool :=
  (registry.definitions? name).isSome

def names (registry : Registry α) : List String :=
  registry.entries.map Prod.fst

def size (registry : Registry α) : Nat :=
  registry.entries.length

def appendTo (name : String) (definition : α) :
    List (String × Definitions α) → List (String × Definitions α)
  | [] => [(name, ⟨definition, []⟩)]
  | entry :: rest =>
      if entry.1 = name then
        (entry.1, { entry.2 with later := entry.2.later ++ [definition] }) :: rest
      else entry :: appendTo name definition rest

def append (registry : Registry α) (name : String) (definition : α) : Registry α :=
  ⟨appendTo name definition registry.entries⟩

/-- The definition is the last one of its name, and nothing else changes. -/
theorem get_append (registry : Registry α) (name : String) (definition : α) (other : String) :
    (registry.append name definition).get other =
      registry.get other ++ if other = name then [definition] else [] := by
  obtain ⟨entries⟩ := registry
  simp only [get, definitions?, append]
  induction entries with
  | nil =>
      by_cases same : other = name
      · simp [appendTo, Definitions.toList, same]
      · simp [appendTo, same, Ne.symm same]
  | cons entry rest ih =>
      by_cases found : entry.1 = name
      · by_cases same : other = name
        · simp [appendTo, found, same, Definitions.toList]
        · simp [appendTo, found, same, Ne.symm same]
      · by_cases here : entry.1 = other
        · have different : other ≠ name := by
            intro equal
            exact found (here.trans equal)
          simp [appendTo, here, different]
        · simpa [appendTo, found, here] using ih

theorem names_append (registry : Registry α) (name : String) (definition : α) :
    (registry.append name definition).names =
      registry.names ++ if name ∈ registry.names then [] else [name] := by
  obtain ⟨entries⟩ := registry
  simp only [names, append]
  induction entries with
  | nil => simp [appendTo]
  | cons entry rest ih =>
      by_cases found : entry.1 = name
      · simp [appendTo, found]
      · have different : name ≠ entry.1 := Ne.symm found
        rw [appendTo, if_neg found, List.map_cons, ih]
        by_cases known : name ∈ rest.map Prod.fst <;> simp [known, different]

end Registry

end SchemaBinding
