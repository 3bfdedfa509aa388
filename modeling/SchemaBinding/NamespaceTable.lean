/-!
# Namespace tables

The namespaces that labels stand for and the labels that stand for namespaces.
In either direction the first registration is kept.
-/

namespace SchemaBinding

structure NamespaceTable where
  /-- The namespace of each label. -/
  uris : List (String × String)
  /-- The label of each namespace. -/
  labels : List (String × String)
deriving DecidableEq, Repr

namespace NamespaceTable

def empty : NamespaceTable := ⟨[], []⟩

/-- The pairs with one more at the end, unless its key is taken. -/
def keepFirst (pairs : List (String × String)) (key value : String) : List (String × String) :=
  if pairs.any (·.1 == key) then pairs else pairs ++ [(key, value)]

def find? (pairs : List (String × String)) (key : String) : Option String :=
  (List.find? (·.1 == key) pairs).map Prod.snd

theorem find?_keepFirst (pairs : List (String × String)) (key value other : String) :
    find? (keepFirst pairs key value) other =
      (find? pairs other).or (if other = key then some value else none) := by
  unfold keepFirst find?
  split
  · next taken =>
      by_cases same : other = key
      · subst same
        obtain ⟨pair, member, equal⟩ := List.any_eq_true.1 taken
        cases found : List.find? (·.1 == other) pairs with
        | none => exact absurd equal (by simpa using List.find?_eq_none.1 found pair member)
        | some pair => simp
      · simp [same]
  · by_cases same : other = key
    · subst same
      simp [List.find?_append]
      cases List.find? (fun pair => pair.1 == other) pairs <;> simp
    · simp [List.find?_append, same, Ne.symm same]

/-- The table with a binding, whose label and namespace may both be known already. -/
def register (table : NamespaceTable) (label uri : String) : NamespaceTable :=
  ⟨keepFirst table.uris label uri, keepFirst table.labels uri label⟩

def uri? (table : NamespaceTable) (label : String) : Option String :=
  find? table.uris label

def label? (table : NamespaceTable) (uri : String) : Option String :=
  find? table.labels uri

theorem uri?_register (table : NamespaceTable) (label uri other : String) :
    (table.register label uri).uri? other =
      (table.uri? other).or (if other = label then some uri else none) :=
  find?_keepFirst table.uris label uri other

theorem label?_register (table : NamespaceTable) (label uri other : String) :
    (table.register label uri).label? other =
      (table.label? other).or (if other = uri then some label else none) :=
  find?_keepFirst table.labels uri label other

end NamespaceTable

end SchemaBinding
