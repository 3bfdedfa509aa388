import SchemaBinding.Proofs.Model

/-!
# Roots of documents

Documents begin with global elements.  A class is the root of documents through
the first global element that stands for it, by the name of its type or by the
type inside it.
-/

namespace SchemaBinding.Emission

variable (catalog : Catalog)

/--
The name of the type that a global element stands for: the structure that it
names, or the type inside it, unless a complex type has the name of the element.
-/
def standsFor? (name : String) (element : GlobalElement) : Option String :=
  match element.complexType, element.typeName with
  | some _, _ => if catalog.complexTypes.contains name then none else some name
  | none, some ref =>
      match catalog.targetOf ref with
      | .structural type => some type
      | _ => none
  | none, none => none

def rootFor? (type name : String) (element : GlobalElement) : Option RootElement :=
  if standsFor? catalog name element = some type then
    some ⟨element.name, element.targetNamespace⟩
  else none

theorem find?_roots_addRoot (emission : Emission) (key : String) (element : GlobalElement)
    (type : String) :
    find? (emission.addRoot key element).roots type =
      (find? emission.roots type).or
        (if some key = some type then some ⟨element.name, element.targetNamespace⟩ else none) := by
  unfold addRoot
  by_cases same : key = type
  · subst same
    split
    · next known =>
        obtain ⟨root, found⟩ := Option.isSome_iff_exists.1 known
        rw [found, Option.some_or]
    · next unknown =>
        have absent : find? emission.roots key = none := by simpa using unknown
        have unfound : List.find? (·.1 == key) emission.roots = none := by
          simpa [find?] using absent
        rw [absent]
        simp [find?, List.find?_append, unfound]
  · have different : ¬ some key = some type := by simpa using same
    rw [if_neg different, Option.or_none]
    split
    · rfl
    · simp [find?, List.find?_append, same]

theorem roots_addRootType (emission : Emission) (name : String) (type : ComplexType) :
    (emission.addRootType name type).roots = emission.roots := by
  unfold addRootType
  split <;> rfl

/-- One more global element is a root for what it stands for, unless there is one. -/
theorem find?_roots_collectRoot (emission : Emission) (name : String) (element : GlobalElement)
    (type : String) :
    find? (emission.collectRoot catalog name element).value.roots type =
      (find? emission.roots type).or (rootFor? catalog type name element) := by
  unfold collectRoot rootFor? standsFor?
  cases element.complexType with
  | some inner =>
      dsimp only
      split
      · rw [if_neg (by simp), Option.or_none]
        rfl
      · rw [← roots_addRootType emission name inner]
        exact find?_roots_addRoot _ name element type
  | none =>
      cases element.typeName with
      | none => simp; rfl
      | some ref =>
          cases target : catalog.targetOf ref with
          | structural key =>
              simp only [target]
              exact find?_roots_addRoot emission key element type
          | primitive kind => simp [target]; rfl
          | enumeration other => simp [target]; rfl

theorem find?_roots_foldl (emission : Emission)
    (entries : List (String × Definitions GlobalElement)) (type : String) :
    find? (entries.foldl (fun state entry =>
        (state.collectRoot catalog entry.1 entry.2.first).value) emission).roots type =
      (find? emission.roots type).or
        (entries.findSome? (fun entry => rootFor? catalog type entry.1 entry.2.first)) := by
  induction entries generalizing emission with
  | nil => simp
  | cons entry rest ih =>
      rw [List.foldl_cons, ih, find?_roots_collectRoot, Option.or_assoc, List.findSome?_cons]
      cases rootFor? catalog type entry.1 entry.2.first <;> rfl

/-- A type has the first global element that stands for it as its root. -/
theorem find?_roots_collectRoots (type : String) :
    find? (empty.collectRoots catalog).value.roots type =
      catalog.elements.entries.findSome?
        (fun entry => rootFor? catalog type entry.1 entry.2.first) := by
  rw [collectRoots, Logged.value_foldlM]
  exact (find?_roots_foldl catalog empty catalog.elements.entries type).trans
    (Option.none_or)

end SchemaBinding.Emission
