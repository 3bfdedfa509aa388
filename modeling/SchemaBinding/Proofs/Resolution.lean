import SchemaBinding.Emission
import SchemaBinding.Proofs.Tables

/-!
# What references resolve to

A name resolves to an enumeration only through the table of representations, and
to a structure only if nothing declares a simple type of the name.  Attributes
and texts never resolve to structures.
-/

namespace SchemaBinding

theorem Target.named_eq_enumeration {target : Target} {name : String}
    (equal : target.named = .enumeration name) :
    ∃ original, target = .enumeration original ∧ name = Naming.typeName original := by
  cases target with
  | primitive kind => cases equal
  | structural original => cases equal
  | enumeration original =>
      cases equal
      exact ⟨original, rfl, rfl⟩

theorem Target.named_eq_structural {target : Target} {name : String}
    (equal : target.named = .structural name) :
    ∃ original, target = .structural original ∧ name = Naming.typeName original := by
  cases target with
  | primitive kind => cases equal
  | enumeration original => cases equal
  | structural original =>
      cases equal
      exact ⟨original, rfl, rfl⟩

namespace Catalog

variable {catalog : Catalog} {name : String} {reference : QName}

theorem exists_classifyBase (base : Option QName) :
    ∃ kind, catalog.classifyBase base = .primitive kind := by
  cases base with
  | none => exact ⟨.text, rfl⟩
  | some base =>
      unfold classifyBase
      dsimp only
      split
      · exact ⟨_, rfl⟩
      · exact ⟨.text, rfl⟩

/-- A simple type inside a particle is represented by a primitive. -/
theorem exists_classifyInline (type : SimpleType) :
    ∃ kind, catalog.classifyInline type = .primitive kind := by
  unfold classifyInline
  split
  · exact exists_classifyBase type.base
  · exact ⟨.text, rfl⟩
  · exact ⟨.text, rfl⟩

/-- An enumeration that represents a declared simple type bears the name of the type. -/
theorem classify_eq_enumeration {type : SimpleType}
    (equal : catalog.classify type = .enumeration name) : name = type.name := by
  unfold classify at equal
  split at equal
  · cases equal
    rfl
  · obtain ⟨kind, primitive⟩ := @exists_classifyInline catalog type
    rw [primitive] at equal
    cases equal

theorem targetOf_eq_structural (equal : catalog.targetOf reference = .structural name) :
    name = reference.localName ∧ catalog.simpleTypes.contains reference.localName = false := by
  unfold targetOf at equal
  split at equal
  · cases equal
  · split at equal
    · next type _ =>
        cases type <;> cases equal
    · split at equal
      · cases equal
      · next undeclared =>
          cases equal
          exact ⟨rfl, by simpa using undeclared⟩

theorem targetOf_eq_enumeration (equal : catalog.targetOf reference = .enumeration name) :
    (reference.localName, ScalarType.enumeration name) ∈ catalog.scalars := by
  unfold targetOf at equal
  split at equal
  · cases equal
  · split at equal
    · next type found =>
        obtain ⟨⟨key, kept⟩, inTable, rfl⟩ := Option.map_eq_some_iff.1 found
        obtain rfl : key = reference.localName := by simpa using List.find?_some inTable
        cases kept with
        | primitive kind => cases equal
        | enumeration other =>
            cases equal
            exact List.mem_of_find?_eq_some inTable
    · split at equal <;> cases equal

theorem targetOfElement_eq_enumeration {ref : QName}
    (equal : (catalog.targetOfElement ref).value = .enumeration name) :
    ∃ reference, catalog.targetOf reference = .enumeration name := by
  unfold targetOfElement at equal
  split at equal
  · cases equal
  · split at equal
    · exact ⟨_, equal⟩
    · cases equal
    · cases equal

/-- A particle holds an enumeration only through a name that resolves to it. -/
theorem targetOfParticle_eq_enumeration {particle : ElementParticle}
    (equal : (catalog.targetOfParticle particle).value = .enumeration name) :
    ∃ reference, catalog.targetOf reference = .enumeration name := by
  obtain ⟨_, typeName, simpleType, _, ref, _, _, _⟩ := particle
  match simpleType, typeName, ref with
  | some type, _, _ =>
      obtain ⟨kind, primitive⟩ := @exists_classifyInline catalog type
      change (catalog.classifyInline type).target = _ at equal
      rw [primitive] at equal
      cases equal
  | none, some reference, _ => exact ⟨reference, equal⟩
  | none, none, some ref => exact targetOfElement_eq_enumeration equal
  | none, none, none => cases equal

/-- A primitive, or an enumeration that some name resolves to. -/
def IsScalar (target : Target) : Prop :=
  (∃ kind, target = .primitive kind) ∨
    ∃ reference name, catalog.targetOf reference = .enumeration name ∧
      target = .enumeration name

theorem IsScalar.exists_reference {target : Target} (scalar : catalog.IsScalar target)
    (equal : target = .enumeration name) :
    ∃ reference, catalog.targetOf reference = .enumeration name := by
  rcases scalar with ⟨kind, rfl⟩ | ⟨reference, other, found, rfl⟩
  · cases equal
  · cases equal
    exact ⟨reference, found⟩

theorem IsScalar.ne_structural {target : Target} (scalar : catalog.IsScalar target) :
    target ≠ .structural name := by
  rcases scalar with ⟨kind, rfl⟩ | ⟨reference, other, _, rfl⟩
  · intro equal
    cases equal
  · intro equal
    cases equal

/-- An attribute never holds a structure. -/
theorem isScalar_typeOfAttribute (use : AttributeUse) :
    catalog.IsScalar (catalog.typeOfAttribute use).value.target := by
  obtain ⟨_, typeName, simpleType, _, _⟩ := use
  match simpleType, typeName with
  | some type, _ =>
      obtain ⟨kind, primitive⟩ := @exists_classifyInline catalog type
      exact .inl ⟨kind, congrArg ScalarType.target primitive⟩
  | none, none => exact .inl ⟨.text, rfl⟩
  | none, some reference =>
      unfold typeOfAttribute
      dsimp only
      cases found : catalog.targetOf reference with
      | primitive kind => exact .inl ⟨kind, rfl⟩
      | structural other => exact .inl ⟨.text, rfl⟩
      | enumeration other => exact .inr ⟨reference, other, found, rfl⟩

/-- A text is never a structure. -/
theorem isScalar_typeOfText (text : QName) :
    catalog.IsScalar (catalog.typeOfText text).target := by
  unfold typeOfText
  cases found : catalog.targetOf text with
  | primitive kind => exact .inl ⟨kind, rfl⟩
  | structural other => exact .inl ⟨.text, rfl⟩
  | enumeration other => exact .inr ⟨text, other, found, rfl⟩

end Catalog

end SchemaBinding
