import SchemaBinding.Proofs.Readings

/-!
# Catalogues that are alike

What the class for a type looks like depends on a catalogue only through the
declarations that it finds by their names, not on how it lists them.
-/

namespace SchemaBinding

open Emission

namespace Catalog

/-- What is computed for a simple type is kept under its name. -/
theorem scalar?_eq_map {catalog : Catalog} (computed : catalog.scalars = catalog.representations)
    (name : String) :
    catalog.scalar? name = (catalog.simpleTypes.first? name).map catalog.classify := by
  unfold scalar? Registry.first? Registry.definitions?
  rw [computed, representations, List.find?_map]
  simp only [Option.map_map]
  rfl

/-- Two catalogues find the same declarations by their names. -/
structure Resembles (first second : Catalog) : Prop where
  contains_complexType_eq : ∀ name,
    first.complexTypes.contains name = second.complexTypes.contains name
  first_simpleType_eq : ∀ name, first.simpleTypes.first? name = second.simpleTypes.first? name
  first_element_eq : ∀ name, first.elements.first? name = second.elements.first? name
  computed : first.scalars = first.representations
  otherComputed : second.scalars = second.representations

namespace Resembles

variable {first second : Catalog} (alike : first.Resembles second)
include alike

/-- The same declarations are alike. -/
theorem declaresAlike : DeclaresAlike first.readings first second where
  settles := settles_readings first
  contains_complexType_eq := alike.contains_complexType_eq
  simpleType name := by
    rw [alike.first_simpleType_eq]
    exact optionRel_refl (SimpleType.Alike.refl first.isReflexive_readings) _
  element name := by
    rw [alike.first_element_eq]
    exact optionRel_refl (GlobalElement.Alike.refl first.isReflexive_readings) _

theorem classify_eq (type : SimpleType) : first.classify type = second.classify type :=
  alike.declaresAlike.classify_eq (.refl first.isReflexive_readings type)

theorem findsAlike : FindsAlike first.readings first second :=
  { alike.declaresAlike with
    scalar?_eq := fun name => by
      rw [scalar?_eq_map alike.computed, scalar?_eq_map alike.otherComputed,
        alike.first_simpleType_eq]
      exact Option.map_congr (fun type _ => alike.classify_eq type) }

theorem targetOf_eq (name : QName) : first.targetOf name = second.targetOf name :=
  alike.findsAlike.targetOf_eq (first.isReflexive_readings.types name)

theorem draftOf_eq (type : MergedType) : draftOf first type = draftOf second type := by
  have particles : draftParticle first type = draftParticle second type := by
    funext draft particle
    exact alike.findsAlike.draftParticle_eq rfl rfl draft
      (.refl first.isReflexive_readings particle)
  have uses : draftUse first = draftUse second := by
    funext draft use
    unfold draftUse
    rw [alike.findsAlike.typeOfAttribute_eq (.refl first.isReflexive_readings use)]
  unfold draftOf
  rw [particles, uses]
  cases type.text with
  | none => rfl
  | some name =>
      show Draft.addText _ _ = Draft.addText _ _
      rw [alike.findsAlike.typeOfText_eq (first.isReflexive_readings.types name)]

/-- Catalogues that are alike make the same class for a type that has the same root. -/
theorem classOf_eq {roots others : List (String × RootElement)} {request : Request}
    (root : find? roots request.type.name = find? others request.type.name) :
    classOf first roots request = classOf second others request := by
  unfold classOf baseNameOf
  simp only [alike.draftOf_eq, alike.targetOf_eq, root]

end Resembles

end Catalog

end SchemaBinding
