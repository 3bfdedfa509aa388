import SchemaBinding.Proofs.ClassModel
import SchemaBinding.Proofs.Correspondence

/-!
# Names that are read alike

What a particle, an attribute or a text is made of depends on a catalogue only
through the declarations that it finds by their names, and on a name only through
how it is read: as a builtin type, or as what is declared under its local name.
-/

namespace SchemaBinding

namespace Catalog

theorem contains_simpleType (catalog : Catalog) (name : String) :
    catalog.simpleTypes.contains name = (catalog.simpleTypes.first? name).isSome := by
  unfold Registry.contains Registry.first?
  rw [Option.isSome_map]

/-- Corresponding names are read alike: as the same builtin type or the same declaration. -/
structure Settles (catalog : Catalog) (names : Correspondence) : Prop where
  localName_eq : ∀ {name other}, names.types name other → name.localName = other.localName
  toString_eq : ∀ {name other}, names.types name other → name.toString = other.toString
  isBuiltin_eq : ∀ {name other}, names.types name other →
    catalog.isBuiltin name = catalog.isBuiltin other
  elementName_eq : ∀ {ref other}, names.elements ref other → ref.localName = other.localName
  elementText_eq : ∀ {ref other}, names.elements ref other → ref.toString = other.toString
  uri_eq : ∀ {ref other}, names.elements ref other →
    catalog.elements.first? ref.localName = none → ref.uri = other.uri

/-- The names that a catalogue reads alike.  Which attribute is referred to is never read. -/
def readings (catalog : Catalog) : Correspondence where
  types name other := name.localName = other.localName ∧ name.toString = other.toString ∧
    catalog.isBuiltin name = catalog.isBuiltin other
  elements ref other := ref.localName = other.localName ∧ ref.toString = other.toString ∧
    (catalog.elements.first? ref.localName = none → ref.uri = other.uri)
  attributes _ _ := True

theorem isReflexive_readings (catalog : Catalog) : catalog.readings.IsReflexive where
  types _ := ⟨rfl, rfl, rfl⟩
  elements _ := ⟨rfl, rfl, fun _ => rfl⟩
  attributes _ := trivial

theorem settles_readings (catalog : Catalog) : catalog.Settles catalog.readings where
  localName_eq same := same.1
  toString_eq same := same.2.1
  isBuiltin_eq same := same.2.2
  elementName_eq same := same.1
  elementText_eq same := same.2.1
  uri_eq same := same.2.2

structure DeclaresAlike (names : Correspondence) (first second : Catalog) : Prop where
  settles : first.Settles names
  contains_complexType_eq : ∀ name,
    first.complexTypes.contains name = second.complexTypes.contains name
  simpleType : ∀ name, Option.Rel (SimpleType.Alike names) (first.simpleTypes.first? name)
    (second.simpleTypes.first? name)
  element : ∀ name, Option.Rel (GlobalElement.Alike names) (first.elements.first? name)
    (second.elements.first? name)

structure FindsAlike (names : Correspondence) (first second : Catalog) : Prop
    extends DeclaresAlike names first second where
  scalar?_eq : ∀ name, first.scalar? name = second.scalar? name

variable {names : Correspondence} {first second : Catalog}

namespace DeclaresAlike

variable (alike : DeclaresAlike names first second)
include alike

theorem contains_simpleType_eq (name : String) :
    first.simpleTypes.contains name = second.simpleTypes.contains name := by
  rw [contains_simpleType, contains_simpleType]
  exact isSome_eq_of_optionRel (alike.simpleType name)

/-- What counts as builtin depends on the declared names only. -/
theorem isBuiltin_eq {name other : QName} (same : names.types name other) :
    first.isBuiltin name = second.isBuiltin other := by
  rw [alike.settles.isBuiltin_eq same]
  unfold isBuiltin
  rw [alike.contains_simpleType_eq, alike.contains_complexType_eq]

theorem classifyInline_eq {type other : SimpleType} (same : type.Alike names other) :
    first.classifyInline type = second.classifyInline other := by
  have bases : first.classifyBase type.base = second.classifyBase other.base := by
    have base := same.base
    generalize type.base = name at base ⊢
    generalize other.base = otherName at base ⊢
    cases base with
    | none => rfl
    | some base =>
        simp only [classifyBase, alike.isBuiltin_eq base, alike.settles.localName_eq base]
  unfold classifyInline
  rw [same.variety_eq, bases]

theorem classify_eq {type other : SimpleType} (same : type.Alike names other) :
    first.classify type = second.classify other := by
  unfold classify
  rw [same.variety_eq, same.enumerations_eq, same.name_eq, alike.classifyInline_eq same]

end DeclaresAlike

namespace FindsAlike

variable (alike : FindsAlike names first second)
include alike

theorem targetOf_eq {name other : QName} (same : names.types name other) :
    first.targetOf name = second.targetOf other := by
  unfold targetOf
  rw [alike.isBuiltin_eq same, alike.settles.localName_eq same, alike.scalar?_eq,
    alike.contains_simpleType_eq]

theorem targetOfElement_eq {ref other : QName} (same : names.elements ref other) :
    first.targetOfElement ref = second.targetOfElement other := by
  have found := alike.element ref.localName
  unfold targetOfElement
  rw [alike.settles.elementText_eq same, ← alike.settles.elementName_eq same]
  generalize first.elements.first? ref.localName = element? at found ⊢
  generalize second.elements.first? ref.localName = other? at found ⊢
  cases found with
  | none => rfl
  | @some element otherElement found =>
      obtain ⟨name, typeName, complexType, uri, source⟩ := element
      obtain ⟨otherName, otherTypeName, otherComplexType, otherUri, otherSource⟩ := otherElement
      obtain ⟨name_eq, typeNames, complexTypes, _, _⟩ := found
      dsimp only at name_eq typeNames complexTypes ⊢
      rw [name_eq]
      cases typeNames with
      | some name =>
          dsimp only
          rw [alike.targetOf_eq name]
      | none => cases complexTypes <;> rfl

theorem typeOfParticle_eq {particle other : ElementParticle}
    (same : particle.AlikeOutside names other) :
    first.typeOfParticle particle = second.typeOfParticle other := by
  obtain ⟨name, typeName, simpleType, complexType, ref, minOccurs, maxOccurs, uri⟩ := particle
  obtain ⟨otherName, otherTypeName, otherSimpleType, otherComplexType, otherRef, otherMin,
    otherMax, otherUri⟩ := other
  obtain ⟨_, typeNames, simpleTypes, refs, _, maxOccurs_eq, _, _⟩ := same
  dsimp only at typeNames simpleTypes refs maxOccurs_eq
  unfold typeOfParticle targetOfParticle Particle.isRepeatable
  rw [maxOccurs_eq]
  dsimp only
  cases simpleTypes with
  | some type =>
      dsimp only
      rw [alike.classifyInline_eq type]
  | none =>
      cases typeNames with
      | some name =>
          dsimp only
          rw [alike.targetOf_eq name]
      | none =>
          cases refs with
          | some ref =>
              dsimp only
              rw [alike.targetOfElement_eq ref]
          | none => rfl

theorem typeOfAttribute_eq {use other : AttributeUse} (same : use.Alike names other) :
    first.typeOfAttribute use = second.typeOfAttribute other := by
  obtain ⟨name, typeName, simpleType, ref, required⟩ := use
  obtain ⟨otherName, otherTypeName, otherSimpleType, otherRef, otherRequired⟩ := other
  obtain ⟨name_eq, typeNames, simpleTypes, _, _⟩ := same
  dsimp only at name_eq typeNames simpleTypes
  unfold typeOfAttribute
  rw [name_eq]
  dsimp only
  cases simpleTypes with
  | some type =>
      dsimp only
      rw [alike.classifyInline_eq type]
  | none =>
      cases typeNames with
      | some name =>
          dsimp only
          rw [alike.targetOf_eq name, alike.settles.toString_eq name]
      | none => rfl

theorem typeOfText_eq {name other : QName} (same : names.types name other) :
    first.typeOfText name = second.typeOfText other := by
  unfold typeOfText
  rw [alike.targetOf_eq same]

theorem namespaceOf_eq {particle other : ElementParticle}
    (same : particle.AlikeOutside names other) (owner : Option String) :
    first.namespaceOf particle owner = second.namespaceOf other owner := by
  have refs := same.ref
  unfold namespaceOf
  rw [same.targetNamespace_eq]
  generalize particle.ref = ref? at refs ⊢
  generalize other.ref = otherRef? at refs ⊢
  cases refs with
  | none => rfl
  | @some ref otherRef reference =>
      have found := alike.element ref.localName
      have unfound := alike.settles.uri_eq reference
      dsimp only
      rw [← alike.settles.elementName_eq reference]
      generalize first.elements.first? ref.localName = element? at found unfound ⊢
      generalize second.elements.first? ref.localName = other? at found ⊢
      cases found with
      | none => exact unfound rfl
      | some element => exact element.targetNamespace_eq

/-- Particles that are alike get the same field. -/
theorem draftParticle_eq {owner otherOwner : MergedType} (name_eq : owner.name = otherOwner.name)
    (targetNamespace_eq : owner.targetNamespace = otherOwner.targetNamespace) (draft : Draft)
    {particle other : ElementParticle} (same : particle.AlikeOutside names other) :
    Emission.draftParticle first owner draft particle =
      Emission.draftParticle second otherOwner draft other := by
  have types : Emission.fieldType first owner particle =
      Emission.fieldType second otherOwner other := by
    have holds := same.holds_eq
    unfold Emission.fieldType Particle.isRepeatable
    rw [alike.typeOfParticle_eq same, name_eq, same.name_eq, same.maxOccurs_eq]
    generalize particle.complexType = type? at holds ⊢
    generalize other.complexType = otherType? at holds ⊢
    cases type? <;> cases otherType? <;> first | rfl | cases holds
  unfold Emission.draftParticle Emission.bindingOf Particle.isOptional
  rw [types, same.name_eq, same.minOccurs_eq, targetNamespace_eq, alike.namespaceOf_eq same]

end FindsAlike

end Catalog

end SchemaBinding
