import Mathlib.Data.List.Forall2
import SchemaBinding.Emission
import SchemaBinding.Proofs.Tables

/-!
# The class for a type

The class for a type as a function of the type, the catalogue and the kept global
elements alone.  What a class shows of the type it was made from does not depend
on the classes around it.
-/

namespace SchemaBinding

/-- What a field stands for in a document, without its namespace. -/
inductive Part where
  | element (name : String)
  | attributeUse (name : String)
deriving DecidableEq, Repr

namespace Binding

def part? : Binding → Option Part
  | .element name _ => some (.element name)
  | .attributeUse name => some (.attributeUse name)
  | .text | .ignored => none

def isElement : Binding → Bool
  | .element _ _ => true
  | _ => false

end Binding

def partsOf (elements : List ElementParticle) (attributes : List AttributeUse) :
    List Part :=
  elements.map (fun particle => .element particle.name) ++
    attributes.map (fun use => .attributeUse use.name)

namespace MergedType

def parts (type : MergedType) : List Part :=
  partsOf type.elements type.attributes

end MergedType

namespace ClassModel

def parts (model : ClassModel) : List Part :=
  model.fields.filterMap (·.binding.part?)

def elementFields (model : ClassModel) : List Field :=
  model.fields.filter (·.binding.isElement)

end ClassModel

namespace Draft

/-- A field that was there before, or the new one, or a flag for the new one. -/
theorem mem_fields_addField {draft : Draft} {particle : String} {type : TypeRef}
    {binding : Binding} {isOptional : Bool} {field : Field}
    (member : field ∈ (draft.addField particle type binding isOptional).fields) :
    field ∈ draft.fields ∨ (field.type = type ∧ field.binding = binding) ∨
      (field.type = ⟨.primitive .boolean, false⟩ ∧ field.binding = .ignored) := by
  unfold addField at member
  dsimp only at member
  split at member
  · simp only [List.mem_append, List.mem_cons, List.not_mem_nil, or_false] at member
    rcases member with before | rfl | rfl
    · exact .inl before
    · exact .inr (.inl ⟨rfl, rfl⟩)
    · exact .inr (.inr ⟨rfl, rfl⟩)
  · simp only [List.mem_append, List.mem_cons, List.not_mem_nil, or_false] at member
    rcases member with before | rfl
    · exact .inl before
    · exact .inr (.inl ⟨rfl, rfl⟩)

theorem filterMap_part_addField (draft : Draft) (particle : String) (type : TypeRef)
    (binding : Binding) (isOptional : Bool) :
    (draft.addField particle type binding isOptional).fields.filterMap
        (·.binding.part?) =
      draft.fields.filterMap (·.binding.part?) ++ binding.part?.toList := by
  unfold addField
  dsimp only
  split <;> cases binding <;> simp [Binding.part?]

/-- The new field, when it stands for an element, and none for its flag. -/
theorem filter_isElement_addField (draft : Draft) (particle : String) (type : TypeRef)
    (binding : Binding) (isOptional : Bool) :
    ∃ field : Field, field.originalName = particle ∧ field.type = type ∧
      field.binding = binding ∧ field.isRequired = !isOptional ∧
      (draft.addField particle type binding isOptional).fields.filter
          (·.binding.isElement) =
        draft.fields.filter (·.binding.isElement) ++
          if binding.isElement then [field] else [] := by
  let name := Naming.fieldName particle draft.used
  unfold addField
  dsimp only
  split
  · refine ⟨⟨name, particle, type, binding, !isOptional,
      .flagged (Naming.flagName name (name :: draft.used))⟩, rfl, rfl, rfl, rfl, ?_⟩
    cases binding <;> simp [Binding.isElement, name]
  · refine ⟨⟨name, particle, type, binding, !isOptional, .plain⟩, rfl, rfl, rfl, rfl, ?_⟩
    cases binding <;> simp [Binding.isElement, name]

end Draft

namespace Emission

variable (catalog : Catalog)

def fieldType (owner : MergedType) (particle : ElementParticle) : TypeRef :=
  match particle.complexType with
  | none => (catalog.typeOfParticle particle).value.named
  | some _ =>
      ⟨.structural (Naming.typeName (Naming.synthesizedName owner.name particle.name)),
        particle.isRepeatable⟩

def draftParticle (owner : MergedType) (draft : Draft) (particle : ElementParticle) : Draft :=
  draft.addField particle.name (fieldType catalog owner particle)
    (bindingOf catalog owner particle) particle.isOptional

def draftUse (draft : Draft) (use : AttributeUse) : Draft :=
  draft.addField use.name (catalog.typeOfAttribute use).value.named (.attributeUse use.name)
    use.isOptional

def draftText (draft : Draft) : Option QName → Draft
  | some name => draft.addText (catalog.typeOfText name).named
  | none => draft

def draftOf (type : MergedType) : Draft :=
  draftText catalog
    (type.attributes.foldl (draftUse catalog)
      (type.elements.foldl (draftParticle catalog type) .empty))
    type.text

/-- The base class for a base type, without a report. -/
def baseNameOf (base : Option QName) : Option String :=
  base.bind (fun name =>
    match catalog.targetOf name with
    | .structural target => some (Naming.typeName target)
    | _ => none)

structure Request where
  type : MergedType
  isSynthesized : Bool

def classOf (roots : List (String × RootElement)) (request : Request) : ClassModel where
  name := Naming.typeName request.type.name
  originalName := request.type.name
  uri := request.type.targetNamespace
  base := baseNameOf catalog request.type.base
  fields := (draftOf catalog request.type).fields
  root := find? roots request.type.name
  isSynthesized := request.isSynthesized
  isEmpty := request.type.isEmpty

section Fields

variable (owner : MergedType)

theorem parts_draftParticles (particles : List ElementParticle) (draft : Draft) :
    (particles.foldl (draftParticle catalog owner) draft).fields.filterMap
        (·.binding.part?) =
      draft.fields.filterMap (·.binding.part?) ++
        particles.map (fun particle => .element particle.name) := by
  induction particles generalizing draft with
  | nil => simp
  | cons particle rest ih =>
      rw [List.foldl_cons, ih, draftParticle, Draft.filterMap_part_addField]
      simp [bindingOf, Binding.part?]

theorem parts_draftUses (uses : List AttributeUse) (draft : Draft) :
    (uses.foldl (draftUse catalog) draft).fields.filterMap (·.binding.part?) =
      draft.fields.filterMap (·.binding.part?) ++
        uses.map (fun use => .attributeUse use.name) := by
  induction uses generalizing draft with
  | nil => simp
  | cons use rest ih =>
      rw [List.foldl_cons, ih, draftUse, Draft.filterMap_part_addField]
      simp [Binding.part?]

theorem parts_draftText (draft : Draft) (text : Option QName) :
    (draftText catalog draft text).fields.filterMap (·.binding.part?) =
      draft.fields.filterMap (·.binding.part?) := by
  cases text <;> simp [draftText, Draft.addText, Binding.part?]

/-- A class shows exactly the elements and attributes of its type, in order. -/
theorem parts_classOf (roots : List (String × RootElement)) (request : Request) :
    (classOf catalog roots request).parts = request.type.parts := by
  show (draftOf catalog request.type).fields.filterMap (·.binding.part?) = _
  rw [draftOf, parts_draftText, parts_draftUses, parts_draftParticles]
  simp [Draft.empty, MergedType.parts, partsOf]

/-- How the field for a particle of an owner looks. -/
structure IsFieldFor (particle : ElementParticle) (field : Field) : Prop where
  originalName_eq : field.originalName = particle.name
  type_eq : field.type = fieldType catalog owner particle
  binding_eq : field.binding = bindingOf catalog owner particle
  isRequired_eq : field.isRequired = !particle.isOptional

theorem elementFields_draftParticles (particles : List ElementParticle) (draft : Draft) :
    ∃ fields : List Field,
      List.Forall₂ (IsFieldFor catalog owner) particles fields ∧
      (particles.foldl (draftParticle catalog owner) draft).fields.filter
          (·.binding.isElement) =
        draft.fields.filter (·.binding.isElement) ++ fields := by
  induction particles generalizing draft with
  | nil => exact ⟨[], .nil, by simp⟩
  | cons particle rest ih =>
      obtain ⟨field, name, type, binding, required, equal⟩ :=
        draft.filter_isElement_addField particle.name (fieldType catalog owner particle)
          (bindingOf catalog owner particle) particle.isOptional
      obtain ⟨fields, others, more⟩ := ih (draftParticle catalog owner draft particle)
      refine ⟨field :: fields, .cons ⟨name, type, binding, required⟩ others, ?_⟩
      rw [List.foldl_cons, more, draftParticle, equal]
      simp [bindingOf, Binding.isElement]

theorem elementFields_draftUses (uses : List AttributeUse) (draft : Draft) :
    (uses.foldl (draftUse catalog) draft).fields.filter (·.binding.isElement) =
      draft.fields.filter (·.binding.isElement) := by
  induction uses generalizing draft with
  | nil => rfl
  | cons use rest ih =>
      obtain ⟨field, _, _, _, _, equal⟩ := draft.filter_isElement_addField use.name
        (catalog.typeOfAttribute use).value.named (.attributeUse use.name) use.isOptional
      rw [List.foldl_cons, ih, draftUse, equal]
      simp [Binding.isElement]

/-- The fields for elements are those for the particles of the type, one for each, in order. -/
theorem forall₂_elementFields_classOf (roots : List (String × RootElement))
    (request : Request) :
    List.Forall₂ (IsFieldFor catalog request.type) request.type.elements
      (classOf catalog roots request).elementFields := by
  obtain ⟨fields, each, equal⟩ :=
    elementFields_draftParticles catalog request.type request.type.elements .empty
  have all : (classOf catalog roots request).elementFields = fields := by
    show (draftOf catalog request.type).fields.filter (·.binding.isElement) = _
    have text : ∀ draft : Draft,
        (draftText catalog draft request.type.text).fields.filter (·.binding.isElement) =
          draft.fields.filter (·.binding.isElement) := by
      intro draft
      cases request.type.text <;> simp [draftText, Draft.addText, Binding.isElement]
    rw [draftOf, text, elementFields_draftUses, equal]
    simp [Draft.empty]
  rw [all]
  exact each

/-- What the type and the binding of a field of a class come from. -/
inductive FieldSource (type : MergedType) : TypeRef → Binding → Prop where
  | particle (particle : ElementParticle) (member : particle ∈ type.elements) :
      FieldSource type (fieldType catalog type particle) (bindingOf catalog type particle)
  | attributeUse (use : AttributeUse) (member : use ∈ type.attributes) :
      FieldSource type (catalog.typeOfAttribute use).value.named (.attributeUse use.name)
  | text (name : QName) (given : type.text = some name) :
      FieldSource type (catalog.typeOfText name).named .text
  | flag : FieldSource type ⟨.primitive .boolean, false⟩ .ignored

theorem fieldSource_draftParticles (draft : Draft) {particles : List ElementParticle}
    (before : ∀ field ∈ draft.fields, FieldSource catalog owner field.type field.binding)
    (inside : particles ⊆ owner.elements) {field : Field}
    (member : field ∈ (particles.foldl (draftParticle catalog owner) draft).fields) :
    FieldSource catalog owner field.type field.binding := by
  induction particles generalizing draft with
  | nil => exact before field member
  | cons particle rest ih =>
      refine ih _ ?_ (List.subset_of_cons_subset inside) member
      intro other otherMember
      rcases Draft.mem_fields_addField otherMember with old | ⟨typeEq, bindingEq⟩ | ⟨typeEq, bindingEq⟩
      · exact before other old
      · rw [typeEq, bindingEq]
        exact .particle particle (inside List.mem_cons_self)
      · rw [typeEq, bindingEq]
        exact .flag

theorem fieldSource_draftUses {draft : Draft} {uses : List AttributeUse}
    (before : ∀ field ∈ draft.fields, FieldSource catalog owner field.type field.binding)
    (inside : uses ⊆ owner.attributes) {field : Field}
    (member : field ∈ (uses.foldl (draftUse catalog) draft).fields) :
    FieldSource catalog owner field.type field.binding := by
  induction uses generalizing draft with
  | nil => exact before field member
  | cons use rest ih =>
      refine ih ?_ (List.subset_of_cons_subset inside) member
      intro other otherMember
      rcases Draft.mem_fields_addField otherMember with old | ⟨typeEq, bindingEq⟩ | ⟨typeEq, bindingEq⟩
      · exact before other old
      · rw [typeEq, bindingEq]
        exact .attributeUse use (inside List.mem_cons_self)
      · rw [typeEq, bindingEq]
        exact .flag

/-- Every field comes from a particle, an attribute or the text, or it is a flag. -/
theorem fieldSource_classOf {roots : List (String × RootElement)} {request : Request}
    {field : Field} (member : field ∈ (classOf catalog roots request).fields) :
    FieldSource catalog request.type field.type field.binding := by
  have elements : ∀ field ∈ (request.type.elements.foldl
      (draftParticle catalog request.type) .empty).fields,
      FieldSource catalog request.type field.type field.binding := fun _ =>
    fieldSource_draftParticles catalog request.type .empty
      (by simp [Draft.empty]) (List.Subset.refl _)
  have attributes : ∀ field ∈ (request.type.attributes.foldl (draftUse catalog)
      (request.type.elements.foldl (draftParticle catalog request.type) .empty)).fields,
      FieldSource catalog request.type field.type field.binding := fun _ =>
    fieldSource_draftUses catalog request.type elements (List.Subset.refl _)
  have inside : field ∈ (draftOf catalog request.type).fields := member
  unfold draftOf at inside
  cases text : request.type.text with
  | none =>
      rw [text] at inside
      exact attributes field inside
  | some name =>
      rw [text] at inside
      rcases List.mem_append.1 inside with before | here
      · exact attributes field before
      · obtain rfl := List.mem_singleton.1 here
        exact .text name text

end Fields

end Emission

end SchemaBinding
