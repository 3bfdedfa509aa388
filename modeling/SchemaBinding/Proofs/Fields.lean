import SchemaBinding.Proofs.Emission
import SchemaBinding.Proofs.FreshNames
import SchemaBinding.Proofs.Resolution

/-!
# Fields of a class

The fields of a class stand for the elements, the attributes and the text of its
type, one for each and in their order.  A field of a primitive value that may be
absent is followed by its flag, and no other field has one.  Whatever names the
schema gives, the names of the fields are distinct identifiers.
-/

namespace SchemaBinding

namespace Field

/-- A field that tells whether another one was given. -/
def isFlag (field : Field) : Bool :=
  match field.role with
  | .flagOf _ _ => true
  | .plain | .flagged _ => false

/-- A field for an element or attribute that may be absent although its value is always there. -/
structure NeedsFlag (field : Field) : Prop where
  isOptional : field.isRequired = false
  isPart : field.binding.part? ≠ none
  isSingle : field.type.isSequence = false
  isValue : field.type.target ∈
    [.primitive .integer, .primitive .decimal, .primitive .boolean, .primitive .timestamp]

/-- A field and its flag name each other; the flag is a truth value outside documents. -/
structure IsFlagFor (field flag : Field) : Prop where
  flagged : field.role = .flagged flag.name
  flagOf : flag.role = .flagOf field.name false
  type_eq : flag.type = ⟨.primitive .boolean, false⟩
  binding_eq : flag.binding = .ignored

end Field

theorem eq_nil_iff_of_forall₂ {α β : Type} {related : α → β → Prop} {items : List α}
    {others : List β} (each : List.Forall₂ related items others) : items = [] ↔ others = [] := by
  cases each <;> simp

/-- Fields and all fields of a class: each is followed by its flag if it needs one. -/
inductive FollowedByFlags : List Field → List Field → Prop where
  | nil : FollowedByFlags [] []
  | plain {field : Field} {rest all : List Field} (unneeded : ¬ field.NeedsFlag)
      (unflagged : field.role = .plain) (more : FollowedByFlags rest all) :
      FollowedByFlags (field :: rest) (field :: all)
  | flagged {field flag : Field} {rest all : List Field} (needed : field.NeedsFlag)
      (own : field.IsFlagFor flag) (more : FollowedByFlags rest all) :
      FollowedByFlags (field :: rest) (field :: flag :: all)

namespace FollowedByFlags

variable {fields all others rest : List Field}

theorem append (first : FollowedByFlags fields all) (second : FollowedByFlags others rest) :
    FollowedByFlags (fields ++ others) (all ++ rest) := by
  induction first with
  | nil => exact second
  | plain unneeded unflagged more ih => exact .plain unneeded unflagged ih
  | flagged needed own more ih => exact .flagged needed own ih

/-- The fields that are followed by flags are those that are no flags themselves. -/
theorem filter_eq (followed : FollowedByFlags fields all) :
    all.filter (!·.isFlag) = fields := by
  induction followed with
  | nil => rfl
  | @plain field rest all unneeded unflagged more ih =>
      have own : field.isFlag = false := by rw [Field.isFlag, unflagged]
      rw [List.filter_cons_of_pos (by rw [own]; rfl), ih]
  | @flagged field flag rest all needed own more ih =>
      have noFlag : field.isFlag = false := by rw [Field.isFlag, own.flagged]
      have isFlag : flag.isFlag = true := by rw [Field.isFlag, own.flagOf]
      rw [List.filter_cons_of_pos (by rw [noFlag]; rfl),
        List.filter_cons_of_neg (by rw [isFlag]; decide), ih]

theorem eq_nil_iff (followed : FollowedByFlags fields all) : all = [] ↔ fields = [] := by
  cases followed with
  | nil => rfl
  | plain => simp
  | flagged => simp

end FollowedByFlags

namespace TypeRef

theorem isValue_iff (type : TypeRef) :
    type.isValue = true ↔ type.isSequence = false ∧ type.target ∈
      [.primitive .integer, .primitive .decimal, .primitive .boolean, .primitive .timestamp] := by
  obtain ⟨target, isSequence⟩ := type
  cases target with
  | primitive kind => cases kind <;> simp [isValue, Primitive.isValue]
  | enumeration name => simp [isValue]
  | structural name => simp [isValue]

end TypeRef

namespace Draft

/-- The names in use are those of the fields, each once and all of them identifiers. -/
structure NamesApart (draft : Draft) : Prop where
  used_eq : draft.used = (draft.fields.map Field.name).reverse
  nodup : draft.used.Nodup
  named : ∀ name ∈ draft.used, IsName name

theorem namesApart_empty : empty.NamesApart where
  used_eq := rfl
  nodup := .nil
  named name member := by simp [empty] at member

namespace NamesApart

variable {draft : Draft}

theorem addField (apart : draft.NamesApart) (particle : String) (type : TypeRef)
    (binding : Binding) (isOptional : Bool) :
    (draft.addField particle type binding isOptional).NamesApart := by
  have freshName := Naming.fieldName_not_mem particle draft.used
  have isName := Naming.isName_fieldName particle draft.used
  have freshFlag := Naming.flagName_not_mem (Naming.fieldName particle draft.used)
    (Naming.fieldName particle draft.used :: draft.used)
  have isFlagName := Naming.isName_flagName isName
    (Naming.fieldName particle draft.used :: draft.used)
  have apartWith : (Naming.fieldName particle draft.used :: draft.used).Nodup :=
    List.nodup_cons.2 ⟨freshName, apart.nodup⟩
  unfold Draft.addField
  dsimp only
  split
  · refine ⟨?_, List.nodup_cons.2 ⟨freshFlag, apartWith⟩, ?_⟩
    · simp [← apart.used_eq]
    · exact List.forall_mem_cons.2 ⟨isFlagName, List.forall_mem_cons.2 ⟨isName, apart.named⟩⟩
  · refine ⟨?_, apartWith, List.forall_mem_cons.2 ⟨isName, apart.named⟩⟩
    simp [← apart.used_eq]

theorem addText (apart : draft.NamesApart) (type : TypeRef) :
    (draft.addText type).NamesApart where
  used_eq := by simp [Draft.addText, ← apart.used_eq]
  nodup := List.nodup_cons.2 ⟨Naming.fieldName_not_mem _ _, apart.nodup⟩
  named := List.forall_mem_cons.2 ⟨Naming.isName_fieldName _ _, apart.named⟩

end NamesApart

/-- What is drafted is followed by one field for a particle, with its flag if it needs one. -/
theorem exists_addField (draft : Draft) (particle : String) (type : TypeRef)
    {binding : Binding} (isPart : binding.part? ≠ none) (isOptional : Bool) :
    ∃ field more, field.originalName = particle ∧ field.type = type ∧
      field.binding = binding ∧ field.isRequired = !isOptional ∧
      FollowedByFlags [field] more ∧
      (draft.addField particle type binding isOptional).fields = draft.fields ++ more := by
  unfold Draft.addField
  dsimp only
  split
  · next needed =>
      obtain ⟨optional, value⟩ := (Bool.and_eq_true _ _).mp needed
      obtain ⟨isSingle, isValue⟩ := type.isValue_iff.1 value
      refine ⟨_, _, rfl, rfl, rfl, rfl, .flagged ⟨?_, isPart, isSingle, isValue⟩ ?_ .nil, rfl⟩
      · rw [optional]
        rfl
      · exact ⟨rfl, rfl, rfl, rfl⟩
  · next unneeded =>
      refine ⟨_, _, rfl, rfl, rfl, rfl, .plain ?_ rfl .nil, rfl⟩
      intro needs
      apply unneeded
      have value := type.isValue_iff.2 ⟨needs.isSingle, needs.isValue⟩
      have optional : (!isOptional) = false := needs.isOptional
      rw [value, Bool.and_true]
      exact (Bool.not_eq_false' _).mp optional

end Draft

namespace Emission

variable (catalog : Catalog)

structure StandsForElement (owner : MergedType) (particle : ElementParticle) (field : Field) :
    Prop where
  originalName_eq : field.originalName = particle.name
  binding_eq : field.binding =
    .element particle.name (catalog.namespaceOf particle owner.targetNamespace)
  isRequired_iff : field.isRequired = true ↔ particle.minOccurs ≠ 0
  isSequence_iff : field.type.isSequence = true ↔ particle.maxOccurs = "unbounded"
  /-- A type inside the element has a class of its own. -/
  inner : particle.complexType.isSome = true → field.type.target =
    .structural (Naming.typeName (Naming.synthesizedName owner.name particle.name))

structure StandsForAttribute (use : AttributeUse) (field : Field) : Prop where
  originalName_eq : field.originalName = use.name
  binding_eq : field.binding = .attributeUse use.name
  isRequired_eq : field.isRequired = use.required
  isSingle : field.type.isSequence = false
  isSimple : ∀ name, field.type.target ≠ .structural name

structure StandsForText (name : QName) (field : Field) : Prop where
  binding_eq : field.binding = .text
  type_eq : field.type = (catalog.typeOfText name).named
  isSingle : field.type.isSequence = false
  isSimple : ∀ name, field.type.target ≠ .structural name

/-- The fields of a class show its type. -/
structure IsFaithful (type : MergedType) (model : ClassModel) : Prop where
  originalName_eq : model.originalName = type.name
  own : ∃ elements attributes texts,
    model.fields.filter (!·.isFlag) = elements ++ attributes ++ texts ∧
    List.Forall₂ (StandsForElement catalog type) type.elements elements ∧
    List.Forall₂ StandsForAttribute type.attributes attributes ∧
    List.Forall₂ (StandsForText catalog) type.text.toList texts
  flags : FollowedByFlags (model.fields.filter (!·.isFlag)) model.fields
  distinct : (model.fields.map Field.name).Nodup
  named : ∀ field ∈ model.fields, IsName field.name
  isEmpty_iff : model.isEmpty = true ↔ model.fields = []

section Drafts

variable (owner : MergedType)

theorem isSequence_fieldType (particle : ElementParticle) :
    (fieldType catalog owner particle).isSequence = particle.isRepeatable := by
  unfold fieldType
  cases particle.complexType with
  | none => rfl
  | some type => rfl

theorem isSequence_typeOfAttribute (use : AttributeUse) :
    (catalog.typeOfAttribute use).value.isSequence = false := by
  obtain ⟨name, typeName, simpleType, ref, required⟩ := use
  match simpleType, typeName with
  | some type, _ => rfl
  | none, none => rfl
  | none, some reference =>
      unfold Catalog.typeOfAttribute
      dsimp only
      cases catalog.targetOf reference <;> rfl

theorem isSequence_typeOfText (name : QName) : (catalog.typeOfText name).isSequence = false := by
  unfold Catalog.typeOfText
  cases catalog.targetOf name <;> rfl

/-- What is no structure is none under the name of its artifact either. -/
theorem named_ne_structural {target : Target} (simple : catalog.IsScalar target) (name : String) :
    target.named ≠ .structural name := by
  intro equal
  obtain ⟨original, found, _⟩ := Target.named_eq_structural equal
  exact simple.ne_structural found

theorem exists_draftParticle (draft : Draft) (particle : ElementParticle) :
    ∃ field more, StandsForElement catalog owner particle field ∧
      FollowedByFlags [field] more ∧
      (draftParticle catalog owner draft particle).fields = draft.fields ++ more := by
  have isPart : (bindingOf catalog owner particle).part? ≠ none := Option.some_ne_none _
  obtain ⟨field, more, name, type, binding, required, followed, equal⟩ :=
    draft.exists_addField particle.name (fieldType catalog owner particle) isPart
      particle.isOptional
  refine ⟨field, more, ⟨name, binding, ?_, ?_, ?_⟩, followed, equal⟩
  · rw [required, Particle.isOptional]
    simp
  · rw [type, isSequence_fieldType, Particle.isRepeatable, beq_iff_eq]
  · intro inside
    obtain ⟨inner, given⟩ := Option.isSome_iff_exists.1 inside
    rw [type, fieldType, given]

theorem exists_draftUse (draft : Draft) (use : AttributeUse) :
    ∃ field more, StandsForAttribute use field ∧ FollowedByFlags [field] more ∧
      (draftUse catalog draft use).fields = draft.fields ++ more := by
  have isPart : (Binding.attributeUse use.name).part? ≠ none := Option.some_ne_none _
  obtain ⟨field, more, name, type, binding, required, followed, equal⟩ :=
    draft.exists_addField use.name (catalog.typeOfAttribute use).value.named isPart use.isOptional
  refine ⟨field, more, ⟨name, binding, ?_, ?_, ?_⟩, followed, equal⟩
  · rw [required, AttributeUse.isOptional, Bool.not_not]
  · rw [type]
    exact isSequence_typeOfAttribute catalog use
  · rw [type]
    exact named_ne_structural catalog (catalog.isScalar_typeOfAttribute use)

theorem exists_draftText (draft : Draft) (text : Option QName) :
    ∃ fields, List.Forall₂ (StandsForText catalog) text.toList fields ∧
      FollowedByFlags fields fields ∧
      (draftText catalog draft text).fields = draft.fields ++ fields := by
  cases text with
  | none => exact ⟨[], .nil, .nil, (List.append_nil _).symm⟩
  | some name =>
      refine ⟨_, .cons ⟨rfl, rfl, ?_, ?_⟩ .nil, .plain ?_ rfl .nil, rfl⟩
      · exact isSequence_typeOfText catalog name
      · exact named_ne_structural catalog (catalog.isScalar_typeOfText name)
      · exact fun needs => needs.isPart rfl

/-- Steps that each add one field with its flag add one field for each item. -/
theorem exists_foldl_fields {α : Type} {step : Draft → α → Draft} {stands : α → Field → Prop}
    (adds : ∀ draft item, ∃ field more, stands item field ∧ FollowedByFlags [field] more ∧
      (step draft item).fields = draft.fields ++ more) (items : List α) (draft : Draft) :
    ∃ fields more, List.Forall₂ stands items fields ∧ FollowedByFlags fields more ∧
      (items.foldl step draft).fields = draft.fields ++ more := by
  induction items generalizing draft with
  | nil => exact ⟨[], [], .nil, .nil, (List.append_nil _).symm⟩
  | cons item rest ih =>
      obtain ⟨field, own, first, followed, equal⟩ := adds draft item
      obtain ⟨fields, more, others, followedLater, equalLater⟩ := ih (step draft item)
      refine ⟨field :: fields, own ++ more, .cons first others, followed.append followedLater, ?_⟩
      rw [List.foldl_cons, equalLater, equal, List.append_assoc]

theorem namesApart_draftOf (type : MergedType) : (draftOf catalog type).NamesApart := by
  have elements := List.foldlRecOn type.elements (draftParticle catalog type)
    Draft.namesApart_empty (fun _ apart _ _ => apart.addField _ _ _ _)
  have attributes := List.foldlRecOn type.attributes (draftUse catalog) elements
    (fun _ apart _ _ => apart.addField _ _ _ _)
  unfold draftOf draftText
  split
  · exact attributes.addText _
  · exact attributes

end Drafts

/-- The class for a type is faithful to it. -/
theorem isFaithful_classOf (roots : List (String × RootElement)) (request : Request) :
    IsFaithful catalog request.type (classOf catalog roots request) := by
  obtain ⟨type, isSynthesized⟩ := request
  obtain ⟨elements, withElements, forElements, followedElements, elementsEq⟩ :=
    exists_foldl_fields (exists_draftParticle catalog type) type.elements .empty
  obtain ⟨attributes, withAttributes, forAttributes, followedAttributes, attributesEq⟩ :=
    exists_foldl_fields (exists_draftUse catalog) type.attributes
      (type.elements.foldl (draftParticle catalog type) .empty)
  obtain ⟨texts, forTexts, followedTexts, textsEq⟩ :=
    exists_draftText catalog (type.attributes.foldl (draftUse catalog)
      (type.elements.foldl (draftParticle catalog type) .empty)) type.text
  have followed : FollowedByFlags (elements ++ attributes ++ texts)
      (classOf catalog roots ⟨type, isSynthesized⟩).fields := by
    show FollowedByFlags _ (draftOf catalog type).fields
    rw [draftOf, textsEq, attributesEq, elementsEq]
    exact (followedElements.append followedAttributes).append followedTexts
  have apart := namesApart_draftOf catalog type
  refine ⟨rfl, ?_, ?_, ?_, ?_, ?_⟩
  · exact ⟨elements, attributes, texts, followed.filter_eq, forElements, forAttributes, forTexts⟩
  · rw [followed.filter_eq]
    exact followed
  · exact List.nodup_reverse.1 (apart.used_eq ▸ apart.nodup)
  · intro field member
    refine apart.named field.name ?_
    rw [apart.used_eq, List.mem_reverse]
    exact List.mem_map_of_mem member
  · rw [followed.eq_nil_iff, List.append_eq_nil_iff, List.append_eq_nil_iff,
      ← eq_nil_iff_of_forall₂ forElements, ← eq_nil_iff_of_forall₂ forAttributes,
      ← eq_nil_iff_of_forall₂ forTexts, Option.toList_eq_nil_iff]
    simp [classOf, MergedType.isEmpty]

/-- The class that is returned for a drafted type is the class for that type. -/
theorem snd_addClass {emission : Emission} {roots : List (String × RootElement)}
    {type : MergedType} (isSynthesized : Bool) (roots_eq : emission.roots = roots) :
    (emission.addClass catalog type isSynthesized (baseNameOf catalog type.base)
      (type.attributes.foldl (draftUse catalog)
        (type.elements.foldl (draftParticle catalog type) .empty))).2 =
      classOf catalog roots ⟨type, isSynthesized⟩ := by
  subst roots_eq
  unfold addClass classOf draftOf
  cases type.text <;> rfl

/-- A name that is new gets its class. -/
theorem snd_emitClass_of_fresh {before : Emission} {type : MergedType} (isSynthesized : Bool)
    (fresh : type.name ∉ before.emitted) :
    (before.emitClass catalog type isSynthesized).value.2 =
      some (classOf catalog before.roots ⟨type, isSynthesized⟩) := by
  obtain ⟨entered, left, adds⟩ := exists_addsParticles catalog type type.elements .empty
    { before with emitted := type.name :: before.emitted }
  unfold emitClass
  rw [if_neg (by simpa using fresh)]
  simp only [Logged.value_bind, value_addAttributes, adds.draft_eq, value_baseOf]
  exact congrArg some
    (snd_addClass catalog isSynthesized (by rw [adds.serves.after_eq, grow]))

/-- The class for a new name comes behind those for the types inside its particles. -/
theorem classes_emitClass_of_fresh {before : Emission} {type : MergedType} (isSynthesized : Bool)
    (fresh : type.name ∉ before.emitted) :
    ∃ nested, (before.emitClass catalog type isSynthesized).value.1.model.classes =
      before.model.classes ++ nested ++ [classOf catalog before.roots ⟨type, isSynthesized⟩] := by
  obtain ⟨entered, left, serves⟩ := exists_serves_emitClass catalog before type isSynthesized
  rw [serves.after_eq]
  cases serves.traversal with
  | pass known after => exact absurd known fresh
  | @enter _ _ _ _ leftBelow _ _ new inside after =>
      cases after with
      | done seen =>
          refine ⟨leftBelow.map (classOf catalog before.roots), ?_⟩
          rw [grow, List.map_append, ← List.append_assoc]
          rfl

/-- Whatever was emitted before, a name that is new gets a class that is faithful to its type. -/
theorem emitClass_isFaithful (before : Emission) (type : MergedType) (isSynthesized : Bool)
    (fresh : type.name ∉ before.emitted) :
    ∃ nested model,
      (before.emitClass catalog type isSynthesized).value.2 = some model ∧
      (before.emitClass catalog type isSynthesized).value.1.model.classes =
        before.model.classes ++ nested ++ [model] ∧
      IsFaithful catalog type model := by
  obtain ⟨nested, classes⟩ := classes_emitClass_of_fresh catalog isSynthesized fresh
  exact ⟨nested, classOf catalog before.roots ⟨type, isSynthesized⟩,
    snd_emitClass_of_fresh catalog isSynthesized fresh, classes,
    isFaithful_classOf catalog before.roots ⟨type, isSynthesized⟩⟩

/-- A type with an attribute and elements whose names become one identifier, and with a flag. -/
def dialType : MergedType where
  name := "Dial"
  elements := [
    { name := "min-step", typeName := some ⟨some xsdNamespace, "int", false⟩, minOccurs := 0 },
    { name := "min.stepSpecified", maxOccurs := "unbounded", complexType := some {} }]
  attributes := [
    { name := "min step", typeName := some ⟨some xsdNamespace, "date", false⟩ }]
  base := none
  text := some ⟨some xsdNamespace, "string", false⟩
  targetNamespace := none
  sources := []

def clockEmission : Emission :=
  { empty with emitted := ["Clock"] }

theorem emitClass_isFaithful_dialType :
    "Dial" ∉ clockEmission.emitted ∧
      (∃ nested model,
        (clockEmission.emitClass .empty dialType false).value.2 = some model ∧
        (clockEmission.emitClass .empty dialType false).value.1.model.classes =
          clockEmission.model.classes ++ nested ++ [model] ∧
        IsFaithful .empty dialType model) ∧
      (clockEmission.emitClass .empty dialType false).value.2.map
          (fun model => model.fields.map Field.name) =
        some ["min_step", "min_stepSpecified", "min_stepSpecified1", "min_step1",
          "min_step1Specified", "Value"] :=
  ⟨by decide, emitClass_isFaithful .empty clockEmission dialType false (by decide),
    by decide⟩

end Emission

end SchemaBinding
