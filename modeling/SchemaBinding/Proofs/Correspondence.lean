import Mathlib.Data.List.Forall2
import Mathlib.Data.Option.Basic
import SchemaBinding.Schema.Definition

/-!
# Corresponding declarations

Two schemas are alike if they differ in nothing but the names that they refer to,
and names in the same place correspond to each other.  What may correspond is
chosen apart for names of types, references to elements and references to
attributes.
-/

namespace SchemaBinding

/-- Which names may stand for one another. -/
structure Correspondence where
  types : QName → QName → Prop
  elements : QName → QName → Prop
  attributes : QName → QName → Prop

namespace Correspondence

/-- The same names correspond wherever they stand. -/
def ofRelation (related : QName → QName → Prop) : Correspondence :=
  ⟨related, related, related⟩

structure IsReflexive (names : Correspondence) : Prop where
  types : ∀ name, names.types name name
  elements : ∀ name, names.elements name name
  attributes : ∀ name, names.attributes name name

end Correspondence

theorem optionRel_refl {α : Type} {related : α → α → Prop} (reflexive : ∀ item, related item item)
    (item : Option α) : Option.Rel related item item := by
  cases item with
  | none => exact .none
  | some item => exact .some (reflexive item)

theorem optionRel_imp {α β : Type} {related other : α → β → Prop} {first : Option α}
    {second : Option β} (both : Option.Rel related first second)
    (more : ∀ item ∈ first, ∀ otherItem ∈ second, related item otherItem → other item otherItem) :
    Option.Rel other first second := by
  cases both with
  | none => exact .none
  | some holds => exact .some (more _ rfl _ rfl holds)

theorem optionRel_map {α β γ δ : Type} {related : α → β → Prop} {derived : γ → δ → Prop}
    {f : α → γ} {g : β → δ} {first : Option α} {second : Option β}
    (both : Option.Rel related first second)
    (step : ∀ item other, related item other → derived (f item) (g other)) :
    Option.Rel derived (first.map f) (second.map g) := by
  cases both with
  | none => exact .none
  | some holds => exact .some (step _ _ holds)

theorem optionRel_head? {α β : Type} {related : α → β → Prop} {items : List α} {others : List β}
    (each : List.Forall₂ related items others) :
    Option.Rel related items.head? others.head? := by
  cases each with
  | nil => exact .none
  | cons first _ => exact .some first

theorem optionRel_getLast? {α β : Type} {related : α → β → Prop} {items : List α}
    {others : List β} (each : List.Forall₂ related items others) :
    Option.Rel related items.getLast? others.getLast? := by
  rw [List.getLast?_eq_head?_reverse, List.getLast?_eq_head?_reverse]
  exact optionRel_head? (List.forall₂_reverse_iff.2 each)

theorem isEmpty_eq_of_forall₂ {α β : Type} {related : α → β → Prop} {items : List α}
    {others : List β} (each : List.Forall₂ related items others) :
    items.isEmpty = others.isEmpty := by
  cases each <;> rfl

/-- Every item on the right is related to one on the left. -/
theorem exists_of_mem_right {α β : Type} {related : α → β → Prop}
    {left : List α} {right : List β} (each : List.Forall₂ related left right) {item : β}
    (member : item ∈ right) : ∃ other ∈ left, related other item := by
  induction each with
  | nil => cases member
  | cons first rest ih =>
      rcases List.mem_cons.1 member with rfl | later
      · exact ⟨_, List.mem_cons_self, first⟩
      · obtain ⟨other, among, holds⟩ := ih later
        exact ⟨other, List.mem_cons_of_mem _ among, holds⟩

theorem eq_of_optionRel_eq {α : Type} {first second : Option α}
    (both : Option.Rel Eq first second) : first = second := by
  cases both with
  | none => rfl
  | some same => rw [same]

theorem isSome_eq_of_optionRel {α β : Type} {related : α → β → Prop} {first : Option α}
    {second : Option β}
    (both : Option.Rel related first second) : first.isSome = second.isSome := by
  cases both <;> rfl

theorem Particle.sizeOf_inner_lt {particle : ElementParticle} {inside : ComplexType}
    (given : particle.complexType = some inside) : sizeOf inside < sizeOf particle := by
  obtain ⟨name, typeName, simpleType, complexType, ref, minOccurs, maxOccurs, uri⟩ := particle
  obtain rfl : complexType = some inside := given
  simp only [Particle.mk.sizeOf_spec, Option.some.sizeOf_spec]
  omega

theorem ComplexType.sizeOf_inner_lt {type inside : ComplexType} {particle : ElementParticle}
    (member : particle ∈ type.elements) (given : particle.complexType = some inside) :
    sizeOf inside < sizeOf type := by
  refine Nat.lt_trans (Particle.sizeOf_inner_lt given) ?_
  obtain ⟨name, elements, attributes, base, text, uri, source⟩ := type
  have below := List.sizeOf_lt_of_mem member
  simp only [ComplexType.mk.sizeOf_spec] at below ⊢
  omega

/-- Induction over a complex type and the types inside its particles. -/
theorem ComplexType.induction {motive : ComplexType → Prop}
    (step : ∀ type : ComplexType, (∀ particle ∈ type.elements, ∀ inside,
      particle.complexType = some inside → motive inside) → motive type) (type : ComplexType) :
    motive type :=
  step type (fun _ _ inside _ => ComplexType.induction step inside)
termination_by sizeOf type
decreasing_by exact ComplexType.sizeOf_inner_lt ‹_› ‹_›

variable (names : Correspondence)

structure SimpleType.Alike (type other : SimpleType) : Prop where
  name_eq : type.name = other.name
  variety_eq : type.variety = other.variety
  base : Option.Rel names.types type.base other.base
  enumerations_eq : type.enumerations = other.enumerations
  targetNamespace_eq : type.targetNamespace = other.targetNamespace
  source_eq : type.source = other.source

structure AttributeUse.Alike (use other : AttributeUse) : Prop where
  name_eq : use.name = other.name
  typeName : Option.Rel names.types use.typeName other.typeName
  simpleType : Option.Rel (SimpleType.Alike names) use.simpleType other.simpleType
  ref : Option.Rel names.attributes use.ref other.ref
  required_eq : use.required = other.required

structure Particle.AlikeOutside (particle other : ElementParticle) : Prop where
  name_eq : particle.name = other.name
  typeName : Option.Rel names.types particle.typeName other.typeName
  simpleType : Option.Rel (SimpleType.Alike names) particle.simpleType other.simpleType
  ref : Option.Rel names.elements particle.ref other.ref
  minOccurs_eq : particle.minOccurs = other.minOccurs
  maxOccurs_eq : particle.maxOccurs = other.maxOccurs
  targetNamespace_eq : particle.targetNamespace = other.targetNamespace
  holds_eq : particle.complexType.isSome = other.complexType.isSome

structure ComplexType.AlikeOutside (type other : ComplexType) : Prop where
  name_eq : type.name = other.name
  attributes : List.Forall₂ (AttributeUse.Alike names) type.attributes other.attributes
  base : Option.Rel names.types type.base other.base
  text : Option.Rel names.types type.text other.text
  targetNamespace_eq : type.targetNamespace = other.targetNamespace
  source_eq : type.source = other.source

inductive ComplexType.Alike : ComplexType → ComplexType → Prop where
  | intro {type other : ComplexType} (outside : type.AlikeOutside names other)
      (particles : List.Forall₂ (Particle.AlikeOutside names) type.elements other.elements)
      (inner : ∀ pair ∈ type.elements.zip other.elements, ∀ inside otherInside,
        pair.1.complexType = some inside → pair.2.complexType = some otherInside →
          Alike inside otherInside) : Alike type other

structure Particle.Alike (particle other : ElementParticle) : Prop where
  outside : particle.AlikeOutside names other
  complexType : Option.Rel (ComplexType.Alike names) particle.complexType other.complexType

structure GlobalElement.Alike (element other : GlobalElement) : Prop where
  name_eq : element.name = other.name
  typeName : Option.Rel names.types element.typeName other.typeName
  complexType : Option.Rel (ComplexType.Alike names) element.complexType other.complexType
  targetNamespace_eq : element.targetNamespace = other.targetNamespace
  source_eq : element.source = other.source

/-- Schemas that are alike; their bindings of labels may differ. -/
structure Schema.Alike (schema other : Schema) : Prop where
  source_eq : schema.source = other.source
  targetNamespace_eq : schema.targetNamespace = other.targetNamespace
  complexTypes : List.Forall₂ (ComplexType.Alike names) schema.complexTypes other.complexTypes
  simpleTypes : List.Forall₂ (SimpleType.Alike names) schema.simpleTypes other.simpleTypes
  elements : List.Forall₂ (GlobalElement.Alike names) schema.elements other.elements
  directives_eq : schema.directives = other.directives

namespace ComplexType.Alike

variable {names} {type other : ComplexType}

theorem of_elements (outside : type.AlikeOutside names other)
    (elements : List.Forall₂ (Particle.Alike names) type.elements other.elements) :
    type.Alike names other := by
  refine .intro outside (elements.imp fun _ _ alike => alike.outside) ?_
  rintro ⟨particle, otherParticle⟩ member inside otherInside given otherGiven
  have alike := ((List.forall₂_iff_zip.1 elements).2 member).complexType
  rw [show particle.complexType = some inside from given,
    show otherParticle.complexType = some otherInside from otherGiven] at alike
  cases alike with
  | some holds => exact holds

/--
Induction over alike complex types: what holds of the types inside their
particles, place by place, goes over to them.
-/
theorem induction {motive : ComplexType → ComplexType → Prop}
    (step : ∀ {type other : ComplexType}, type.AlikeOutside names other →
      List.Forall₂ (fun particle otherParticle => particle.AlikeOutside names otherParticle ∧
        Option.Rel (fun inside otherInside => inside.Alike names otherInside ∧
          motive inside otherInside) particle.complexType otherParticle.complexType)
        type.elements other.elements → motive type other)
    (alike : type.Alike names other) : motive type other := by
  induction alike with
  | @intro type other outside particles inner ih =>
      refine step outside (List.forall₂_iff_zip.2 ⟨particles.length_eq, ?_⟩)
      intro particle otherParticle member
      have alike := (List.forall₂_iff_zip.1 particles).2 member
      refine ⟨alike, ?_⟩
      have holds := alike.holds_eq
      cases given : particle.complexType with
      | none =>
          rw [given] at holds
          cases otherGiven : otherParticle.complexType with
          | none => exact .none
          | some otherInside =>
              rw [otherGiven] at holds
              cases holds
      | some inside =>
          rw [given] at holds
          cases otherGiven : otherParticle.complexType with
          | none =>
              rw [otherGiven] at holds
              cases holds
          | some otherInside =>
              exact .some ⟨inner _ member inside otherInside given otherGiven,
                ih _ member inside otherInside given otherGiven⟩

theorem outside (alike : type.Alike names other) : type.AlikeOutside names other := by
  cases alike with
  | intro outside particles inner => exact outside

theorem elements (alike : type.Alike names other) :
    List.Forall₂ (Particle.Alike names) type.elements other.elements := by
  refine alike.induction (motive := fun type other =>
    List.Forall₂ (Particle.Alike names) type.elements other.elements) ?_
  intro type other _ elements
  exact elements.imp fun _ _ alike => ⟨alike.1, optionRel_imp alike.2 fun _ _ _ _ both => both.1⟩

end ComplexType.Alike

section Reflexive

variable {names} (reflexive : names.IsReflexive)
include reflexive

theorem SimpleType.Alike.refl (type : SimpleType) : type.Alike names type :=
  ⟨rfl, rfl, optionRel_refl reflexive.types _, rfl, rfl, rfl⟩

theorem AttributeUse.Alike.refl (use : AttributeUse) : use.Alike names use :=
  ⟨rfl, optionRel_refl reflexive.types _, optionRel_refl (SimpleType.Alike.refl reflexive) _,
    optionRel_refl reflexive.attributes _, rfl⟩

theorem Particle.AlikeOutside.refl (particle : ElementParticle) :
    particle.AlikeOutside names particle :=
  ⟨rfl, optionRel_refl reflexive.types _, optionRel_refl (SimpleType.Alike.refl reflexive) _,
    optionRel_refl reflexive.elements _, rfl, rfl, rfl, rfl⟩

theorem ComplexType.Alike.refl (type : ComplexType) : type.Alike names type := by
  induction type using ComplexType.induction with
  | step type ih =>
      refine .of_elements ⟨rfl, List.forall₂_same.2 fun use _ => .refl reflexive use,
        optionRel_refl reflexive.types _, optionRel_refl reflexive.types _, rfl, rfl⟩ ?_
      refine List.forall₂_same.2 ?_
      intro particle member
      refine ⟨.refl reflexive particle, ?_⟩
      cases given : particle.complexType with
      | none => exact .none
      | some inside => exact .some (ih particle member inside given)

theorem GlobalElement.Alike.refl (element : GlobalElement) : element.Alike names element :=
  ⟨rfl, optionRel_refl reflexive.types _, optionRel_refl (ComplexType.Alike.refl reflexive) _,
    rfl, rfl⟩

theorem Schema.Alike.refl (schema : Schema) : schema.Alike names schema :=
  ⟨rfl, rfl, List.forall₂_same.2 fun type _ => .refl reflexive type,
    List.forall₂_same.2 fun type _ => .refl reflexive type,
    List.forall₂_same.2 fun element _ => .refl reflexive element, rfl⟩

end Reflexive

section Equality

abbrev Correspondence.equality : Correspondence := .ofRelation Eq

theorem SimpleType.Alike.eq {type other : SimpleType}
    (alike : type.Alike .equality other) : type = other := by
  obtain ⟨name, variety, base, enumerations, uri, source⟩ := alike
  have base := eq_of_optionRel_eq base
  cases type
  cases other
  congr

theorem AttributeUse.Alike.eq {use other : AttributeUse}
    (alike : use.Alike .equality other) : use = other := by
  obtain ⟨name, typeName, simpleType, ref, required⟩ := alike
  have typeName := eq_of_optionRel_eq typeName
  have simpleType := eq_of_optionRel_eq (optionRel_imp simpleType fun _ _ _ _ alike => alike.eq)
  have ref := eq_of_optionRel_eq ref
  cases use
  cases other
  congr

theorem Particle.AlikeOutside.eq {particle other : ElementParticle}
    (alike : particle.AlikeOutside .equality other)
    (inner : particle.complexType = other.complexType) : particle = other := by
  obtain ⟨name, typeName, simpleType, ref, minOccurs, maxOccurs, uri, _⟩ := alike
  have typeName := eq_of_optionRel_eq typeName
  have simpleType := eq_of_optionRel_eq (optionRel_imp simpleType fun _ _ _ _ alike => alike.eq)
  have ref := eq_of_optionRel_eq ref
  cases particle
  cases other
  congr

theorem ComplexType.Alike.eq {type other : ComplexType}
    (alike : type.Alike .equality other) : type = other := by
  refine alike.induction (motive := Eq) ?_
  intro type other outside elements
  have elements : type.elements = other.elements := by
    refine List.forall₂_eq_eq_eq ▸ elements.imp ?_
    intro particle otherParticle ⟨outside, inner⟩
    exact Particle.AlikeOutside.eq outside
      (eq_of_optionRel_eq (optionRel_imp inner fun _ _ _ _ both => both.2))
  obtain ⟨name, attributes, base, text, uri, source⟩ := outside
  have attributes : type.attributes = other.attributes :=
    List.forall₂_eq_eq_eq ▸ attributes.imp fun _ _ alike => alike.eq
  have base := eq_of_optionRel_eq base
  have text := eq_of_optionRel_eq text
  cases type
  cases other
  congr

theorem GlobalElement.Alike.eq {element other : GlobalElement}
    (alike : element.Alike .equality other) : element = other := by
  obtain ⟨name, typeName, complexType, uri, source⟩ := alike
  have typeName := eq_of_optionRel_eq typeName
  have complexType := eq_of_optionRel_eq (optionRel_imp complexType fun _ _ _ _ alike => alike.eq)
  cases element
  cases other
  congr

/-- Schemas that are alike with equal names are equal but for their bindings of labels. -/
theorem Schema.Alike.eq {schema other : Schema} (alike : schema.Alike .equality other) :
    other = { schema with namespaces := other.namespaces } := by
  obtain ⟨source, uri, complexTypes, simpleTypes, elements, directives⟩ := alike
  have complexTypes : schema.complexTypes = other.complexTypes :=
    List.forall₂_eq_eq_eq ▸ complexTypes.imp fun _ _ alike => alike.eq
  have simpleTypes : schema.simpleTypes = other.simpleTypes :=
    List.forall₂_eq_eq_eq ▸ simpleTypes.imp fun _ _ alike => alike.eq
  have elements : schema.elements = other.elements :=
    List.forall₂_eq_eq_eq ▸ elements.imp fun _ _ alike => alike.eq
  cases schema
  cases other
  congr
  · exact source.symm
  · exact uri.symm
  · exact complexTypes.symm
  · exact simpleTypes.symm
  · exact elements.symm
  · exact directives.symm

end Equality

section Mentioned

mutual

/-- A complex type with all types inside its particles. -/
def ComplexType.within : ComplexType → List ComplexType
  | ⟨name, elements, attributes, base, text, uri, source⟩ =>
      ⟨name, elements, attributes, base, text, uri, source⟩ :: withinAll elements

def withinAll : List ElementParticle → List ComplexType
  | [] => []
  | ⟨_, _, _, none, _, _, _, _⟩ :: rest => withinAll rest
  | ⟨_, _, _, some inner, _, _, _, _⟩ :: rest => inner.within ++ withinAll rest

end

def AttributeUse.typeNames (use : AttributeUse) : List QName :=
  use.typeName.toList ++ (use.simpleType.bind SimpleType.base).toList

/-- The names of types in a particle, without those in a complex type inside it. -/
def Particle.typeNames (particle : ElementParticle) : List QName :=
  particle.typeName.toList ++ (particle.simpleType.bind SimpleType.base).toList

def ComplexType.typeNames (type : ComplexType) : List QName :=
  type.base.toList ++ type.text.toList ++ type.attributes.flatMap AttributeUse.typeNames ++
    type.elements.flatMap Particle.typeNames

def ComplexType.elementRefs (type : ComplexType) : List QName :=
  type.elements.flatMap (·.ref.toList)

def ComplexType.attributeRefs (type : ComplexType) : List QName :=
  type.attributes.flatMap (·.ref.toList)

namespace Schema

/-- All complex types of a schema, those inside elements included. -/
def allComplexTypes (schema : Schema) : List ComplexType :=
  (schema.complexTypes ++ schema.elements.flatMap (·.complexType.toList)).flatMap ComplexType.within

def typeNames (schema : Schema) : List QName :=
  schema.allComplexTypes.flatMap ComplexType.typeNames ++
    schema.simpleTypes.flatMap (·.base.toList) ++ schema.elements.flatMap (·.typeName.toList)

def elementRefs (schema : Schema) : List QName :=
  schema.allComplexTypes.flatMap ComplexType.elementRefs

def attributeRefs (schema : Schema) : List QName :=
  schema.allComplexTypes.flatMap ComplexType.attributeRefs

def references (schema : Schema) : List QName :=
  schema.typeNames ++ schema.elementRefs ++ schema.attributeRefs

end Schema

theorem ComplexType.mem_within (type : ComplexType) : type ∈ type.within := by
  obtain ⟨name, elements, attributes, base, text, uri, source⟩ := type
  rw [ComplexType.within]
  exact List.mem_cons_self

theorem ComplexType.within_subset {type inside : ComplexType} {particle : ElementParticle}
    (member : particle ∈ type.elements) (given : particle.complexType = some inside) :
    inside.within ⊆ type.within := by
  obtain ⟨name, elements, attributes, base, text, uri, source⟩ := type
  rw [ComplexType.within]
  refine List.subset_cons_of_subset _ ?_
  change particle ∈ elements at member
  induction elements with
  | nil => cases member
  | cons first rest ih =>
      obtain ⟨name, typeName, simpleType, complexType, ref, minOccurs, maxOccurs, uri⟩ := first
      rcases List.mem_cons.1 member with rfl | later
      · obtain rfl : complexType = some inside := given
        rw [withinAll]
        exact List.subset_append_left _ _
      · cases complexType with
        | none =>
            rw [withinAll]
            exact ih later
        | some other =>
            rw [withinAll]
            exact List.subset_append_of_subset_right _ (ih later)

theorem subset_flatMap {α β : Type} {f : α → List β} {items : List α} {item : α}
    (member : item ∈ items) : f item ⊆ items.flatMap f :=
  fun _ inside => List.mem_flatMap.2 ⟨item, member, inside⟩

theorem flatMap_subset_flatMap {α β : Type} {f : α → List β} {items others : List α}
    (inside : items ⊆ others) : items.flatMap f ⊆ others.flatMap f := by
  intro part member
  obtain ⟨item, among, holds⟩ := List.mem_flatMap.1 member
  exact List.mem_flatMap.2 ⟨item, inside among, holds⟩

/-- For names of the given lists, one correspondence follows from another one. -/
def Follows (related more : QName → QName → Prop) (items others : List QName) : Prop :=
  ∀ item ∈ items, ∀ other ∈ others, related item other → more item other

namespace Follows

variable {related more : QName → QName → Prop} {items others : List QName}

theorem of_subset (follows : Follows related more items others) {fewer fewerOthers : List QName}
    (inside : fewer ⊆ items) (otherInside : fewerOthers ⊆ others) :
    Follows related more fewer fewerOthers :=
  fun item member other otherMember =>
    follows item (inside member) other (otherInside otherMember)

theorem optionRel {first second : Option QName}
    (follows : Follows related more first.toList second.toList)
    (both : Option.Rel related first second) : Option.Rel more first second := by
  cases both with
  | none => exact .none
  | some holds =>
      exact .some (follows _ (List.mem_singleton_self _) _ (List.mem_singleton_self _) holds)

end Follows

variable {names more : Correspondence}

theorem SimpleType.Alike.imp {type other : SimpleType} (alike : type.Alike names other)
    (types : Follows names.types more.types type.base.toList other.base.toList) :
    type.Alike more other :=
  { alike with base := types.optionRel alike.base }

/-- The bases of simple types are names of types. -/
theorem optionRel_simpleType_imp {first second : Option SimpleType}
    (types : Follows names.types more.types (first.bind SimpleType.base).toList
      (second.bind SimpleType.base).toList)
    (both : Option.Rel (SimpleType.Alike names) first second) :
    Option.Rel (SimpleType.Alike more) first second := by
  cases both with
  | none => exact .none
  | some alike => exact .some (alike.imp types)

theorem AttributeUse.Alike.imp {use other : AttributeUse} (alike : use.Alike names other)
    (types : Follows names.types more.types use.typeNames other.typeNames)
    (attributes : Follows names.attributes more.attributes use.ref.toList other.ref.toList) :
    use.Alike more other :=
  { alike with
    typeName := (types.of_subset (List.subset_append_left _ _)
      (List.subset_append_left _ _)).optionRel alike.typeName
    simpleType := optionRel_simpleType_imp (types.of_subset (List.subset_append_right _ _)
      (List.subset_append_right _ _)) alike.simpleType
    ref := attributes.optionRel alike.ref }

theorem Particle.AlikeOutside.imp {particle other : ElementParticle}
    (alike : particle.AlikeOutside names other)
    (types : Follows names.types more.types particle.typeNames other.typeNames)
    (elements : Follows names.elements more.elements particle.ref.toList other.ref.toList) :
    particle.AlikeOutside more other :=
  { alike with
    typeName := (types.of_subset (List.subset_append_left _ _)
      (List.subset_append_left _ _)).optionRel alike.typeName
    simpleType := optionRel_simpleType_imp (types.of_subset (List.subset_append_right _ _)
      (List.subset_append_right _ _)) alike.simpleType
    ref := elements.optionRel alike.ref }

/-- A relation between the items of two lists, with their membership. -/
theorem forall₂_of_mem {α β : Type} {related : α → β → Prop} {items : List α} {others : List β}
    (each : List.Forall₂ related items others) :
    List.Forall₂ (fun item other => item ∈ items ∧ other ∈ others ∧ related item other)
      items others := by
  rw [List.forall₂_iff_zip] at each ⊢
  refine ⟨each.1, fun member => ?_⟩
  exact ⟨(List.of_mem_zip member).1, (List.of_mem_zip member).2, each.2 member⟩

structure Correspondence.FollowsIn (names more : Correspondence)
    (first second : List ComplexType) : Prop where
  types : Follows names.types more.types (first.flatMap ComplexType.typeNames)
    (second.flatMap ComplexType.typeNames)
  elements : Follows names.elements more.elements (first.flatMap ComplexType.elementRefs)
    (second.flatMap ComplexType.elementRefs)
  attributes : Follows names.attributes more.attributes
    (first.flatMap ComplexType.attributeRefs) (second.flatMap ComplexType.attributeRefs)

theorem Correspondence.FollowsIn.of_subset {first second fewer fewerOthers : List ComplexType}
    (follows : names.FollowsIn more first second) (inside : fewer ⊆ first)
    (otherInside : fewerOthers ⊆ second) : names.FollowsIn more fewer fewerOthers where
  types := follows.types.of_subset (flatMap_subset_flatMap inside)
    (flatMap_subset_flatMap otherInside)
  elements := follows.elements.of_subset (flatMap_subset_flatMap inside)
    (flatMap_subset_flatMap otherInside)
  attributes := follows.attributes.of_subset (flatMap_subset_flatMap inside)
    (flatMap_subset_flatMap otherInside)

theorem ComplexType.AlikeOutside.imp {type other : ComplexType}
    (alike : type.AlikeOutside names other)
    (types : Follows names.types more.types type.typeNames other.typeNames)
    (attributes : Follows names.attributes more.attributes type.attributeRefs
      other.attributeRefs) : type.AlikeOutside more other := by
  have own := types.of_subset (List.subset_append_left _ _) (List.subset_append_left _ _)
  have bases := own.of_subset (List.subset_append_left _ _) (List.subset_append_left _ _)
  refine ⟨alike.name_eq, ?_, ?_, ?_, alike.targetNamespace_eq, alike.source_eq⟩
  · refine (forall₂_of_mem alike.attributes).imp ?_
    rintro use otherUse ⟨member, otherMember, same⟩
    refine same.imp (own.of_subset ?_ ?_) (attributes.of_subset ?_ ?_)
    · exact List.subset_append_of_subset_right _ (subset_flatMap member)
    · exact List.subset_append_of_subset_right _ (subset_flatMap otherMember)
    · exact subset_flatMap (f := fun use : AttributeUse => use.ref.toList) member
    · exact subset_flatMap (f := fun use : AttributeUse => use.ref.toList) otherMember
  · exact (bases.of_subset (List.subset_append_left _ _)
      (List.subset_append_left _ _)).optionRel alike.base
  · exact (bases.of_subset (List.subset_append_right _ _)
      (List.subset_append_right _ _)).optionRel alike.text

theorem ComplexType.Alike.imp {type other : ComplexType} (alike : type.Alike names other)
    (follows : names.FollowsIn more type.within other.within) : type.Alike more other := by
  revert follows
  refine alike.induction (motive := fun type other =>
    names.FollowsIn more type.within other.within → type.Alike more other) ?_
  intro type other outside particles follows
  have own : names.FollowsIn more [type] [other] :=
    follows.of_subset (List.cons_subset.2 ⟨type.mem_within, List.nil_subset _⟩)
      (List.cons_subset.2 ⟨other.mem_within, List.nil_subset _⟩)
  have types : Follows names.types more.types type.typeNames other.typeNames := by
    simpa using own.types
  have elements : Follows names.elements more.elements type.elementRefs other.elementRefs := by
    simpa using own.elements
  refine .of_elements (outside.imp types (by simpa using own.attributes)) ?_
  refine (forall₂_of_mem particles).imp ?_
  rintro particle otherParticle ⟨member, otherMember, alike, inner⟩
  constructor
  · refine alike.imp (types.of_subset ?_ ?_) (elements.of_subset ?_ ?_)
    · exact List.subset_append_of_subset_right _ (subset_flatMap member)
    · exact List.subset_append_of_subset_right _ (subset_flatMap otherMember)
    · exact subset_flatMap (f := fun particle : ElementParticle => particle.ref.toList) member
    · exact subset_flatMap (f := fun particle : ElementParticle => particle.ref.toList) otherMember
  · refine optionRel_imp inner ?_
    rintro inside given otherInside otherGiven ⟨_, more⟩
    exact more (follows.of_subset (ComplexType.within_subset member given)
      (ComplexType.within_subset otherMember otherGiven))

/--
A correspondence may be exchanged for another one that follows from it for all
names that two schemas refer to.
-/
theorem Schema.Alike.imp {schema other : Schema} (alike : schema.Alike names other)
    (types : Follows names.types more.types schema.typeNames other.typeNames)
    (elements : Follows names.elements more.elements schema.elementRefs other.elementRefs)
    (attributes : Follows names.attributes more.attributes schema.attributeRefs
      other.attributeRefs) : schema.Alike more other := by
  have outer := types.of_subset (List.subset_append_left _ _) (List.subset_append_left _ _)
  have follows : names.FollowsIn more schema.allComplexTypes other.allComplexTypes :=
    ⟨outer.of_subset (List.subset_append_left _ _) (List.subset_append_left _ _),
      elements, attributes⟩
  refine ⟨alike.source_eq, alike.targetNamespace_eq, ?_, ?_, ?_, alike.directives_eq⟩
  · refine (forall₂_of_mem alike.complexTypes).imp ?_
    rintro type otherType ⟨member, otherMember, same⟩
    exact same.imp (follows.of_subset (subset_flatMap (List.mem_append_left _ member))
      (subset_flatMap (List.mem_append_left _ otherMember)))
  · refine (forall₂_of_mem alike.simpleTypes).imp ?_
    rintro type otherType ⟨member, otherMember, same⟩
    refine same.imp (outer.of_subset ?_ ?_)
    · exact List.subset_append_of_subset_right _
        (subset_flatMap (f := fun type : SimpleType => type.base.toList) member)
    · exact List.subset_append_of_subset_right _
        (subset_flatMap (f := fun type : SimpleType => type.base.toList) otherMember)
  · refine (forall₂_of_mem alike.elements).imp ?_
    rintro element otherElement ⟨member, otherMember, same⟩
    refine { same with typeName := ?_, complexType := ?_ }
    · refine (types.of_subset ?_ ?_).optionRel same.typeName
      · exact List.subset_append_of_subset_right _
          (subset_flatMap (f := fun element : GlobalElement => element.typeName.toList) member)
      · exact List.subset_append_of_subset_right _
          (subset_flatMap (f := fun element : GlobalElement => element.typeName.toList) otherMember)
    · refine optionRel_imp same.complexType ?_
      intro type given otherType otherGiven same
      refine same.imp (follows.of_subset (subset_flatMap ?_) (subset_flatMap ?_))
      · exact List.mem_append_right _
          (List.mem_flatMap.2 ⟨element, member, Option.mem_toList.2 given⟩)
      · exact List.mem_append_right _
          (List.mem_flatMap.2 ⟨otherElement, otherMember, Option.mem_toList.2 otherGiven⟩)

end Mentioned

end SchemaBinding
