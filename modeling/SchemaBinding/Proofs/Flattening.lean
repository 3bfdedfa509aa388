import Mathlib.Data.List.Forall2
import SchemaBinding.Proofs.Assurance
import SchemaBinding.Proofs.Correspondence
import SchemaBinding.Proofs.Visits

/-!
# Flattening

Reading a complex type takes the particles of its model groups and its attributes
in document order, each once, however deep the groups are nested.  What stands below
a particle belongs to the type inside the particle.  Putting children of a group
into another group inside it changes nothing.
-/

namespace SchemaBinding.Schema

open Xml

variable (context : Context)

/-- The particle that an element declares, with the last complex type inside it. -/
def readParticle (element : Element) : Run ElementParticle := do
  let minOccurs ← Run.ofExcept (minOccursOf context element)
  let types ← readInlineTypes context element.children
  return { particleOf context element minOccurs with complexType := types.getLast? }

def readVisit (type : ComplexType) (visit : Visit) : Run ComplexType :=
  match visit.role with
  | .particle => do
      let particle ← readParticle context visit.element
      return { type with elements := type.elements ++ [particle] }
  | .attributeUse => do
      let uses ← readAttributeUse context visit.element
      return { type with attributes := type.attributes ++ uses }
  | .base => return { type with base := context.reference? (visit.element.attribute? "base") }
  | .text => return { type with text := context.reference? (visit.element.attribute? "base") }

/-- Reading the visited elements does not depend on where they stand. -/
theorem foldlM_below (index : Nat) (found : List Visit) (type : ComplexType) :
    (found.map (Visit.below index)).foldlM (readVisit context) type =
      found.foldlM (readVisit context) type :=
  List.foldlM_map

/-- The particles of a group are read one after the other. -/
theorem foldlM_visits_group (index : Nat) (type : ComplexType) (elements : List Element) :
    (visits .group index elements).foldlM (readVisit context) type = do
      let particles ← readGroup context elements
      return { type with elements := type.elements ++ particles } := by
  cases elements with
  | nil =>
      rw [visits, readGroup, List.foldlM_nil, pure_bind, List.append_nil]
      cases type
      rfl
  | cons element rest =>
      obtain ⟨name, attributes, children⟩ := element
      have inside := fun type => foldlM_visits_group 0 type children
      have later := fun type => foldlM_visits_group (index + 1) type rest
      rw [visits, readGroup, List.foldlM_append, List.foldlM_append]
      cases Construct.ofName name <;>
        simp [Position.role?, Position.enter?, readVisit, readParticle, later, foldlM_below, inside]

mutual

theorem readContent_eq_foldlM (index : Nat) (type : ComplexType) (elements : List Element) :
    readContent context type elements =
      (visits .content index elements).foldlM (readVisit context) type := by
  match elements with
  | [] =>
      rw [visits, readContent, List.foldlM_nil]
  | ⟨name, attributes, children⟩ :: rest =>
      have complex := fun type => readComplexContent_eq_foldlM 0 type children
      have simple := fun type => readSimpleContent_eq_foldlM 0 type children
      have later := fun type => readContent_eq_foldlM (index + 1) type rest
      rw [visits, readContent, List.foldlM_append, List.foldlM_append]
      cases Construct.ofName name <;>
        simp [Position.role?, Position.enter?, readVisit, foldlM_below, foldlM_visits_group, later,
          complex, simple]

theorem readComplexContent_eq_foldlM (index : Nat) (type : ComplexType)
    (elements : List Element) :
    readComplexContent context type elements =
      (visits .complexContent index elements).foldlM (readVisit context) type := by
  match elements with
  | [] =>
      rw [visits, readComplexContent, List.foldlM_nil]
  | ⟨name, attributes, children⟩ :: rest =>
      have inside := fun type => readContent_eq_foldlM 0 type children
      have later := fun type => readComplexContent_eq_foldlM (index + 1) type rest
      rw [visits, readComplexContent, List.foldlM_append, List.foldlM_append]
      cases Construct.ofName name <;>
        simp [Position.role?, Position.enter?, readVisit, foldlM_below, later, inside,
          Element.attribute?]

theorem readSimpleContent_eq_foldlM (index : Nat) (type : ComplexType)
    (elements : List Element) :
    readSimpleContent context type elements =
      (visits .simpleContent index elements).foldlM (readVisit context) type := by
  match elements with
  | [] =>
      rw [visits, readSimpleContent, List.foldlM_nil]
  | ⟨name, attributes, children⟩ :: rest =>
      have inside := fun type => readContent_eq_foldlM 0 type children
      have later := fun type => readSimpleContent_eq_foldlM (index + 1) type rest
      rw [visits, readSimpleContent, List.foldlM_append, List.foldlM_append]
      cases Construct.ofName name <;>
        simp [Position.role?, Position.enter?, readVisit, foldlM_below, later, inside,
          Element.attribute?]

end

theorem readInlineTypes_eq_mapM (elements : List Element) :
    readInlineTypes context elements =
      (elements.filter (fun child => Construct.ofName child.name = .complexType)).mapM
        (fun child => readContent context (emptyType context "") child.children) := by
  induction elements with
  | nil =>
      rw [readInlineTypes]
      rfl
  | cons element rest ih =>
      obtain ⟨name, attributes, children⟩ := element
      rw [readInlineTypes, ih]
      by_cases written : Construct.ofName name = .complexType
      · rw [List.filter_cons_of_pos (by simpa using written), written]
        simp
      · rw [List.filter_cons_of_neg (by simpa using written)]
        cases construct : Construct.ofName name <;> simp_all

section Places

def lastComplexType? (element : Element) : Option Element :=
  (element.children.filter (fun child => Construct.ofName child.name = .complexType)).getLast?

/-- The elements with a property, each once and in document order. -/
structure Lists (found : Address → Element → Prop) (entries : List (Address × Element)) :
    Prop where
  ordered : entries.Pairwise (fun one other => one.1 < other.1)
  complete : ∀ address element, (address, element) ∈ entries ↔ found address element

/-- A particle is read from an element, with the last complex type that is written inside it. -/
structure IsParticleOf (element : Element) (particle : ElementParticle) : Prop where
  minOccurs : minOccursOf context element = .ok particle.minOccurs
  outside : { particle with complexType := none } = particleOf context element particle.minOccurs
  inside : Option.Rel
    (fun child type =>
      (readContent context (emptyType context "") child.children).outcome = .ok type)
    (lastComplexType? element) particle.complexType

/-- An element that can be read as a particle, with all complex types that are inside it. -/
structure IsReadable (element : Element) : Prop where
  minOccurs : ∃ count, minOccursOf context element = .ok count
  inside : ∀ child ∈ element.children, Construct.ofName child.name = .complexType →
    ∃ type, (readContent context (emptyType context "") child.children).outcome = .ok type

/-- A complex type has the particles and the attributes of its declaration, in their order. -/
structure IsFlattening (node : Element) (type : ComplexType) : Prop where
  elements : ∃ entries, Lists (ParticleAt node) entries ∧
    List.Forall₂ (fun entry => IsParticleOf context entry.2) entries type.elements
  attributes : ∃ entries,
    Lists (fun address element =>
      AttributeAt node address element ∧ element.attribute? "use" ≠ some "prohibited") entries ∧
    type.attributes = entries.map (fun entry => attributeUseOf context entry.2)

/-- What is visited in a role, with its addresses, where it is to be kept. -/
def entriesOf (role : Role) (kept : Element → Bool) (found : List Visit) :
    List (Address × Element) :=
  (found.filter (fun visit => visit.role = role && kept visit.element)).map
    (fun visit => (visit.address, visit.element))

theorem lists_entriesOf (node : Element) {role : Role} {found : Address → Element → Prop}
    (visited : ∀ address element,
      VisitedAt .content node.children address role element ↔ found address element)
    (kept : Element → Bool) :
    Lists (fun address element => found address element ∧ kept element = true)
      (entriesOf role kept (visits .content 0 node.children)) where
  ordered := by
    refine List.pairwise_map.2 (List.Pairwise.filter _ ?_)
    exact pairwise_visits .content 0 node.children
  complete address element := by
    rw [entriesOf, List.mem_map, ← visited]
    constructor
    · rintro ⟨⟨place, given, item⟩, member, same⟩
      cases same
      obtain ⟨among, taken⟩ := List.mem_filter.1 member
      obtain ⟨rfl, keeps⟩ : given = role ∧ kept item = true := by simpa using taken
      exact ⟨mem_visits_zero_iff.1 among, keeps⟩
    · rintro ⟨leads, keeps⟩
      refine ⟨⟨address, role, element⟩, List.mem_filter.2 ⟨?_, by simp [keeps]⟩, rfl⟩
      exact mem_visits_zero_iff.2 leads

end Places

section Particles

variable {context} {element : Element}

/-- Partners for all items are found one by one. -/
theorem exists_forall₂_iff {α β : Type} {related : α → β → Prop} {items : List α} :
    (∃ values, List.Forall₂ related items values) ↔
      ∀ item ∈ items, ∃ value, related item value := by
  induction items with
  | nil => exact iff_of_true ⟨[], .nil⟩ (by simp)
  | cons item rest ih =>
      rw [List.forall_mem_cons, ← ih]
      constructor
      · rintro ⟨_, each⟩
        cases each with
        | cons here after => exact ⟨⟨_, here⟩, ⟨_, after⟩⟩
      · rintro ⟨⟨value, here⟩, ⟨values, after⟩⟩
        exact ⟨value :: values, .cons here after⟩

theorem outcome_mapM_eq_ok {α β : Type} {read : α → Run β} {items : List α} {values : List β} :
    (items.mapM read).outcome = .ok values ↔
      List.Forall₂ (fun item value => (read item).outcome = .ok value) items values := by
  induction items generalizing values with
  | nil =>
      rw [List.mapM_nil, List.forall₂_nil_left_iff]
      exact ⟨fun same => (Except.ok.inj same).symm, fun same => congrArg Except.ok same.symm⟩
  | cons item rest ih =>
      rw [List.mapM_cons, Run.outcome_bind_eq_ok, List.forall₂_cons_left_iff]
      refine exists_congr fun value => ?_
      constructor
      · rintro ⟨here, later⟩
        obtain ⟨others, after, same⟩ := Run.outcome_bind_eq_ok.1 later
        exact ⟨others, here, ih.1 after, (Except.ok.inj same).symm⟩
      · rintro ⟨others, here, after, rfl⟩
        exact ⟨here, Run.outcome_bind_eq_ok.2 ⟨others, ih.2 after, rfl⟩⟩

theorem outcome_readInlineTypes_eq_ok {elements : List Element} {types : List ComplexType} :
    (readInlineTypes context elements).outcome = .ok types ↔
      List.Forall₂
        (fun child type =>
          (readContent context (emptyType context "") child.children).outcome = .ok type)
        (elements.filter (fun child => Construct.ofName child.name = .complexType)) types := by
  rw [readInlineTypes_eq_mapM, outcome_mapM_eq_ok]

theorem isParticleOf_of_readParticle {particle : ElementParticle}
    (read : (readParticle context element).outcome = .ok particle) :
    IsParticleOf context element particle := by
  obtain ⟨minOccurs, count, read⟩ := Run.outcome_bind_eq_ok.1 read
  obtain ⟨types, inside, same⟩ := Run.outcome_bind_eq_ok.1 read
  obtain rfl := Except.ok.inj same
  exact ⟨count, rfl, optionRel_getLast? (outcome_readInlineTypes_eq_ok.1 inside)⟩

theorem exists_readParticle_iff :
    (∃ particle, (readParticle context element).outcome = .ok particle) ↔
      IsReadable context element := by
  have inside_iff : (∃ types, (readInlineTypes context element.children).outcome = .ok types) ↔
      ∀ child ∈ element.children, Construct.ofName child.name = .complexType →
        ∃ type, (readContent context (emptyType context "") child.children).outcome = .ok type := by
    simp only [outcome_readInlineTypes_eq_ok]
    rw [exists_forall₂_iff]
    simp
  constructor
  · rintro ⟨particle, read⟩
    obtain ⟨minOccurs, count, read⟩ := Run.outcome_bind_eq_ok.1 read
    obtain ⟨types, inside, _⟩ := Run.outcome_bind_eq_ok.1 read
    exact ⟨⟨minOccurs, count⟩, inside_iff.1 ⟨types, inside⟩⟩
  · rintro ⟨⟨minOccurs, count⟩, inside⟩
    obtain ⟨types, read⟩ := inside_iff.2 inside
    exact ⟨_, Run.outcome_bind_eq_ok.2 ⟨minOccurs, count,
      Run.outcome_bind_eq_ok.2 ⟨types, read, rfl⟩⟩⟩

def isUsed (element : Element) : Bool :=
  element.attribute? "use" ≠ some "prohibited"

/-- One type has the particles and attributes that were visited more than another one. -/
structure Adds (context : Context) (found : List Visit) (type result : ComplexType) : Prop where
  elements : ∃ particles,
    List.Forall₂ (fun entry => IsParticleOf context entry.2)
      (entriesOf .particle (fun _ => true) found) particles ∧
    result.elements = type.elements ++ particles
  attributes : result.attributes = type.attributes ++
    (entriesOf .attributeUse isUsed found).map (fun entry => attributeUseOf context entry.2)

theorem Adds.trans {first second : List Visit} {type middle result : ComplexType}
    (one : Adds context first type middle) (other : Adds context second middle result) :
    Adds context (first ++ second) type result := by
  have split (role : Role) (kept : Element → Bool) :
      entriesOf role kept (first ++ second) =
        entriesOf role kept first ++ entriesOf role kept second := by
    simp [entriesOf]
  obtain ⟨particles, each, added⟩ := one.elements
  obtain ⟨others, eachOther, addedLater⟩ := other.elements
  constructor
  · rw [split]
    exact ⟨particles ++ others, List.rel_append each eachOther, by
      rw [addedLater, added, List.append_assoc]⟩
  · rw [split, List.map_append, other.attributes, one.attributes, List.append_assoc]

theorem adds_of_readVisit {visit : Visit} {type result : ComplexType}
    (read : (readVisit context type visit).outcome = .ok result) :
    Adds context [visit] type result := by
  obtain ⟨address, role, element⟩ := visit
  cases role with
  | particle =>
      obtain ⟨particle, given, same⟩ := Run.outcome_bind_eq_ok.1 read
      obtain rfl := Except.ok.inj same
      refine ⟨⟨[particle], ?_, rfl⟩, by simp [entriesOf]⟩
      exact .cons (isParticleOf_of_readParticle given) .nil
  | attributeUse =>
      obtain ⟨uses, given, same⟩ := Run.outcome_bind_eq_ok.1 read
      obtain rfl := Except.ok.inj same
      refine ⟨⟨[], by simp [entriesOf], by simp⟩, ?_⟩
      unfold readAttributeUse at given
      split at given
      · next prohibited =>
          obtain ⟨_, _, same⟩ := Run.outcome_bind_eq_ok.1 given
          obtain rfl := Except.ok.inj same
          simp [entriesOf, isUsed, prohibited]
      · next used =>
          obtain rfl := Except.ok.inj given
          simp [entriesOf, isUsed, used]
  | base =>
      obtain rfl := Except.ok.inj read
      exact ⟨⟨[], by simp [entriesOf], by simp⟩, by simp [entriesOf]⟩
  | text =>
      obtain rfl := Except.ok.inj read
      exact ⟨⟨[], by simp [entriesOf], by simp⟩, by simp [entriesOf]⟩

/-- What is visited one after the other adds its particles and attributes in this order. -/
theorem adds_of_foldlM {found : List Visit} {type result : ComplexType}
    (read : (found.foldlM (readVisit context) type).outcome = .ok result) :
    Adds context found type result := by
  refine Run.relates_of_foldlM (Adds context)
    (fun type => ⟨⟨[], .nil, by simp⟩, by simp [entriesOf]⟩) ?_ read
  intro visit rest type middle result here later
  exact (adds_of_readVisit here).trans later

theorem exists_readVisit_iff {visit : Visit} (type : ComplexType) :
    (∃ result, (readVisit context type visit).outcome = .ok result) ↔
      (visit.role = .particle → IsReadable context visit.element) := by
  obtain ⟨address, role, element⟩ := visit
  cases role with
  | particle =>
      rw [← exists_readParticle_iff]
      constructor
      · rintro ⟨result, read⟩ _
        obtain ⟨particle, given, _⟩ := Run.outcome_bind_eq_ok.1 read
        exact ⟨particle, given⟩
      · intro readable
        obtain ⟨particle, given⟩ := readable rfl
        exact ⟨_, Run.outcome_bind_eq_ok.2 ⟨particle, given, rfl⟩⟩
  | attributeUse =>
      refine iff_of_true ?_ (fun same => by cases same)
      have uses : ∃ uses, (readAttributeUse context element).outcome = .ok uses := by
        unfold readAttributeUse
        split
        · exact ⟨_, rfl⟩
        · exact ⟨_, rfl⟩
      obtain ⟨uses, given⟩ := uses
      exact ⟨_, Run.outcome_bind_eq_ok.2 ⟨uses, given, rfl⟩⟩
  | base => exact iff_of_true ⟨_, rfl⟩ (fun same => by cases same)
  | text => exact iff_of_true ⟨_, rfl⟩ (fun same => by cases same)

/-- Reading succeeds if each of the particles can be read, whatever is read before it. -/
theorem exists_foldlM_iff {found : List Visit} (type : ComplexType) :
    (∃ result, (found.foldlM (readVisit context) type).outcome = .ok result) ↔
      ∀ visit ∈ found, visit.role = .particle → IsReadable context visit.element := by
  induction found generalizing type with
  | nil => exact iff_of_true ⟨type, rfl⟩ (by simp)
  | cons visit rest ih =>
      rw [List.forall_mem_cons, List.foldlM_cons, ← exists_readVisit_iff type]
      constructor
      · rintro ⟨result, read⟩
        obtain ⟨middle, here, later⟩ := Run.outcome_bind_eq_ok.1 read
        exact ⟨⟨middle, here⟩, (ih middle).1 ⟨result, later⟩⟩
      · rintro ⟨⟨middle, here⟩, readable⟩
        obtain ⟨result, later⟩ := (ih middle).2 readable
        exact ⟨result, Run.outcome_bind_eq_ok.2 ⟨middle, here, later⟩⟩

end Particles

section Types

variable {context} {name : String} {node : Element}

/-- What is read for a complex type has the particles and the attributes of its declaration. -/
theorem isFlattening_of_readContent {type : ComplexType}
    (read : (readContent context (emptyType context name) node.children).outcome = .ok type) :
    IsFlattening context node type := by
  rw [readContent_eq_foldlM context 0] at read
  obtain ⟨⟨particles, each, elements⟩, attributes⟩ := adds_of_foldlM read
  constructor
  · rw [show type.elements = particles from elements]
    refine ⟨_, ?_, each⟩
    simpa using lists_entriesOf node (fun _ _ => visitedAt_particle_iff) (fun _ => true)
  · refine ⟨_, ?_, attributes⟩
    simpa [isUsed] using lists_entriesOf node (fun _ _ => visitedAt_attributeUse_iff) isUsed

theorem exists_readContent_iff :
    (∃ type, (readContent context (emptyType context name) node.children).outcome = .ok type) ↔
      ∀ address element, ParticleAt node address element → IsReadable context element := by
  have listed := lists_entriesOf node (fun _ _ => visitedAt_particle_iff) (fun _ => true)
  rw [readContent_eq_foldlM context 0, exists_foldlM_iff]
  constructor
  · intro readable address element particle
    have member := (listed.complete address element).2 ⟨particle, rfl⟩
    obtain ⟨visit, kept, same⟩ := List.mem_map.1 member
    cases same
    obtain ⟨among, taken⟩ := List.mem_filter.1 kept
    exact readable visit among (by simpa using taken)
  · rintro readable ⟨address, role, element⟩ among rfl
    exact readable address element ((listed.complete address element).1
      (List.mem_map.2 ⟨_, List.mem_filter.2 ⟨among, by simp⟩, rfl⟩)).1

/-- Nothing below a particle belongs to the content that the particle belongs to. -/
theorem eq_nil_of_particleAt {address rest : Address} {element below : Element}
    (particle : ParticleAt node address element)
    (further : ParticleAt node (address ++ rest) below ∨ AttributeAt node (address ++ rest) below) :
    rest = [] := by
  have visited := visitedAt_particle_iff.2 particle
  rcases further with other | other
  · exact visited.eq_nil (.inl rfl) (visitedAt_particle_iff.2 other)
  · exact visited.eq_nil (.inl rfl) (visitedAt_attributeUse_iff.2 other)

end Types

end SchemaBinding.Schema
