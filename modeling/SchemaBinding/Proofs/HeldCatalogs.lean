import SchemaBinding.Proofs.AlikeCatalogs
import SchemaBinding.Proofs.Traversal
import SchemaBinding.Proofs.WorkspaceEmission

/-!
# Catalogues held by a workspace

A workspace holds a catalogue if its tables lead to objects for all that is in the
catalogue.  Objects may be shared in any way; types are written inside each other only so
deep.  What a workspace holds it still holds after other objects were made or changed.
-/

namespace SchemaBinding

variable {α : Type}

namespace Particle

def withInner {τ σ : Type} (particle : Particle τ) (inner : Option σ) : Particle σ :=
  { particle with complexType := inner }

end Particle

def ComplexType.object (type : ComplexType) (elements attributes : Handle) : TypeObject where
  name := type.name
  elements
  attributes
  base := type.base
  text := type.text
  targetNamespace := type.targetNamespace
  source := type.source

def MergedType.object (type : MergedType) (elements attributes : Handle) : MergedObject where
  name := type.name
  elements
  attributes
  base := type.base
  text := type.text
  targetNamespace := type.targetNamespace
  sources := type.sources

def GlobalElement.object (element : GlobalElement) (inner : Option Handle) : ElementObject where
  name := element.name
  typeName := element.typeName
  complexType := inner
  targetNamespace := element.targetNamespace
  source := element.source

def Schema.object (schema : Schema) (complexTypes simpleTypes elements : Handle) :
    SchemaObject where
  source := schema.source
  targetNamespace := schema.targetNamespace
  namespaces := schema.namespaces
  complexTypes
  simpleTypes
  elements
  directives := schema.directives

namespace Workspace

section Holding

variable (workspace : Workspace)

def HoldsList (holds : Handle → α → Prop) (list : Handle) (items : List α) : Prop :=
  ∃ addresses, workspace.Has .list list addresses ∧ List.Forall₂ holds addresses items

def HoldsParticle (holds : Handle → ComplexType → Prop) (address : Handle)
    (particle : ElementParticle) : Prop :=
  ∃ inner, workspace.Has .particle address (particle.withInner inner) ∧
    Option.Rel holds inner particle.complexType

def HoldsMembers (holds : Handle → ComplexType → Prop) (elements attributes : Handle)
    (particles : List ElementParticle) (uses : List AttributeUse) : Prop :=
  workspace.HoldsList (workspace.HoldsParticle holds) elements particles ∧
    workspace.HoldsList (workspace.Has .attributeUse) attributes uses

/-- A complex type is at an address; types are written inside each other at most so deep. -/
def HoldsType : Nat → Handle → ComplexType → Prop
  | 0 => fun _ _ => False
  | room + 1 => fun address type =>
      ∃ elements attributes, workspace.Has .complexType address (type.object elements attributes) ∧
        workspace.HoldsMembers (HoldsType room) elements attributes type.elements type.attributes

variable (room : Nat)

def HoldsMerged (address : Handle) (type : MergedType) : Prop :=
  ∃ elements attributes, workspace.Has .merged address (type.object elements attributes) ∧
    workspace.HoldsMembers (workspace.HoldsType room) elements attributes type.elements
      type.attributes

def HoldsElement (address : Handle) (element : GlobalElement) : Prop :=
  ∃ inner, workspace.Has .element address (element.object inner) ∧
    Option.Rel (workspace.HoldsType (room + 1)) inner element.complexType

def HoldsSchema (address : Handle) (schema : Schema) : Prop :=
  ∃ complexTypes simpleTypes elements,
    workspace.Has .schema address (schema.object complexTypes simpleTypes elements) ∧
    workspace.HoldsList (workspace.HoldsType (room + 1)) complexTypes schema.complexTypes ∧
    workspace.HoldsList (workspace.Has .simpleType) simpleTypes schema.simpleTypes ∧
    workspace.HoldsList (workspace.HoldsElement room) elements schema.elements

/-- A table leads to a list of objects for each name of a registry. -/
def HoldsRegistry (holds : Handle → α → Prop) (table : List (String × Handle))
    (registry : Registry α) : Prop :=
  List.Forall₂ (Keyed fun list definitions => workspace.HoldsList holds list definitions.toList)
    table registry.entries

/-- The tables lead to objects for all that is in a catalogue. -/
structure Holds (catalog : Catalog) : Prop where
  complexTypes : workspace.HoldsRegistry (workspace.HoldsType (room + 1))
    workspace.tables.complexTypes catalog.complexTypes
  simpleTypes : workspace.HoldsRegistry (workspace.Has .simpleType)
    workspace.tables.simpleTypes catalog.simpleTypes
  elements : workspace.HoldsRegistry (workspace.HoldsElement room)
    workspace.tables.elements catalog.elements
  namespaces_eq : workspace.tables.namespaces = catalog.namespaces
  schemas : List.Forall₂ (workspace.HoldsSchema room) workspace.tables.schemas catalog.schemas
  merged : List.Forall₂ (Keyed (workspace.HoldsMerged room)) workspace.tables.merged
    catalog.merged
  scalars_eq : workspace.tables.scalars = catalog.scalars

end Holding

/-- What documents declare stays where it is. -/
def KeepsRecords (before after : Workspace) : Prop :=
  ∀ kind, kind.isRecord = true → ∀ {address content},
    before.Has kind address content → after.Has kind address content

/-- Only classes and models are among the objects. -/
def AreParts (objects : List (ObjectKind × Handle)) : Prop :=
  ∀ entry ∈ objects, entry.1 = .structural ∨ entry.1 = .model

@[simp] theorem areParts_nil : AreParts [] := List.forall_mem_nil _

@[simp] theorem areParts_cons {entry : ObjectKind × Handle} {rest : List (ObjectKind × Handle)} :
    AreParts (entry :: rest) ↔ (entry.1 = .structural ∨ entry.1 = .model) ∧ AreParts rest :=
  List.forall_mem_cons

section Keeping

variable {allowed : List (ObjectKind × Handle)} {before after : Workspace}
variable {holds kept : Handle → α → Prop}

theorem AreParts.not_mem (parts : AreParts allowed) (kind : ObjectKind) (address : Handle)
    (noClass : kind ≠ .structural) (noModel : kind ≠ .model) : (kind, address) ∉ allowed :=
  fun member => (parts _ member).elim noClass noModel

theorem AreParts.isRecord_eq (parts : AreParts allowed) :
    ∀ entry ∈ allowed, entry.1.isRecord = false := by
  intro entry member
  rcases parts entry member with same | same <;> rw [same] <;> rfl

theorem Extends.keepsRecords (keeps : Extends allowed before after)
    (others : ∀ entry ∈ allowed, entry.1.isRecord = false) : KeepsRecords before after := by
  intro kind record _ _ has
  refine keeps.has (fun member => ?_) has
  exact Bool.false_ne_true ((others _ member).symm.trans record)

theorem Keeps.keepsRecords (keeps : Keeps allowed before after)
    (others : ∀ entry ∈ allowed, entry.1.isRecord = false) : KeepsRecords before after :=
  keeps.extends.keepsRecords others

theorem KeepsRecords.trans {middle : Workspace} (first : KeepsRecords before middle)
    (second : KeepsRecords middle after) : KeepsRecords before after :=
  fun kind record _ _ has => second kind record (first kind record has)

section Records

variable (keeps : KeepsRecords before after)
include keeps

theorem KeepsRecords.holdsList (each : ∀ address item, holds address item → kept address item)
    {list : Handle} {items : List α} (held : before.HoldsList holds list items) :
    after.HoldsList kept list items := by
  obtain ⟨addresses, has, all⟩ := held
  exact ⟨addresses, keeps .list rfl has, all.imp each⟩

theorem KeepsRecords.holdsParticle {holds kept : Handle → ComplexType → Prop}
    (each : ∀ address item, holds address item → kept address item)
    {address : Handle} {particle : ElementParticle}
    (held : before.HoldsParticle holds address particle) :
    after.HoldsParticle kept address particle := by
  obtain ⟨inner, has, inside⟩ := held
  exact ⟨inner, keeps .particle rfl has, optionRel_imp inside fun _ _ _ _ => each _ _⟩

theorem KeepsRecords.holdsMembers {holds kept : Handle → ComplexType → Prop}
    (each : ∀ address item, holds address item → kept address item) {elements attributes : Handle}
    {particles : List ElementParticle} {uses : List AttributeUse}
    (held : before.HoldsMembers holds elements attributes particles uses) :
    after.HoldsMembers kept elements attributes particles uses :=
  ⟨keeps.holdsList (fun _ _ => keeps.holdsParticle each) held.1,
    keeps.holdsList (fun _ _ => keeps .attributeUse rfl) held.2⟩

theorem KeepsRecords.holdsType {room : Nat} {address : Handle} {type : ComplexType}
    (held : before.HoldsType room address type) : after.HoldsType room address type := by
  induction room generalizing address type with
  | zero => exact held
  | succ room ih =>
      obtain ⟨elements, attributes, has, members⟩ := held
      exact ⟨elements, attributes, keeps .complexType rfl has,
        keeps.holdsMembers (fun _ _ => ih) members⟩

variable {room : Nat} {address : Handle}

theorem KeepsRecords.holdsElement {element : GlobalElement}
    (held : before.HoldsElement room address element) :
    after.HoldsElement room address element := by
  obtain ⟨inner, has, inside⟩ := held
  exact ⟨inner, keeps .element rfl has,
    optionRel_imp inside fun _ _ _ _ => keeps.holdsType⟩

theorem KeepsRecords.holdsSchema {schema : Schema}
    (held : before.HoldsSchema room address schema) : after.HoldsSchema room address schema := by
  obtain ⟨complexTypes, simpleTypes, elements, has, first, second, third⟩ := held
  refine ⟨complexTypes, simpleTypes, elements, keeps .schema rfl has, ?_, ?_, ?_⟩
  · exact keeps.holdsList (fun _ _ => keeps.holdsType) first
  · exact keeps.holdsList (fun _ _ => keeps .simpleType rfl) second
  · exact keeps.holdsList (fun _ _ => keeps.holdsElement) third

theorem KeepsRecords.holdsRegistry
    (each : ∀ address item, holds address item → kept address item)
    {table : List (String × Handle)} {registry : Registry α}
    (held : before.HoldsRegistry holds table registry) :
    after.HoldsRegistry kept table registry :=
  held.imp fun _ _ same => ⟨same.key_eq, keeps.holdsList each same.value⟩

end Records

variable {room : Nat} {catalog : Catalog}

theorem HoldsMerged.extends {address : Handle} {type : MergedType}
    (held : before.HoldsMerged room address type) (more : Extends allowed before after)
    (parts : AreParts allowed) : after.HoldsMerged room address type := by
  have records := more.keepsRecords parts.isRecord_eq
  obtain ⟨elements, attributes, has, members⟩ := held
  exact ⟨elements, attributes, more.has (parts.not_mem .merged _ (by simp) (by simp)) has,
    records.holdsMembers (fun _ _ => records.holdsType) members⟩

/-- What is held is still held, whatever is computed of it later. -/
theorem Holds.extends (held : before.Holds room catalog)
    (keeps : KeepsRecords before after) (more : Extends allowed before after)
    {merged : List (String × MergedType)} {scalars : List (String × ScalarType)}
    (types : List.Forall₂ (Keyed (after.HoldsMerged room)) after.tables.merged merged)
    (representations : after.tables.scalars = scalars) :
    after.Holds room ((catalog.withScalars scalars).withMerged merged) where
  complexTypes :=
    more.complexTypes_eq ▸ keeps.holdsRegistry (fun _ _ => keeps.holdsType) held.complexTypes
  simpleTypes :=
    more.simpleTypes_eq ▸ keeps.holdsRegistry (fun _ _ => keeps .simpleType rfl)
      held.simpleTypes
  elements :=
    more.elements_eq ▸ keeps.holdsRegistry (fun _ _ => keeps.holdsElement) held.elements
  namespaces_eq := more.namespaces_eq.trans held.namespaces_eq
  schemas := more.schemas_eq ▸ held.schemas.imp fun _ _ => keeps.holdsSchema
  merged := types
  scalars_eq := representations

theorem Holds.keeps (held : before.Holds room catalog) (keeps : Keeps allowed before after)
    (parts : AreParts allowed) : after.Holds room catalog := by
  have merged : List.Forall₂ (Keyed (after.HoldsMerged room)) after.tables.merged
      catalog.merged := by
    rw [keeps.tables_eq]
    exact held.merged.imp fun _ _ same => ⟨same.key_eq, same.value.extends keeps.extends parts⟩
  have scalars : after.tables.scalars = catalog.scalars := by
    rw [keeps.tables_eq]
    exact held.scalars_eq
  exact held.extends (keeps.keepsRecords parts.isRecord_eq) keeps.extends merged scalars

end Keeping

end Workspace

namespace Catalog

section Outline

variable (catalog : Catalog)

theorem contains_complexTypes_outline (name : String) :
    catalog.outline.complexTypes.contains name = catalog.complexTypes.contains name := by
  unfold outline Registry.contains Registry.definitions?
  rw [List.find?_map, Option.map_map, Option.isSome_map, Option.isSome_map]
  rfl

theorem first?_elements_outline (name : String) :
    catalog.outline.elements.first? name = (catalog.elements.first? name).map
      fun element =>
        { element with complexType := element.complexType.map fun _ => erasedType } := by
  unfold outline Registry.first? Registry.definitions?
  rw [List.find?_map, Option.map_map, Option.map_map, Option.map_map, Option.map_map]
  rfl

theorem isBuiltin_outline (name : QName) :
    catalog.outline.isBuiltin name = catalog.isBuiltin name := by
  unfold isBuiltin
  rw [contains_complexTypes_outline]
  rfl

theorem classifyInline_outline (type : SimpleType) :
    catalog.outline.classifyInline type = catalog.classifyInline type := by
  unfold classifyInline classifyBase
  simp only [isBuiltin_outline]

theorem classify_outline (type : SimpleType) :
    catalog.outline.classify type = catalog.classify type := by
  unfold classify
  rw [classifyInline_outline]

theorem targetOf_outline (name : QName) :
    catalog.outline.targetOf name = catalog.targetOf name := by
  unfold targetOf
  rw [isBuiltin_outline]
  rfl

theorem targetOfParticle_outline (particle : ElementParticle) :
    catalog.outline.targetOfParticle particle = catalog.targetOfParticle particle := by
  have reference : ∀ ref, catalog.outline.targetOfElement ref = catalog.targetOfElement ref := by
    intro ref
    unfold targetOfElement
    rw [first?_elements_outline]
    cases catalog.elements.first? ref.localName with
    | none => rfl
    | some element =>
        obtain ⟨_, typeName, complexType, _, _⟩ := element
        cases typeName with
        | none => cases complexType <;> rfl
        | some name => exact congrArg Pure.pure (catalog.targetOf_outline name)
  unfold targetOfParticle
  simp only [targetOf_outline, classifyInline_outline, reference]

theorem namespaceOf_outline (particle : ElementParticle) (owner : Option String) :
    catalog.outline.namespaceOf particle owner = catalog.namespaceOf particle owner := by
  unfold namespaceOf
  cases particle.ref with
  | none => rfl
  | some ref =>
      dsimp only
      rw [first?_elements_outline]
      cases catalog.elements.first? ref.localName <;> rfl

theorem classifyAll_outline :
    catalog.outline.classifyAll = outline <$> catalog.classifyAll := by
  suffices general : ∀ (entries : List (String × Definitions SimpleType)) (catalog : Catalog),
      entries.foldlM (fun (catalog : Catalog) entry => catalog.classifyEntry entry.1 entry.2)
          catalog.outline =
        outline <$> entries.foldlM
          (fun (catalog : Catalog) entry => catalog.classifyEntry entry.1 entry.2) catalog from
    general catalog.simpleTypes.entries catalog
  intro entries
  induction entries with
  | nil => exact fun _ => rfl
  | cons entry rest ih =>
      intro catalog
      have one : catalog.outline.classifyEntry entry.1 entry.2 =
          outline <$> catalog.classifyEntry entry.1 entry.2 := by
        unfold classifyEntry
        rw [classify_outline]
        by_cases known : (catalog.scalar? entry.1).isSome = true
        · rw [if_pos (show (catalog.outline.scalar? entry.1).isSome = true from known),
            if_pos known]
          rfl
        · rw [if_neg (show ¬(catalog.outline.scalar? entry.1).isSome = true from known),
            if_neg known]
          cases entry.2.later.isEmpty <;> rfl
      rw [List.foldlM_cons, List.foldlM_cons, one, bind_map_left, map_bind]
      exact congrArg _ (funext ih)

end Outline

end Catalog

namespace Workspace

variable {workspace : Workspace} {room : Nat} {catalog : Catalog}

theorem HoldsList.listed_eq {kind : ObjectKind} {list : Handle} {items : List kind.Content}
    (held : workspace.HoldsList (workspace.Has kind) list items) :
    workspace.listed kind list = items := by
  obtain ⟨addresses, has, all⟩ := held
  have each := map_eq_map_of_forall₂ (fun _ _ found => found.content_eq) all
  rw [List.map_id'] at each
  rw [listed, has.content_eq]
  exact each

/-- Names are resolved in a workspace as in the catalogue that it holds. -/
theorem Holds.outline_eq (held : workspace.Holds room catalog) :
    workspace.outline = catalog.outline := by
  unfold outline Catalog.outline
  congr 2
  · exact map_eq_map_of_forall₂ (fun _ _ same => by rw [same.key_eq]) held.complexTypes
  · refine (map_eq_map_of_forall₂ (fun _ _ same => ?_) held.simpleTypes).trans (List.map_id _)
    rw [same.value.listed_eq, same.key_eq]
    rfl
  · refine map_eq_map_of_forall₂ (fun entry named same => ?_) held.elements
    obtain ⟨addresses, has, all⟩ := same.value
    obtain ⟨first, others, ⟨inner, found, inside⟩, -, rfl⟩ := List.forall₂_cons_right_iff.1 all
    have listed : workspace.listed .element entry.2 =
        named.2.first.object inner :: others.map (workspace.content .element) := by
      rw [listed, has.content_eq]
      exact congrArg (· :: _) found.content_eq
    have types : inner.map (fun _ => Catalog.erasedType) =
        named.2.first.complexType.map fun _ => Catalog.erasedType :=
      eq_of_optionRel_eq (optionRel_map inside fun _ _ _ => rfl)
    rw [listed, same.key_eq]
    exact congrArg (fun type => (named.1,
      (⟨{ named.2.first with complexType := type }, []⟩ : Definitions GlobalElement))) types
  · exact held.scalars_eq

end Workspace

namespace Workspace

/-! ## A workspace for each catalogue -/

section Existence

variable {β : Type}

/-- Every workspace can be extended by what holds an item. -/
def CanHold (holds : Workspace → β → α → Prop) (item : α) : Prop :=
  ∀ before, ∃ after place, Keeps [] before after ∧ holds after place item

/-- What holds an item does so when other objects are made. -/
def IsStable (holds : Workspace → β → α → Prop) : Prop :=
  ∀ before after, Keeps [] before after → ∀ place item, holds before place item →
    holds after place item

theorem isStable_has (kind : ObjectKind) : IsStable fun workspace => workspace.Has kind :=
  fun _ _ keeps _ _ has => keeps.has List.not_mem_nil has

theorem isStable_holdsType (room : Nat) : IsStable fun workspace => workspace.HoldsType room :=
  fun _ _ keeps _ _ => (keeps.keepsRecords (by simp)).holdsType

theorem isStable_holdsElement (room : Nat) :
    IsStable fun workspace => workspace.HoldsElement room :=
  fun _ _ keeps _ _ => (keeps.keepsRecords (by simp)).holdsElement

theorem isStable_holdsSchema (room : Nat) :
    IsStable fun workspace => workspace.HoldsSchema room :=
  fun _ _ keeps _ _ => (keeps.keepsRecords (by simp)).holdsSchema

theorem isStable_holdsMergedEntry (room : Nat) :
    IsStable fun workspace => Keyed (workspace.HoldsMerged room) :=
  fun _ _ keeps _ _ same => ⟨same.key_eq, same.value.extends keeps.extends (by simp)⟩

theorem canHold_has (kind : ObjectKind) (content : kind.Content) :
    CanHold (fun workspace => workspace.Has kind) content :=
  fun before => ⟨before.push kind content, before.fresh kind, keeps_push content,
    has_push_self content⟩

theorem exists_holdsEach {holds : Workspace → β → α → Prop} (stable : IsStable holds)
    {items : List α} (each : ∀ item ∈ items, CanHold holds item) (before : Workspace) :
    ∃ after places, Keeps [] before after ∧ List.Forall₂ (holds after) places items := by
  induction items generalizing before with
  | nil => exact ⟨before, [], refl before, .nil⟩
  | cons item rest ih =>
      obtain ⟨middle, place, first, held⟩ := each item List.mem_cons_self before
      obtain ⟨after, places, second, others⟩ :=
        ih (fun other member => each other (List.mem_cons_of_mem item member)) middle
      exact ⟨after, place :: places, first.trans second,
        .cons (stable _ _ second _ _ held) others⟩

theorem canHold_option {holds : Workspace → Handle → α → Prop} {item : Option α}
    (inside : ∀ value, item = some value → CanHold holds value) :
    CanHold (fun workspace => Option.Rel (holds workspace)) item := by
  intro before
  cases item with
  | none => exact ⟨before, none, refl before, .none⟩
  | some value =>
      obtain ⟨after, place, keeps, held⟩ := inside value rfl before
      exact ⟨after, some place, keeps, .some held⟩

variable {holds : Workspace → Handle → α → Prop} (stable : IsStable holds)
include stable

theorem isStable_holdsList : IsStable fun workspace => workspace.HoldsList (holds workspace) :=
  fun before after keeps _ _ =>
    (keeps.keepsRecords (by simp)).holdsList (stable before after keeps)

theorem canHold_list {items : List α} (each : ∀ item ∈ items, CanHold holds item) :
    CanHold (fun workspace => workspace.HoldsList (holds workspace)) items := by
  intro before
  obtain ⟨middle, addresses, first, held⟩ := exists_holdsEach stable each before
  obtain ⟨after, list, second, has⟩ := canHold_has .list addresses middle
  exact ⟨after, list, first.trans second, addresses, has,
    held.imp (stable _ _ second)⟩

theorem canHold_registry {registry : Registry α}
    (each : ∀ entry ∈ registry.entries, ∀ item ∈ entry.2.toList, CanHold holds item)
    (before : Workspace) :
    ∃ after table, Keeps [] before after ∧ after.HoldsRegistry (holds after) table registry := by
  have stableEntry : IsStable fun workspace => Keyed fun list (definitions : Definitions α) =>
      workspace.HoldsList (holds workspace) list definitions.toList :=
    fun before after keeps _ _ same =>
      ⟨same.key_eq, isStable_holdsList stable before after keeps _ _ same.value⟩
  refine exists_holdsEach stableEntry (fun entry member before => ?_) before
  obtain ⟨after, list, keeps, held⟩ := canHold_list stable (each entry member) before
  exact ⟨after, (entry.1, list), keeps, rfl, held⟩

end Existence

section Types

variable {room : Nat}

theorem isStable_holdsParticle (room : Nat) :
    IsStable fun workspace => workspace.HoldsParticle (workspace.HoldsType room) :=
  fun _ _ keeps _ _ =>
    (keeps.keepsRecords (by simp)).holdsParticle fun _ _ => (keeps.keepsRecords (by simp)).holdsType

theorem canHold_particle {particle : ElementParticle}
    (inside : ∀ type, particle.complexType = some type →
      CanHold (fun workspace => workspace.HoldsType room) type) :
    CanHold (fun workspace => workspace.HoldsParticle (workspace.HoldsType room)) particle := by
  intro before
  obtain ⟨middle, inner, first, held⟩ := canHold_option inside before
  obtain ⟨after, address, second, has⟩ := canHold_has .particle (particle.withInner inner) middle
  exact ⟨after, address, first.trans second, inner, has,
    optionRel_imp held fun _ _ _ _ => (second.keepsRecords (by simp)).holdsType⟩

/-- The elements and the attributes of a type can be listed. -/
theorem exists_holdsMembers {particles : List ElementParticle}
    (each : ∀ particle ∈ particles, ∀ type, particle.complexType = some type →
      CanHold (fun workspace => workspace.HoldsType room) type)
    (uses : List AttributeUse) (before : Workspace) :
    ∃ after elements attributes, Keeps [] before after ∧
      after.HoldsMembers (after.HoldsType room) elements attributes particles uses := by
  obtain ⟨middle, elements, first, held⟩ := canHold_list (isStable_holdsParticle room)
    (fun particle member => canHold_particle (each particle member)) before
  obtain ⟨after, attributes, second, others⟩ := canHold_list (isStable_has .attributeUse)
    (fun use _ => canHold_has .attributeUse use) middle
  exact ⟨after, elements, attributes, first.trans second,
    isStable_holdsList (isStable_holdsParticle room) _ _ second _ _ held, others⟩

theorem canHold_type {type : ComplexType} (deep : sizeOf type ≤ room) :
    CanHold (fun workspace => workspace.HoldsType room) type := by
  induction room generalizing type with
  | zero =>
      obtain ⟨⟩ := type
      simp only [ComplexType.mk.sizeOf_spec] at deep
      omega
  | succ room ih =>
      intro before
      have inside : ∀ particle ∈ type.elements, ∀ inner, particle.complexType = some inner →
          CanHold (fun workspace => workspace.HoldsType room) inner := by
        intro particle member inner given
        have smaller := ComplexType.sizeOf_inner_lt member given
        exact ih (by omega)
      obtain ⟨middle, elements, attributes, first, members⟩ :=
        exists_holdsMembers inside type.attributes before
      obtain ⟨after, address, second, has⟩ :=
        canHold_has .complexType (type.object elements attributes) middle
      have records := second.keepsRecords (by simp)
      exact ⟨after, address, first.trans second, elements, attributes, has,
        records.holdsMembers (fun _ _ => records.holdsType) members⟩

theorem canHold_merged {type : MergedType}
    (deep : ∀ particle ∈ type.elements, sizeOf particle ≤ room) :
    CanHold (fun workspace => workspace.HoldsMerged room) type := by
  intro before
  have inside : ∀ particle ∈ type.elements, ∀ inner, particle.complexType = some inner →
      CanHold (fun workspace => workspace.HoldsType room) inner := by
    intro particle member inner given
    have smaller := Particle.sizeOf_inner_lt given
    have bounded := deep particle member
    exact canHold_type (by omega)
  obtain ⟨middle, elements, attributes, first, members⟩ :=
    exists_holdsMembers inside type.attributes before
  obtain ⟨after, address, second, has⟩ :=
    canHold_has .merged (type.object elements attributes) middle
  have records := second.keepsRecords (by simp)
  exact ⟨after, address, first.trans second, elements, attributes, has,
    records.holdsMembers (fun _ _ => records.holdsType) members⟩

theorem canHold_mergedEntry {pair : String × MergedType} (deep : sizeOf pair ≤ room) :
    CanHold (fun workspace => Keyed (workspace.HoldsMerged room)) pair := by
  obtain ⟨name, type⟩ := pair
  have inside : ∀ particle ∈ type.elements, sizeOf particle ≤ room := by
    intro particle member
    have below := List.sizeOf_lt_of_mem member
    obtain ⟨⟩ := type
    simp only [Prod.mk.sizeOf_spec, MergedType.mk.sizeOf_spec] at deep below
    omega
  intro before
  obtain ⟨after, address, keeps, held⟩ := canHold_merged inside before
  exact ⟨after, (name, address), keeps, rfl, held⟩

theorem canHold_element {element : GlobalElement} (deep : sizeOf element ≤ room) :
    CanHold (fun workspace => workspace.HoldsElement room) element := by
  have inside : ∀ type, element.complexType = some type →
      CanHold (fun workspace => workspace.HoldsType (room + 1)) type := by
    rintro type given
    obtain ⟨name, typeName, complexType, uri, source⟩ := element
    obtain rfl : complexType = some type := given
    simp only [GlobalElement.mk.sizeOf_spec, Option.some.sizeOf_spec] at deep
    exact canHold_type (by omega)
  intro before
  obtain ⟨middle, inner, first, held⟩ := canHold_option inside before
  obtain ⟨after, address, second, has⟩ := canHold_has .element (element.object inner) middle
  exact ⟨after, address, first.trans second, inner, has,
    optionRel_imp held fun _ _ _ _ => (second.keepsRecords (by simp)).holdsType⟩

theorem canHold_schema {schema : Schema} (deep : sizeOf schema ≤ room) :
    CanHold (fun workspace => workspace.HoldsSchema room) schema := by
  have parts : sizeOf schema.complexTypes + sizeOf schema.elements ≤ room := by
    obtain ⟨_, _, _, complexTypes, _, elements, _⟩ := schema
    simp only [Schema.mk.sizeOf_spec] at deep ⊢
    omega
  have types : ∀ type ∈ schema.complexTypes,
      CanHold (fun workspace => workspace.HoldsType (room + 1)) type := by
    intro type member
    have below := List.sizeOf_lt_of_mem member
    exact canHold_type (by omega)
  have elements : ∀ element ∈ schema.elements,
      CanHold (fun workspace => workspace.HoldsElement room) element := by
    intro element member
    have below := List.sizeOf_lt_of_mem member
    exact canHold_element (by omega)
  have simple : ∀ type ∈ schema.simpleTypes,
      CanHold (fun workspace => workspace.Has .simpleType) type := fun _ _ => canHold_has _ _
  intro before
  obtain ⟨first, complexTypes, firstKeeps, firstHeld⟩ :=
    canHold_list (isStable_holdsType _) types before
  obtain ⟨second, simpleTypes, secondKeeps, secondHeld⟩ :=
    canHold_list (isStable_has .simpleType) simple first
  obtain ⟨third, globals, thirdKeeps, thirdHeld⟩ :=
    canHold_list (isStable_holdsElement _) elements second
  obtain ⟨after, address, keeps, has⟩ :=
    canHold_has .schema (schema.object complexTypes simpleTypes globals) third
  have sinceSecond := thirdKeeps.trans keeps
  have sinceFirst := secondKeeps.trans sinceSecond
  exact ⟨after, address, firstKeeps.trans sinceFirst, complexTypes, simpleTypes,
    globals, has, isStable_holdsList (isStable_holdsType _) _ _ sinceFirst _ _ firstHeld,
    isStable_holdsList (isStable_has .simpleType) _ _ sinceSecond _ _ secondHeld,
    isStable_holdsList (isStable_holdsElement _) _ _ keeps _ _ thirdHeld⟩

theorem sizeOf_lt_of_mem_registry [SizeOf α] {registry : Registry α}
    {entry : String × Definitions α} (among : entry ∈ registry.entries) {item : α}
    (member : item ∈ entry.2.toList) : sizeOf item < sizeOf registry := by
  obtain ⟨entries⟩ := registry
  obtain ⟨name, first, later⟩ := entry
  have outer := List.sizeOf_lt_of_mem among
  have inner := List.sizeOf_lt_of_mem member
  simp only [Registry.mk.sizeOf_spec, Prod.mk.sizeOf_spec, Definitions.mk.sizeOf_spec,
    Definitions.toList, List.cons.sizeOf_spec] at outer inner ⊢
  omega

/-- Every catalogue is held by some workspace. -/
theorem exists_holds (catalog : Catalog) :
    ∃ room workspace, Holds workspace room catalog := by
  obtain ⟨complexTypes, simpleTypes, elements, namespaces, schemas, merged, scalars⟩ := catalog
  generalize deep : sizeOf complexTypes + sizeOf elements + sizeOf schemas + sizeOf merged = room
  have types : ∀ entry ∈ complexTypes.entries, ∀ type ∈ entry.2.toList,
      CanHold (fun workspace => workspace.HoldsType (room + 1)) type := by
    intro entry among type member
    have below := sizeOf_lt_of_mem_registry among member
    exact canHold_type (by omega)
  have globals : ∀ entry ∈ elements.entries, ∀ element ∈ entry.2.toList,
      CanHold (fun workspace => workspace.HoldsElement room) element := by
    intro entry among element member
    have below := sizeOf_lt_of_mem_registry among member
    exact canHold_element (by omega)
  have documents : ∀ schema ∈ schemas,
      CanHold (fun workspace => workspace.HoldsSchema room) schema := by
    intro schema member
    have below := List.sizeOf_lt_of_mem member
    exact canHold_schema (by omega)
  have folded : ∀ pair ∈ merged,
      CanHold (fun workspace => Keyed (workspace.HoldsMerged room)) pair := by
    intro pair member
    have below := List.sizeOf_lt_of_mem member
    exact canHold_mergedEntry (by omega)
  have simple : ∀ entry ∈ simpleTypes.entries, ∀ type ∈ entry.2.toList,
      CanHold (fun workspace => workspace.Has .simpleType) type := fun _ _ _ _ => canHold_has _ _
  obtain ⟨first, typeTable, -, firstHeld⟩ := canHold_registry (isStable_holdsType _) types
    ⟨fun _ => [], ⟨[], [], [], namespaces, [], [], scalars⟩⟩
  obtain ⟨second, simpleTable, secondKeeps, secondHeld⟩ :=
    canHold_registry (isStable_has .simpleType) simple first
  obtain ⟨third, elementTable, thirdKeeps, thirdHeld⟩ :=
    canHold_registry (isStable_holdsElement _) globals second
  obtain ⟨fourth, schemaList, fourthKeeps, fourthHeld⟩ :=
    exists_holdsEach (isStable_holdsSchema room) documents third
  obtain ⟨last, mergedTable, lastKeeps, lastHeld⟩ :=
    exists_holdsEach (isStable_holdsMergedEntry room) folded fourth
  have fromThird := fourthKeeps.trans lastKeeps
  have fromSecond := thirdKeeps.trans fromThird
  have fromFirst := secondKeeps.trans fromSecond
  let whole : Workspace := { last with
    tables := ⟨typeTable, simpleTable, elementTable, namespaces, schemaList, mergedTable, scalars⟩ }
  have still : ∀ {middle}, Keeps [] middle last → KeepsRecords middle whole :=
    fun keeps _ _ _ _ has => keeps.has List.not_mem_nil has
  refine ⟨room, whole, ?_, ?_, ?_, rfl, ?_, ?_, rfl⟩
  · exact (still fromFirst).holdsRegistry (fun _ _ => (still fromFirst).holdsType) firstHeld
  · exact (still fromSecond).holdsRegistry (fun _ _ => still fromSecond .simpleType rfl)
      secondHeld
  · exact (still fromThird).holdsRegistry (fun _ _ => (still fromThird).holdsElement) thirdHeld
  · exact fourthHeld.imp fun _ _ => (still lastKeeps).holdsSchema
  · refine lastHeld.imp fun _ _ same => ⟨same.key_eq, ?_⟩
    obtain ⟨members, attributes, has, held⟩ := same.value
    have records := still (refl last)
    exact ⟨members, attributes, has, records.holdsMembers (fun _ _ => records.holdsType) held⟩

end Types

end Workspace

end SchemaBinding
