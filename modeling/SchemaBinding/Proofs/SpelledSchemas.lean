import SchemaBinding.Proofs.Flattening
import SchemaBinding.Proofs.Rereading

/-!
# Names as they are spelled

Every name in a schema is read off an attribute of an element below the declaration
that the name belongs to.  How an attribute is read, and at which elements, is left
open; what a context does to the attributes of these elements carries over to all
names in the schema.
-/

namespace SchemaBinding

open Xml Schema

section Records

variable (shown : Element → Prop) (reads : Element → String → Option QName → Prop)

def SimpleType.IsSpelled (declaration : Element) (type : SimpleType) : Prop :=
  type.base = none ∨ ∃ restriction ∈ declaration.children,
    Construct.ofName restriction.name = .restriction ∧ reads restriction "base" type.base

/-- The names in what an attribute or a particle declares are read at its element. -/
structure Schema.IsDeclaredAt (element : Element) (name : String) (typeName ref : Option QName)
    (simpleType : Option SimpleType) : Prop where
  name_eq : name = nameOr (element.attribute? "name") ref
  typeName : reads element "type" typeName
  ref : reads element "ref" ref
  simpleType : ∀ type, simpleType = some type → ∃ child ∈ element.children,
    Construct.ofName child.name = .simpleType ∧ type.IsSpelled reads child

/-- A name that a derivation gives to a type, if one does, is read at the derivation. -/
def Schema.IsGivenBelow (declaration : Element) (role : Role) (name : Option QName) : Prop :=
  name = none ∨ ∃ address derivation,
    VisitedAt .content declaration.children address role derivation ∧
      reads derivation "base" name

mutual

/-- A complex type whose names are read where they stand below its declaration. -/
inductive ComplexType.IsSpelled : Element → ComplexType → Prop where
  | intro {declaration : Element} {type : ComplexType}
      (base : IsGivenBelow reads declaration .base type.base)
      (text : IsGivenBelow reads declaration .text type.text)
      (attributes : ∀ use ∈ type.attributes, ∃ address element,
        AttributeAt declaration address element ∧
          IsDeclaredAt reads element use.name use.typeName use.ref use.simpleType)
      (particles : ∀ particle ∈ type.elements, Particle.IsSpelled declaration particle) :
      ComplexType.IsSpelled declaration type

inductive Particle.IsSpelled : Element → ElementParticle → Prop where
  | intro {declaration element : Element} {address : Address} {particle : ElementParticle}
      (written : ParticleAt declaration address element)
      (declared : IsDeclaredAt reads element particle.name particle.typeName particle.ref
        particle.simpleType)
      (holds_eq : particle.complexType.isSome = (lastComplexType? element).isSome)
      (inside : ∀ child type, lastComplexType? element = some child →
        particle.complexType = some type → ComplexType.IsSpelled child type) :
      Particle.IsSpelled declaration particle

end

structure GlobalElement.IsSpelled (element : Element) (global : GlobalElement) : Prop where
  name_eq : global.name = (element.attribute? "name").getD ""
  typeName : reads element "type" global.typeName
  holds_eq : global.complexType.isSome = (lastComplexType? element).isSome
  inside : ∀ child type, lastComplexType? element = some child →
    global.complexType = some type → type.IsSpelled reads child

/-- A schema all names of which are read where they stand, at elements that are shown. -/
structure Schema.IsSpelled (schema : Schema) : Prop where
  complexTypes : ∀ type ∈ schema.complexTypes, ∃ declaration, shown declaration ∧
    Construct.ofName declaration.name = .complexType ∧
    declaration.attribute? "name" = some type.name ∧ type.IsSpelled reads declaration
  simpleTypes : ∀ type ∈ schema.simpleTypes, ∃ declaration, shown declaration ∧
    Construct.ofName declaration.name = .simpleType ∧
    declaration.attribute? "name" = some type.name ∧ type.IsSpelled reads declaration
  elements : ∀ global ∈ schema.elements, ∃ declaration, shown declaration ∧
    Construct.ofName declaration.name = .element ∧ global.IsSpelled reads declaration

/--
With an element its children are shown, and what a context makes of a reference of
an element that is shown is read there.
-/
structure Schema.Context.Reads (context : Context) : Prop where
  child : ∀ {element child : Element}, shown element → child ∈ element.children → shown child
  reads : ∀ {element : Element}, shown element → Construct.ofName element.name ≠ .other →
    ∀ {key : String}, key ∈ referenceKeys →
      reads element key (context.reference? (element.attribute? key))

end Records

variable {shown : Element → Prop} {reads : Element → String → Option QName → Prop}

theorem Schema.Context.Reads.lastComplexType? {context : Context}
    (spells : context.Reads shown reads) {element child : Element} (isShown : shown element)
    (last : Schema.lastComplexType? element = some child) : shown child :=
  spells.child isShown (List.mem_filter.1 (List.mem_of_getLast? last)).1

/-- The type with another name. -/
theorem ComplexType.IsSpelled.renamed {declaration : Element} {type : ComplexType}
    (spelled : type.IsSpelled reads declaration) (name : String) :
    ComplexType.IsSpelled reads declaration { type with name } := by
  cases spelled with
  | intro base text attributes particles => exact .intro base text attributes particles

/-- What each step keeps that succeeds on an item of a list is kept by all steps together. -/
theorem Run.kept_of_foldlM {α β : Type} {step : β → α → Run β} {kept : β → Prop} {items : List α}
    (keeps : ∀ item ∈ items, ∀ state next, kept state → (step state item).outcome = .ok next →
      kept next) {state last : β} (start : kept state)
    (read : (items.foldlM step state).outcome = .ok last) : kept last := by
  induction items generalizing state with
  | nil =>
      obtain rfl := Except.ok.inj read
      exact start
  | cons item rest ih =>
      rw [List.foldlM_cons] at read
      obtain ⟨next, here, later⟩ := Run.outcome_bind_eq_ok.1 read
      refine ih (fun other among => keeps other (List.mem_cons_of_mem _ among)) ?_ later
      exact keeps item List.mem_cons_self state next start here

namespace Schema

theorem eq_some_of_present? {value : Option String} {text : String}
    (given : present? value = some text) : value = some text := by
  unfold present? at given
  split at given
  · cases given
  · exact given

theorem VisitedAt.isShown {position : Position} {elements : List Element}
    {address : Address} {role : Role} {element : Element}
    (visited : VisitedAt position elements address role element)
    (child : ∀ {element child : Element}, shown element → child ∈ element.children → shown child)
    (each : ∀ element ∈ elements, shown element) : shown element := by
  induction visited with
  | here among gives => exact each _ (List.mem_of_getElem? among)
  | inside among enters visited ih =>
      exact ih fun _ member => child (each _ (List.mem_of_getElem? among)) member

theorem VisitedAt.ne_other {position : Position} {elements : List Element}
    {address : Address} {role : Role} {element : Element}
    (visited : VisitedAt position elements address role element) :
    Construct.ofName element.name ≠ .other := by
  induction visited with
  | @here position elements element index role child gives =>
      intro other
      rw [other] at gives
      cases position <;> cases gives
  | inside child enters visited ih => exact ih

section Walk

variable {context : Context} (spells : context.Reads shown reads)
include spells

theorem isSpelled_simpleTypeOf {declaration : Element} (isShown : shown declaration)
    (name : String) :
    (simpleTypeOf context name declaration.children).name = name ∧
      (simpleTypeOf context name declaration.children).IsSpelled reads declaration := by
  refine List.foldlRecOn
    (motive := fun type => type.name = name ∧ SimpleType.IsSpelled reads declaration type)
    declaration.children (deriveSimple context) ?_ fun type given child member => ?_
  · exact ⟨rfl, .inl rfl⟩
  unfold deriveSimple
  split
  · next restricts =>
      refine ⟨given.1, .inr ⟨child, member, restricts, ?_⟩⟩
      exact spells.reads (spells.child isShown member) (by simp [restricts]) (by decide)
  · exact given
  · exact given
  · exact given

theorem isDeclaredAt_of_shown {element : Element} (isShown : shown element)
    (known : Construct.ofName element.name ≠ .other) :
    IsDeclaredAt reads element
      (nameOr (element.attribute? "name") (context.reference? (element.attribute? "ref")))
      (context.reference? (element.attribute? "type"))
      (context.reference? (element.attribute? "ref"))
      (inlineSimpleType? context element.children) where
  name_eq := rfl
  typeName := spells.reads isShown known (by decide)
  ref := spells.reads isShown known (by decide)
  simpleType type given := by
    obtain ⟨child, last, rfl⟩ := Option.map_eq_some_iff.1 given
    have member := List.mem_reverse.1 (List.mem_of_find?_eq_some last)
    refine ⟨child, member, by simpa using List.find?_some last, ?_⟩
    exact (isSpelled_simpleTypeOf spells (spells.child isShown member) "").2

/-- A visited element leaves the name of a type, and the base and the text are read. -/
theorem isGivenBelow_of_readVisit {declaration : Element} (isShown : shown declaration)
    {visit : Visit} (member : visit ∈ visits .content 0 declaration.children) {name : String}
    {type result : ComplexType}
    (given : type.name = name ∧ IsGivenBelow reads declaration .base type.base ∧
      IsGivenBelow reads declaration .text type.text)
    (read : (readVisit context type visit).outcome = .ok result) :
    result.name = name ∧ IsGivenBelow reads declaration .base result.base ∧
      IsGivenBelow reads declaration .text result.text := by
  have visited := mem_visits_zero_iff.1 member
  have visitShown := visited.isShown spells.child fun _ => spells.child isShown
  have readAt : reads visit.element "base"
      (context.reference? (visit.element.attribute? "base")) :=
    spells.reads visitShown visited.ne_other (by decide)
  obtain ⟨address, role, element⟩ := visit
  obtain ⟨named, base, text⟩ := given
  cases role with
  | particle =>
      obtain ⟨_, _, same⟩ := Run.outcome_bind_eq_ok.1 read
      obtain rfl := Except.ok.inj same
      exact ⟨named, base, text⟩
  | attributeUse =>
      obtain ⟨_, _, same⟩ := Run.outcome_bind_eq_ok.1 read
      obtain rfl := Except.ok.inj same
      exact ⟨named, base, text⟩
  | base =>
      obtain rfl := Except.ok.inj read
      exact ⟨named, .inr ⟨_, _, visited, readAt⟩, text⟩
  | text =>
      obtain rfl := Except.ok.inj read
      exact ⟨named, base, .inr ⟨_, _, visited, readAt⟩⟩

theorem isGivenBelow_of_readContent {declaration : Element} (isShown : shown declaration)
    {name : String} {type : ComplexType}
    (read : (readContent context (emptyType context name) declaration.children).outcome =
      .ok type) :
    type.name = name ∧ IsGivenBelow reads declaration .base type.base ∧
      IsGivenBelow reads declaration .text type.text := by
  rw [readContent_eq_foldlM context 0] at read
  exact Run.kept_of_foldlM
    (fun _ member _ _ => isGivenBelow_of_readVisit spells isShown member)
    ⟨rfl, .inl rfl, .inl rfl⟩ read

/-- What is read for a complex type has the given name, and the names in it are read below. -/
theorem isSpelled_of_readContent {type : ComplexType} {declaration : Element}
    (isShown : shown declaration) {name : String}
    (read : (readContent context (emptyType context name) declaration.children).outcome =
      .ok type) : type.name = name ∧ type.IsSpelled reads declaration := by
  induction type using ComplexType.induction generalizing declaration name with
  | step type ih =>
      obtain ⟨named, base, text⟩ := isGivenBelow_of_readContent spells isShown read
      obtain ⟨⟨entries, listed, each⟩, ⟨uses, usesListed, attributes⟩⟩ :=
        isFlattening_of_readContent read
      refine ⟨named, .intro base text (fun use member => ?_) (fun particle member => ?_)⟩
      · rw [attributes] at member
        obtain ⟨⟨address, element⟩, among, rfl⟩ := List.mem_map.1 member
        have written := ((usesListed.complete address element).1 among).1
        have visited := visitedAt_attributeUse_iff.2 written
        exact ⟨address, element, written, isDeclaredAt_of_shown spells
          (visited.isShown spells.child fun _ => spells.child isShown) visited.ne_other⟩
      · obtain ⟨⟨address, element⟩, among, isParticle⟩ := exists_of_mem_right each member
        have written := (listed.complete address element).1 among
        have visited := visitedAt_particle_iff.2 written
        have elementShown := visited.isShown spells.child fun _ => spells.child isShown
        have declared := isDeclaredAt_of_shown spells elementShown visited.ne_other
        have holds_eq := isSome_eq_of_optionRel isParticle.inside
        refine .intro written ?_ holds_eq.symm fun child inside last given => ?_
        · have outside := isParticle.outside
          obtain ⟨_, _, _, _, _, _, _, _⟩ := particle
          cases outside
          exact declared
        · have readInside := isParticle.inside
          rw [last, given] at readInside
          cases readInside with
          | some readInside =>
              exact (ih particle member inside given (spells.lastComplexType? elementShown last)
                readInside).2

theorem isSpelled_of_readGlobalElement {element : Element} (isShown : shown element)
    (declares : Construct.ofName element.name = .element) {global : GlobalElement}
    (read : (readGlobalElement context element).outcome = .ok global) :
    global.IsSpelled reads element := by
  obtain ⟨types, inside, same⟩ := Run.outcome_bind_eq_ok.1 read
  obtain rfl := Except.ok.inj same
  have last := optionRel_getLast? (outcome_readInlineTypes_eq_ok.1 inside)
  refine ⟨rfl, ?_, ?_, fun child type lastChild given => ?_⟩
  · exact spells.reads isShown (by simp [declares]) (by decide)
  · rw [Option.isSome_map]
    exact (isSome_eq_of_optionRel last).symm
  · obtain ⟨readType, lastType, rfl⟩ := Option.map_eq_some_iff.1 given
    have childShown := spells.lastComplexType? isShown lastChild
    unfold lastComplexType? at lastChild
    rw [lastChild, lastType] at last
    cases last with
    | some readInside =>
        exact (isSpelled_of_readContent spells childShown readInside).2.renamed _

/-- One more declaration that is read where it stands. -/
theorem isSpelled_of_readDeclaration {schema next : Schema} {element : Element}
    (isShown : shown element) (given : schema.IsSpelled shown reads)
    (read : (readDeclaration context schema element).outcome = .ok next) :
    next.IsSpelled shown reads := by
  unfold readDeclaration at read
  dsimp only at read
  split at read
  · next declares =>
      split at read
      · obtain rfl := Except.ok.inj read
        exact given
      · next name named =>
          obtain ⟨type, content, same⟩ := Run.outcome_bind_eq_ok.1 read
          obtain rfl := Except.ok.inj same
          refine ⟨fun other member => ?_, given.simpleTypes, given.elements⟩
          rcases List.mem_append.1 member with before | here
          · exact given.complexTypes other before
          · obtain rfl := List.mem_singleton.1 here
            obtain ⟨rfl, spelled⟩ := isSpelled_of_readContent spells isShown content
            exact ⟨element, isShown, declares, eq_some_of_present? named, spelled⟩
  · next declares =>
      split at read
      · obtain rfl := Except.ok.inj read
        exact given
      · next name named =>
          obtain rfl := Except.ok.inj read
          refine ⟨given.complexTypes, fun other member => ?_, given.elements⟩
          rcases List.mem_append.1 member with before | here
          · exact given.simpleTypes other before
          · obtain rfl := List.mem_singleton.1 here
            obtain ⟨same, spelled⟩ := isSpelled_simpleTypeOf spells isShown name
            refine ⟨element, isShown, declares, ?_, spelled⟩
            rw [same]
            exact eq_some_of_present? named
  · next declares =>
      obtain ⟨global, content, same⟩ := Run.outcome_bind_eq_ok.1 read
      obtain rfl := Except.ok.inj same
      refine ⟨given.complexTypes, given.simpleTypes, fun other member => ?_⟩
      rcases List.mem_append.1 member with before | here
      · exact given.elements other before
      · obtain rfl := List.mem_singleton.1 here
        exact ⟨element, isShown, declares,
          isSpelled_of_readGlobalElement spells isShown declares content⟩
  · obtain rfl := Except.ok.inj read
    exact given

theorem isSpelled_of_readTopLevel {schema next : Schema} {element : Element}
    (isShown : shown element) (given : schema.IsSpelled shown reads)
    (read : (readTopLevel context schema element).outcome = .ok next) :
    next.IsSpelled shown reads := by
  have noted (directives : List Directive) :
      Schema.IsSpelled shown reads { schema with directives } :=
    ⟨given.complexTypes, given.simpleTypes, given.elements⟩
  unfold readTopLevel at read
  split at read
  · dsimp only at read
    split at read
    · refine Run.kept_of_foldlM (fun child member state next kept read => ?_) (noted _) read
      exact isSpelled_of_readDeclaration spells (spells.child isShown member) kept read
    · obtain rfl := Except.ok.inj read
      exact noted _
    · obtain rfl := Except.ok.inj read
      exact noted _
  · exact isSpelled_of_readDeclaration spells isShown given read

end Walk

theorem isSpelled_of_ofDocument {path : FilePath} {document : Document}
    (spells : (contextOf path document).Reads shown reads) (isShown : shown document.root)
    {schema : Schema} (read : (ofDocument path document).outcome = .ok schema) :
    schema.IsSpelled shown reads := by
  unfold ofDocument at read
  split at read
  · refine Run.kept_of_foldlM (fun child member state next kept read => ?_)
      ⟨fun _ member => ?_, fun _ member => ?_, fun _ member => ?_⟩ read
    · exact isSpelled_of_readTopLevel spells (spells.child isShown member) kept read
    · cases member
    · cases member
    · cases member
  · cases read

end Schema

end SchemaBinding
