import SchemaBinding.Proofs.Assurance
import SchemaBinding.Schema.Reading

/-!
# Where declarations stand

Reading places every complex type of a document, and every particle and type in
it at any depth, in the target namespace of that document.  Reading the
declarations fails in one way only, namely with a fault of the document itself.
-/

namespace SchemaBinding

open Xml

/--
A complex type that stands in a document with the given target namespace, as do
all particles in it and the types inside them.
-/
inductive ComplexType.StandsIn (uri : Option String) : ComplexType → Prop where
  | intro {type : ComplexType} (own : type.targetNamespace = uri)
      (particles : ∀ particle ∈ type.elements, particle.targetNamespace = uri)
      (inner : ∀ particle ∈ type.elements, ∀ inside, particle.complexType = some inside →
        StandsIn uri inside) : StandsIn uri type

structure Particle.StandsIn (uri : Option String) (particle : ElementParticle) : Prop where
  uri_eq : particle.targetNamespace = uri
  inner : ∀ inside, particle.complexType = some inside → inside.StandsIn uri

namespace ComplexType

variable {uri : Option String} {type : ComplexType}

theorem StandsIn.uri_eq (stands : type.StandsIn uri) : type.targetNamespace = uri := by
  cases stands with
  | intro own particles inner => exact own

theorem StandsIn.particle (stands : type.StandsIn uri) {particle : ElementParticle}
    (member : particle ∈ type.elements) : particle.StandsIn uri := by
  cases stands with
  | intro own particles inner => exact ⟨particles particle member, inner particle member⟩

/-- The type with other elements, all of which stand in the document. -/
theorem StandsIn.of_elements (own : type.targetNamespace = uri)
    (elements : ∀ particle ∈ type.elements, Particle.StandsIn uri particle) :
    type.StandsIn uri :=
  .intro own (fun particle member => (elements particle member).uri_eq)
    (fun particle member => (elements particle member).inner)

/-- Only the namespace and the elements of a type decide where it stands. -/
theorem StandsIn.congr (stands : type.StandsIn uri) {other : ComplexType}
    (own : other.targetNamespace = type.targetNamespace)
    (elements : other.elements = type.elements) : other.StandsIn uri := by
  refine .of_elements (own.trans stands.uri_eq) ?_
  intro particle member
  rw [elements] at member
  exact stands.particle member

/-- A particle that is written in a complex type, at any depth. -/
inductive Writes : ComplexType → ElementParticle → Prop where
  | here {type : ComplexType} {particle : ElementParticle}
      (member : particle ∈ type.elements) : Writes type particle
  | inside {type inner : ComplexType} {outer particle : ElementParticle}
      (member : outer ∈ type.elements) (given : outer.complexType = some inner)
      (written : Writes inner particle) : Writes type particle

theorem Writes.standsIn {particle : ElementParticle} (written : type.Writes particle)
    (stands : type.StandsIn uri) : particle.StandsIn uri := by
  induction written with
  | here member => exact stands.particle member
  | inside member given written ih => exact ih ((stands.particle member).inner _ given)

/-- What is written in a type inside a written particle is written too. -/
theorem Writes.trans {outer particle : ElementParticle} {inner : ComplexType}
    (written : type.Writes outer) (given : outer.complexType = some inner)
    (member : particle ∈ inner.elements) : type.Writes particle := by
  induction written with
  | here outerMember => exact .inside outerMember given (.here member)
  | inside holderMember holds written ih => exact .inside holderMember holds (ih given)

end ComplexType

namespace Schema

def IsFault (path : FilePath) (failure : Failure) : Prop :=
  ∃ fault, failure = .schema path fault

variable (context : Context)

/-- A run that fails only with a fault of the document. -/
abbrev Places {α : Type} (returned : α → Prop) (run : Run α) : Prop :=
  run.Ends returned (IsFault context.source)

theorem places_readAttributeUse (element : Element) :
    Places context (fun _ => True) (readAttributeUse context element) := by
  unfold readAttributeUse
  split
  · exact (Run.ends_report _).bind (fun _ _ => Run.ends_pure trivial)
  · exact Run.ends_pure trivial

theorem places_minOccursOf (element : Element) :
    Places context (fun _ => True) (Run.ofExcept (minOccursOf context element)) where
  value _ _ := trivial
  failure failure equal := by
    change minOccursOf context element = .error failure at equal
    unfold minOccursOf at equal
    dsimp only at equal
    split at equal
    · cases equal
    · obtain rfl := Except.error.inj equal
      exact ⟨_, rfl⟩

mutual

theorem places_readContent (type : ComplexType) (elements : List Element)
    (stands : type.StandsIn context.targetNamespace) :
    Places context (ComplexType.StandsIn context.targetNamespace)
      (readContent context type elements) := by
  match elements with
  | [] =>
      rw [readContent]
      exact Run.ends_pure stands
  | ⟨name, attributes, children⟩ :: rest =>
      unfold readContent
      refine Run.Ends.bind (?_ : Places context (ComplexType.StandsIn context.targetNamespace) _)
        (fun type stands => places_readContent type rest stands)
      split
      · refine Run.Ends.bind (places_readGroup children) (fun particles placed => ?_)
        refine Run.ends_pure (.of_elements stands.uri_eq ?_)
        intro particle member
        rcases List.mem_append.1 member with before | added
        · exact stands.particle before
        · exact placed particle added
      · refine Run.Ends.bind (places_readAttributeUse context _) (fun uses _ => ?_)
        exact Run.ends_pure (stands.congr rfl rfl)
      · exact places_readComplexContent type children stands
      · exact places_readSimpleContent type children stands
      · exact Run.ends_pure stands

theorem places_readComplexContent (type : ComplexType) (elements : List Element)
    (stands : type.StandsIn context.targetNamespace) :
    Places context (ComplexType.StandsIn context.targetNamespace)
      (readComplexContent context type elements) := by
  match elements with
  | [] =>
      rw [readComplexContent]
      exact Run.ends_pure stands
  | ⟨name, attributes, children⟩ :: rest =>
      unfold readComplexContent
      refine Run.Ends.bind (?_ : Places context (ComplexType.StandsIn context.targetNamespace) _)
        (fun type stands => places_readComplexContent type rest stands)
      split
      · exact places_readContent _ children (stands.congr rfl rfl)
      · exact places_readContent type children stands
      · exact Run.ends_pure stands

theorem places_readSimpleContent (type : ComplexType) (elements : List Element)
    (stands : type.StandsIn context.targetNamespace) :
    Places context (ComplexType.StandsIn context.targetNamespace)
      (readSimpleContent context type elements) := by
  match elements with
  | [] =>
      rw [readSimpleContent]
      exact Run.ends_pure stands
  | ⟨name, attributes, children⟩ :: rest =>
      unfold readSimpleContent
      refine Run.Ends.bind (?_ : Places context (ComplexType.StandsIn context.targetNamespace) _)
        (fun type stands => places_readSimpleContent type rest stands)
      split
      · exact places_readContent _ children (stands.congr rfl rfl)
      · exact places_readContent _ children (stands.congr rfl rfl)
      · exact Run.ends_pure stands

theorem places_readGroup (elements : List Element) :
    Places context (fun particles => ∀ particle ∈ particles,
      Particle.StandsIn context.targetNamespace particle) (readGroup context elements) := by
  match elements with
  | [] =>
      rw [readGroup]
      exact Run.ends_pure (by simp)
  | ⟨name, attributes, children⟩ :: rest =>
      unfold readGroup
      refine Run.Ends.bind (?_ : Places context (fun particles => ∀ particle ∈ particles,
        Particle.StandsIn context.targetNamespace particle) _) (fun particles placed => ?_)
      · split
        · refine Run.Ends.bind (places_minOccursOf context _) (fun minOccurs _ => ?_)
          refine Run.Ends.bind (places_readInlineTypes children) (fun types placed => ?_)
          refine Run.ends_pure ?_
          intro particle member
          obtain rfl := List.mem_singleton.1 member
          exact ⟨rfl, fun inside last => placed inside (List.mem_of_getLast? last)⟩
        · exact places_readGroup children
        · exact Run.ends_pure (by simp)
      · refine Run.Ends.bind (places_readGroup rest) (fun others placedLater => ?_)
        refine Run.ends_pure ?_
        intro particle member
        rcases List.mem_append.1 member with first | later
        · exact placed particle first
        · exact placedLater particle later

theorem places_readInlineTypes (elements : List Element) :
    Places context (fun types => ∀ type ∈ types, type.StandsIn context.targetNamespace)
      (readInlineTypes context elements) := by
  match elements with
  | [] =>
      rw [readInlineTypes]
      exact Run.ends_pure (by simp)
  | ⟨name, _, children⟩ :: rest =>
      unfold readInlineTypes
      refine Run.Ends.bind (?_ : Places context (fun types => ∀ type ∈ types,
        ComplexType.StandsIn context.targetNamespace type) _) (fun types placed => ?_)
      · split
        · refine Run.Ends.bind (places_readContent _ children ?_) (fun type stands => ?_)
          · exact .of_elements rfl (by simp [emptyType])
          · refine Run.ends_pure ?_
            intro other member
            obtain rfl := List.mem_singleton.1 member
            exact stands
        · exact Run.ends_pure (by simp)
      · refine Run.Ends.bind (places_readInlineTypes rest) (fun others placedLater => ?_)
        refine Run.ends_pure ?_
        intro type member
        rcases List.mem_append.1 member with first | later
        · exact placed type first
        · exact placedLater type later

end

/-- All declarations of a schema stand in its own target namespace. -/
structure Placed (uri : Option String) (schema : Schema) : Prop where
  uri_eq : schema.targetNamespace = uri
  complexTypes : ∀ type ∈ schema.complexTypes, type.StandsIn uri
  elements : ∀ element ∈ schema.elements, ∀ type, element.complexType = some type →
    type.StandsIn uri

theorem places_readGlobalElement (element : Element) :
    Places context (fun global => ∀ type, global.complexType = some type →
      type.StandsIn context.targetNamespace) (readGlobalElement context element) := by
  unfold readGlobalElement
  refine Run.Ends.bind (places_readInlineTypes context element.children) (fun types placed => ?_)
  refine Run.ends_pure ?_
  intro type given
  obtain ⟨read, last, rfl⟩ := Option.map_eq_some_iff.1 given
  exact (placed read (List.mem_of_getLast? last)).congr rfl rfl

theorem places_readDeclaration (schema : Schema) (element : Element)
    (placed : Placed context.targetNamespace schema) :
    Places context (Placed context.targetNamespace) (readDeclaration context schema element) := by
  obtain ⟨uri_eq, complexTypes, elements⟩ := placed
  unfold readDeclaration
  dsimp only
  split
  · split
    · exact (Run.ends_report _).bind
        (fun _ _ => Run.ends_pure ⟨uri_eq, complexTypes, elements⟩)
    · refine Run.Ends.bind (places_readContent context _ _ ?_) (fun type stands => ?_)
      · exact .of_elements rfl (by simp [emptyType])
      · refine Run.ends_pure ⟨uri_eq, ?_, elements⟩
        intro other member
        rcases List.mem_append.1 member with before | here
        · exact complexTypes other before
        · obtain rfl := List.mem_singleton.1 here
          exact stands
  · split
    · exact (Run.ends_report _).bind
        (fun _ _ => Run.ends_pure ⟨uri_eq, complexTypes, elements⟩)
    · exact Run.ends_pure ⟨uri_eq, complexTypes, elements⟩
  · refine Run.Ends.bind (places_readGlobalElement context element) (fun global stands => ?_)
    refine Run.ends_pure ⟨uri_eq, complexTypes, ?_⟩
    intro other member
    rcases List.mem_append.1 member with before | here
    · exact elements other before
    · obtain rfl := List.mem_singleton.1 here
      exact stands
  · exact Run.ends_pure ⟨uri_eq, complexTypes, elements⟩

theorem places_readTopLevel (schema : Schema) (element : Element)
    (placed : Placed context.targetNamespace schema) :
    Places context (Placed context.targetNamespace) (readTopLevel context schema element) := by
  have noted : ∀ directives, Placed context.targetNamespace { schema with directives } :=
    fun _ => ⟨placed.uri_eq, placed.complexTypes, placed.elements⟩
  unfold readTopLevel
  split
  · dsimp only
    split
    · exact Run.ends_foldlM _ (places_readDeclaration context) (noted _)
    · exact Run.ends_pure (noted _)
    · exact Run.ends_pure (noted _)
  · exact places_readDeclaration context schema element placed

/-- A document yields a schema with all declarations in its namespace, or it has a fault. -/
theorem ends_ofDocument (path : FilePath) (document : Document) :
    (ofDocument path document).Ends
      (Placed (present? (document.root.attribute? "targetNamespace"))) (IsFault path) := by
  unfold ofDocument
  split
  · refine Run.ends_foldlM _ (places_readTopLevel ⟨path, _, _⟩) ⟨rfl, ?_, ?_⟩
    · intro type member
      simp at member
    · intro element member
      simp at member
  · exact Run.ends_fail ⟨_, rfl⟩

theorem present?_ne_empty (value : Option String) : present? value ≠ some "" := by
  unfold present?
  split
  · simp
  · assumption

end Schema

end SchemaBinding
