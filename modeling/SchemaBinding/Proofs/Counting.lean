import SchemaBinding.Proofs.Occurrences
import SchemaBinding.Proofs.ScopedSchemas

/-!
# Counted schemas

A document is read exactly if each of its particles writes a number of occurrences.
Then the particles of the schema have the numbers that are written; otherwise the
failure tells what the first particle without a number writes in its place.
-/

namespace SchemaBinding

open Xml Schema

mutual

/-- The particles of a complex type have the numbers that those of its declaration write. -/
inductive ComplexType.HasCounts : Element → ComplexType → Prop where
  | intro {declaration : Element} {type : ComplexType} {entries : List (Address × Element)}
      (listed : Lists (ParticleAt declaration) entries)
      (counted : List.Forall₂ (fun entry particle => Particle.HasCounts entry.2 particle) entries
        type.elements) : ComplexType.HasCounts declaration type

inductive Particle.HasCounts : Element → ElementParticle → Prop where
  | intro {element : Element} {particle : ElementParticle} {values : List Nat}
      (counts : Counts element values particle.minOccurs)
      (optional_iff : particle.isOptional = true ↔ ∀ value ∈ values, value = 0)
      (inside : Option.Rel ComplexType.HasCounts (lastComplexType? element) particle.complexType) :
      Particle.HasCounts element particle

end

def GlobalElement.HasCounts (declaration : Element) (global : GlobalElement) : Prop :=
  Option.Rel ComplexType.HasCounts (lastComplexType? declaration) global.complexType

namespace Schema

/-- The declarations that a child of the root element makes; a redefinition makes several. -/
def declarationsIn (child : Element) : List Element :=
  if Construct.ofName child.name = .directive .redefining then child.children else [child]

def declarationsOf (root : Element) : List Element :=
  root.children.flatMap declarationsIn

def declaresType (declaration : Element) : Bool :=
  Construct.ofName declaration.name = .complexType &&
    (present? (declaration.attribute? "name")).isSome

def declaresElement (declaration : Element) : Bool :=
  Construct.ofName declaration.name = .element

/-- The particles of a schema have the numbers that those of the document write. -/
structure HasCounts (root : Element) (schema : Schema) : Prop where
  complexTypes : List.Forall₂ ComplexType.HasCounts ((declarationsOf root).filter declaresType)
    schema.complexTypes
  elements : List.Forall₂ GlobalElement.HasCounts ((declarationsOf root).filter declaresElement)
    schema.elements

end Schema

theorem ComplexType.HasCounts.renamed {declaration : Element} {type : ComplexType}
    (counts : type.HasCounts declaration) (name : String) :
    ComplexType.HasCounts declaration { type with name } := by
  cases counts with
  | intro listed counted => exact .intro listed counted

namespace Schema

variable {context : Context}

theorem isOptional_iff {element : Element} {particle : ElementParticle} {values : List Nat}
    (counts : Counts element values particle.minOccurs) :
    particle.isOptional = true ↔ ∀ value ∈ values, value = 0 := by
  obtain ⟨text, _, written, _⟩ := counts
  rw [← written.eq_zero_iff, Particle.isOptional, beq_iff_eq]

theorem sizeOf_lt_of_particleAt {node element : Element} {address : Address}
    (particle : ParticleAt node address element) : sizeOf element < sizeOf node :=
  (visitedAt_particle_iff.2 particle).sizeOf_lt.trans (sizeOf_children_lt node)

theorem hasCounts_of_readContent {node : Element} {name : String} {type : ComplexType}
    (read : (readContent context (emptyType context name) node.children).outcome = .ok type) :
    ComplexType.HasCounts node type := by
  obtain ⟨entries, listed, each⟩ := (isFlattening_of_readContent read).elements
  have among (entry : Address × Element) (member : entry ∈ entries) :
      ParticleAt node entry.1 entry.2 := (listed.complete _ _).1 member
  refine .intro listed (((List.forall₂_and_left _ _).2 ⟨among, each⟩).imp ?_)
  rintro ⟨address, element⟩ particle ⟨here, isParticle⟩
  obtain ⟨values, counts⟩ := minOccursOf_eq_ok_iff.1 isParticle.minOccurs
  refine .intro counts (isOptional_iff counts) ?_
  have inside := isParticle.inside
  generalize particle.complexType = held at inside ⊢
  cases last : lastComplexType? element with
  | none =>
      rw [last] at inside
      cases inside
      exact .none
  | some child =>
      rw [last] at inside
      cases inside with
      | some read => exact .some (hasCounts_of_readContent read)
termination_by sizeOf node
decreasing_by
  have outer : sizeOf element < sizeOf node := sizeOf_lt_of_particleAt here
  have inner := List.sizeOf_lt_of_mem (List.mem_filter.1 (List.mem_of_getLast? last)).1
  have spread := sizeOf_children_lt element
  omega

theorem hasCounts_of_readGlobalElement {declaration : Element} {global : GlobalElement}
    (read : (readGlobalElement context declaration).outcome = .ok global) :
    GlobalElement.HasCounts declaration global := by
  obtain ⟨types, inside, same⟩ := Run.outcome_bind_eq_ok.1 read
  obtain rfl := Except.ok.inj same
  have last : Option.Rel
      (fun child type =>
        (readContent context (emptyType context "") child.children).outcome = .ok type)
      (lastComplexType? declaration) types.getLast? :=
    optionRel_getLast? (outcome_readInlineTypes_eq_ok.1 inside)
  unfold GlobalElement.HasCounts
  dsimp only
  generalize lastComplexType? declaration = child at last ⊢
  generalize types.getLast? = held at last ⊢
  cases last with
  | none => exact .none
  | some read => exact .some ((hasCounts_of_readContent read).renamed _)

structure Declares (found : List Element) (schema result : Schema) : Prop where
  complexTypes : ∃ types, List.Forall₂ ComplexType.HasCounts (found.filter declaresType) types ∧
    result.complexTypes = schema.complexTypes ++ types
  elements : ∃ globals,
    List.Forall₂ GlobalElement.HasCounts (found.filter declaresElement) globals ∧
      result.elements = schema.elements ++ globals

/-- Where nothing is declared that has particles, the types and the elements stay the same. -/
theorem Declares.of_none {found : List Element} {schema result : Schema}
    (no_type : ∀ declaration ∈ found, declaresType declaration = false)
    (no_element : ∀ declaration ∈ found, declaresElement declaration = false)
    (complexTypes_eq : result.complexTypes = schema.complexTypes)
    (elements_eq : result.elements = schema.elements) : Declares found schema result := by
  constructor
  · refine ⟨[], ?_, by rw [complexTypes_eq, List.append_nil]⟩
    rw [List.filter_eq_nil_iff.2 (by simpa using no_type)]
    exact .nil
  · refine ⟨[], ?_, by rw [elements_eq, List.append_nil]⟩
    rw [List.filter_eq_nil_iff.2 (by simpa using no_element)]
    exact .nil

theorem Declares.trans {first second : List Element} {schema middle result : Schema}
    (one : Declares first schema middle) (other : Declares second middle result) :
    Declares (first ++ second) schema result := by
  obtain ⟨⟨types, typeCounts, types_eq⟩, ⟨globals, counts, globals_eq⟩⟩ := one
  obtain ⟨⟨moreTypes, moreTypeCounts, moreTypes_eq⟩, ⟨more, moreCounts, more_eq⟩⟩ := other
  constructor
  · rw [List.filter_append]
    refine ⟨types ++ moreTypes, List.rel_append typeCounts moreTypeCounts, ?_⟩
    rw [moreTypes_eq, types_eq, List.append_assoc]
  · rw [List.filter_append]
    refine ⟨globals ++ more, List.rel_append counts moreCounts, ?_⟩
    rw [more_eq, globals_eq, List.append_assoc]

theorem declares_of_foldlM (found : Element → List Element)
    {step : Schema → Element → Run Schema}
    (each : ∀ item schema next, (step schema item).outcome = .ok next →
      Declares (found item) schema next) {items : List Element} {schema result : Schema}
    (read : (items.foldlM step schema).outcome = .ok result) :
    Declares (items.flatMap found) schema result := by
  refine Run.relates_of_foldlM (fun items => Declares (items.flatMap found))
    (fun schema => .of_none (by simp) (by simp) rfl rfl) ?_ read
  intro item rest schema middle result here later
  exact (each item schema middle here).trans later

theorem declares_of_readDeclaration {schema next : Schema} {declaration : Element}
    (read : (readDeclaration context schema declaration).outcome = .ok next) :
    Declares [declaration] schema next := by
  unfold readDeclaration at read
  dsimp only at read
  split at read
  · next declares =>
      have no_element : declaresElement declaration = false := by simp [declaresElement, declares]
      split at read
      · next unnamed =>
          obtain rfl := Except.ok.inj read
          exact .of_none (by simp [declaresType, unnamed]) (by simp [no_element]) rfl rfl
      · next name named =>
          obtain ⟨type, content, same⟩ := Run.outcome_bind_eq_ok.1 read
          obtain rfl := Except.ok.inj same
          refine ⟨⟨[type], ?_, rfl⟩, ⟨[], by simp [no_element], (List.append_nil _).symm⟩⟩
          rw [List.filter_cons_of_pos (by simp [declaresType, declares, named]), List.filter_nil]
          exact .cons (hasCounts_of_readContent content) .nil
  · next declares =>
      have no_type : declaresType declaration = false := by simp [declaresType, declares]
      have no_element : declaresElement declaration = false := by simp [declaresElement, declares]
      split at read
      · obtain rfl := Except.ok.inj read
        exact .of_none (by simp [no_type]) (by simp [no_element]) rfl rfl
      · obtain rfl := Except.ok.inj read
        exact .of_none (by simp [no_type]) (by simp [no_element]) rfl rfl
  · next declares =>
      obtain ⟨global, content, same⟩ := Run.outcome_bind_eq_ok.1 read
      obtain rfl := Except.ok.inj same
      refine ⟨⟨[], by simp [declaresType, declares], (List.append_nil _).symm⟩,
        ⟨[global], ?_, rfl⟩⟩
      rw [List.filter_cons_of_pos (by simp [declaresElement, declares]), List.filter_nil]
      exact .cons (hasCounts_of_readGlobalElement content) .nil
  · next no_type _ no_element =>
      obtain rfl := Except.ok.inj read
      refine .of_none ?_ ?_ rfl rfl
      · rintro _ member
        obtain rfl := List.mem_singleton.1 member
        exact Bool.and_eq_false_imp.2 fun declares => absurd (of_decide_eq_true declares) no_type
      · rintro _ member
        obtain rfl := List.mem_singleton.1 member
        exact decide_eq_false no_element

theorem declares_of_readTopLevel {schema next : Schema} {child : Element}
    (read : (readTopLevel context schema child).outcome = .ok next) :
    Declares (declarationsIn child) schema next := by
  unfold declarationsIn
  unfold readTopLevel at read
  split at read
  · next kind directs =>
      have no_type : declaresType child = false := by simp [declaresType, directs]
      have no_element : declaresElement child = false := by simp [declaresElement, directs]
      cases kind with
      | redefining =>
          rw [if_pos directs]
          have added := declares_of_foldlM (fun declaration => [declaration])
            (fun _ _ _ => declares_of_readDeclaration) read
          rw [List.flatMap_singleton'] at added
          exact ⟨added.complexTypes, added.elements⟩
      | importing =>
          obtain rfl := Except.ok.inj read
          rw [if_neg (by simp [directs])]
          exact .of_none (by simpa using no_type) (by simpa using no_element) rfl rfl
      | including =>
          obtain rfl := Except.ok.inj read
          rw [if_neg (by simp [directs])]
          exact .of_none (by simpa using no_type) (by simpa using no_element) rfl rfl
  · next undirected =>
      rw [if_neg (undirected _)]
      exact declares_of_readDeclaration read

theorem checks_ofDocument {path : FilePath} {document : Document}
    (declares : Construct.ofName document.root.name = .schema) :
    Checks (contextOf path document) (WrittenAt document.root)
      (ofDocument path document).outcome := by
  rw [ofDocument, if_pos declares]
  exact (Checks.children TopLevelAt (fun child _ schema => checks_readTopLevel schema child) _).congr
    fun _ _ => writtenAt_iff.symm

theorem hasCounts_of_ofDocument {path : FilePath} {document : Document} {schema : Schema}
    (read : (ofDocument path document).outcome = .ok schema) : schema.HasCounts document.root := by
  have each (child : Element) (schema next : Schema)
      (read : (readTopLevel (contextOf path document) schema child).outcome = .ok next) :
      Declares (declarationsIn child) schema next := declares_of_readTopLevel read
  unfold ofDocument at read
  split at read
  · obtain ⟨⟨types, counts, types_eq⟩, ⟨globals, globalCounts, globals_eq⟩⟩ :=
      declares_of_foldlM declarationsIn each read
    constructor
    · rw [types_eq]
      exact counts
    · rw [globals_eq]
      exact globalCounts
  · cases read

/-- How reading a document ends, by the numbers of occurrences that its particles write. -/
structure ReadsCounts (path : FilePath) (root : Element) (outcome : Except Failure Schema) :
    Prop where
  reads_iff : (∃ schema, outcome = .ok schema) ↔
    ∀ address element, WrittenAt root address element → IsCounted element
  counted : ∀ schema, outcome = .ok schema → schema.HasCounts root
  fails : ∀ failure, outcome = .error failure → ∃ address element text,
    WrittenAt root address element ∧ Miscounts element text ∧
      (∀ earlier other, WrittenAt root earlier other → earlier < address → IsCounted other) ∧
      failure = .schema path (.occurrence (String.ofList text)) ∧
      failure.message =
        path.toString ++ ": invalid minOccurs value " ++ Text.quoted (String.ofList text)

/--
A document of the schema language is read exactly if all of its particles write numbers.
The numbers are in the schema then; otherwise the first particle without one is reported.
-/
theorem readsCounts_ofBytes {origin : Origin} {path : FilePath} {bytes : List UInt8}
    {document : Document} (spelled : Document.ofBytes origin bytes = .ok document)
    (declares : Construct.ofName document.root.name = .schema) :
    ReadsCounts path document.root (ofBytes origin path bytes).outcome := by
  have checks : Checks (contextOf path document) (WrittenAt document.root)
      (ofDocument path document).outcome := checks_ofDocument declares
  have counted (schema : Schema) (returned : (ofDocument path document).outcome = .ok schema) :
      schema.HasCounts document.root := hasCounts_of_ofDocument returned
  rw [ofBytes, spelled]
  dsimp only
  generalize (ofDocument path document).outcome = outcome at checks counted ⊢
  refine ⟨?reads, counted, ?fails⟩
  case reads =>
    cases checks with
    | succeeds all => exact iff_of_true ⟨_, rfl⟩ all
    | fails here miscounts first =>
        refine iff_of_false ?_ fun all => miscounts.2 (all _ _ here)
        rintro ⟨schema, impossible⟩
        cases impossible
  case fails =>
    rintro failure rfl
    cases checks with
    | fails here miscounts first =>
        exact ⟨_, _, _, here, miscounts, first, rfl, rfl⟩

/-- A schema with a particle in the type of another one, and the numbers that both write. -/
def bulbText (outer inner : String) : String :=
  "<s:schema xmlns:s='http://www.w3.org/2001/XMLSchema'><s:complexType name='Lamp'><s:sequence>" ++
    "<s:element name='bulb' minOccurs='" ++ outer ++ "'><s:complexType><s:all>" ++
    "<s:element name='wire' minOccurs='" ++ inner ++ "'/></s:all></s:complexType></s:element>" ++
    "<s:element name='shade' minOccurs='+'/></s:sequence></s:complexType></s:schema>"

/-- The number of the first particle is one; the particle inside it is the first without any. -/
theorem readsCounts_bulbText : ∃ document,
    Document.ofBytes .text (Text.Utf8.encode (bulbText " -٠_0 " "1__0").toList) = .ok document ∧
      Construct.ofName document.root.name = .schema ∧
      ReadsCounts (.ofString "lamp.xsd") document.root
        (ofText (.ofString "lamp.xsd") (bulbText " -٠_0 " "1__0")).outcome ∧
      (ofText (.ofString "lamp.xsd") (bulbText " -٠_0 " "1__0")).outcome.map Schema.references =
        .error (.schema (.ofString "lamp.xsd") (.occurrence "1__0")) := by
  have told : (Document.ofBytes .text
      (Text.Utf8.encode (bulbText " -٠_0 " "1__0").toList)).toOption.map
        (fun document => (Construct.ofName document.root.name,
          (ofDocument (.ofString "lamp.xsd") document).outcome.map Schema.references)) =
      some (.schema, .error (.schema (.ofString "lamp.xsd") (.occurrence "1__0"))) := by
    unfold bulbText
    simp only [String.toList_append, String.reduceToList]
    decide +kernel
  obtain ⟨document, read, same⟩ := Option.map_eq_some_iff.1 told
  obtain ⟨declares, outcome⟩ := Prod.mk.inj same
  have spelled := eq_ok_of_toOption read
  refine ⟨document, spelled, declares, readsCounts_ofBytes spelled declares, ?_⟩
  rw [ofText, ofBytes, spelled]
  exact outcome

end Schema

end SchemaBinding
