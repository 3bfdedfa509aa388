import Mathlib.Logic.Relation
import SchemaBinding.Proofs.Namespaces
import SchemaBinding.Proofs.Resolution

/-!
# Inheritance

A class is linked to its base by the name of a class, and that name shows neither
the namespace of a type nor the characters that no identifier holds.  Each link
comes from an extension that some type of the schemas declares.  The links close
no circle where the names of classes tell the extended types apart and the
extensions themselves close none.
-/

namespace SchemaBinding

open Emission

def Acyclic {α : Type} (related : α → α → Prop) : Prop :=
  ∀ item, ¬ Relation.TransGen related item item

/-- A relation that always leads to a smaller rank is acyclic. -/
theorem acyclic_of_rank {α : Type} {related : α → α → Prop} (rank : α → Nat)
    (smaller : ∀ item other, related item other → rank other < rank item) : Acyclic related := by
  intro item circle
  have descends : ∀ {last}, Relation.TransGen related item last → rank last < rank item := by
    intro last path
    induction path with
    | single step => exact smaller _ _ step
    | tail _ step ih => exact Nat.lt_trans (smaller _ _ step) ih
  exact Nat.lt_irrefl _ (descends circle)

namespace Model

/-- A class of the given name is linked to a base of the other name. -/
def Inherits (model : Model) (name base : String) : Prop :=
  ∃ kept ∈ model.classes, kept.name = name ∧ kept.base = some base

end Model

namespace QName

/-- The namespace and the local name that a reference refers to; an empty namespace is none. -/
def expanded (name : QName) : Xml.ExpandedName :=
  ⟨Schema.present? name.uri, name.localName⟩

end QName

namespace Naming

def className (name : Xml.ExpandedName) : String :=
  typeName name.localPart

end Naming

open Naming

/--
A complex type of schemas with its expanded name, if it is declared, and the name
that a class is requested for it under.  A type inside a global element goes by
the name of the element, one inside a particle by the names of the particle and
of the type around it.
-/
inductive Candidate (schemas : List Schema) :
    Option Xml.ExpandedName → String → ComplexType → Prop where
  | declared {schema : Schema} {type : ComplexType} (known : schema ∈ schemas)
      (member : type ∈ schema.complexTypes) :
      Candidate schemas (some ⟨schema.targetNamespace, type.name⟩) type.name type
  | root {schema : Schema} {element : GlobalElement} {type : ComplexType}
      (known : schema ∈ schemas) (member : element ∈ schema.elements)
      (given : element.complexType = some type) : Candidate schemas none type.name type
  | inside {own : Option Xml.ExpandedName} {owner : String} {outer type : ComplexType}
      {particle : ElementParticle} (around : Candidate schemas own owner outer)
      (member : particle ∈ outer.elements) (given : particle.complexType = some type) :
      Candidate schemas none (synthesizedName owner particle.name) type

/-- Under an expanded name a complex type is declared that extends the type of another one. -/
def ExtendsName (schemas : List Schema) (name base : Xml.ExpandedName) : Prop :=
  ∃ schema ∈ schemas, ∃ type ∈ schema.complexTypes, ∃ reference,
    name = ⟨schema.targetNamespace, type.name⟩ ∧ type.base = some reference ∧
      base = reference.expanded

def ExtendsClass (schemas : List Schema) (own : Option Xml.ExpandedName) (name : String)
    (base : Xml.ExpandedName) : Prop :=
  ∃ type reference, Candidate schemas own name type ∧ type.base = some reference ∧
    base = reference.expanded ∧
    (Generator.modelOf (.ofSchemas schemas)).value.1.targetOf reference =
      .structural reference.localName

/-- A type that gets a class of the first name extends a type whose class has the other name. -/
def ExtendsClassName (schemas : List Schema) (name base : String) : Prop :=
  ∃ own original extended, ExtendsClass schemas own original extended ∧
    name = typeName original ∧ base = className extended

/--
A type that extends another one gets a class of the same name as an extended type
only if it is that type.
-/
def TellsExtendedApart (schemas : List Schema) : Prop :=
  ∀ own name base otherOwn otherName extended, ExtendsClass schemas own name base →
    ExtendsClass schemas otherOwn otherName extended → typeName name = className extended →
      own = some extended

namespace MergedType

/-- The base of a folded type is that of one of its definitions. -/
theorem exists_base_of_fold {first : ComplexType} {later : List ComplexType} {base : QName}
    (given : (fold first later).base = some base) :
    ∃ type ∈ first :: later, type.base = some base := by
  have ordered : FoldedFrom (priority first later) (fold first later) :=
    (foldedFrom_ofDefinition first).foldl later
  rw [ordered.base_eq] at given
  obtain ⟨type, member, holds⟩ := List.exists_of_findSome?_eq_some given
  exact ⟨type, (perm_priorityFrom (ofDefinition first) [first] later).mem_iff.1 member, holds⟩

end MergedType

variable {schemas : List Schema}

theorem Candidate.of_complexTypesNamed {name : String} {type : ComplexType}
    (member : type ∈ complexTypesNamed schemas name) : ∃ own, Candidate schemas own name type := by
  obtain ⟨schema, known, declared, rfl⟩ := exists_schema_of_complexTypesNamed member
  exact ⟨_, .declared known declared⟩

namespace Formed

variable {owner : MergedType}

/--
A type that a class is made for has each of its elements, and its base, from a
type of the schemas with a request under the same name.
-/
theorem exists_candidate (formed : Formed schemas owner) :
    (∀ particle ∈ owner.elements, ∃ own type, Candidate schemas own owner.name type ∧
      particle ∈ type.elements) ∧
    ∀ base, owner.base = some base → ∃ own type, Candidate schemas own owner.name type ∧
      type.base = some base := by
  induction formed with
  | @declared name first later named =>
      have defined : ∀ type ∈ first :: later, ∃ own,
          Candidate schemas own (MergedType.fold first later).name type := by
        intro type member
        obtain ⟨_, _, _, firstName⟩ := exists_schema_of_complexTypesNamed
          (named ▸ List.mem_cons_self : first ∈ complexTypesNamed schemas name)
        rw [MergedType.fold, MergedType.name_foldl]
        change ∃ own, Candidate schemas own first.name type
        rw [firstName]
        exact Candidate.of_complexTypesNamed (named ▸ member)
      constructor
      · intro particle inside
        obtain ⟨type, member, written⟩ :=
          (MergedType.exists_definition_of_fold first later).1 particle inside
        obtain ⟨own, candidate⟩ := defined type member
        exact ⟨own, type, candidate, written⟩
      · intro base given
        obtain ⟨type, member, derives⟩ := MergedType.exists_base_of_fold given
        obtain ⟨own, candidate⟩ := defined type member
        exact ⟨own, type, candidate, derives⟩
  | @root name element type first given =>
      obtain ⟨schema, known, member⟩ := exists_schema_of_firstElement first
      have candidate : Candidate schemas none type.name type := .root known member given
      exact ⟨fun _ written => ⟨none, type, candidate, written⟩,
        fun _ derives => ⟨none, type, candidate, derives⟩⟩
  | @inside outer particle type formed member given ih =>
      obtain ⟨own, around, candidate, written⟩ := ih.1 particle member
      have inner := candidate.inside written given
      exact ⟨fun _ written => ⟨none, type, inner, written⟩,
        fun _ derives => ⟨none, type, inner, derives⟩⟩

end Formed

/-- Each link between classes comes from an extension that some type declares. -/
theorem extendsClassName_of_inherits {name base : String}
    (linked : (Generator.modelOf (.ofSchemas schemas)).value.2.Inherits name base) :
    ExtendsClassName schemas name base := by
  obtain ⟨roots, entered, left, modelled⟩ := exists_modelled schemas
  obtain ⟨kept, member, rfl, link⟩ := linked
  obtain ⟨request, served, rfl⟩ := (modelled.mem_classes_iff kept).1 member
  obtain ⟨reference, given, chosen⟩ := Option.bind_eq_some_iff.1
    (link : baseNameOf _ request.type.base = some base)
  obtain ⟨own, type, candidate, derives⟩ :=
    (modelled.formed_of_served served).exists_candidate.2 reference given
  cases found : (Generator.modelOf (.ofSchemas schemas)).value.1.targetOf reference with
  | structural target =>
      obtain ⟨rfl, _⟩ := Catalog.targetOf_eq_structural found
      rw [found] at chosen
      exact ⟨own, request.type.name, reference.expanded,
        ⟨type, reference, candidate, derives, rfl, found⟩, rfl, (Option.some.inj chosen).symm⟩
  | primitive kind =>
      rw [found] at chosen
      cases chosen
  | enumeration target =>
      rw [found] at chosen
      cases chosen

theorem ExtendsClass.extendsName {own base : Xml.ExpandedName} {requested : String}
    (derives : ExtendsClass schemas (some own) requested base) :
    ExtendsName schemas own base := by
  obtain ⟨type, reference, candidate, given, rfl, _⟩ := derives
  cases candidate with
  | declared known member => exact ⟨_, known, type, member, reference, rfl, given, rfl⟩

/--
A path between names of classes begins at a type that extends another one and ends
at an extended type.  If the first type is declared, extensions lead from its name
to that of the last one.
-/
theorem exists_path_of_extendsClassName (apart : TellsExtendedApart schemas)
    {name base : String} (path : Relation.TransGen (ExtendsClassName schemas) name base) :
    ∃ own original next otherOwn otherOriginal extended,
      ExtendsClass schemas own original next ∧ name = typeName original ∧
      ExtendsClass schemas otherOwn otherOriginal extended ∧ base = className extended ∧
      ∀ declared, own = some declared →
        Relation.TransGen (ExtendsName schemas) declared extended := by
  induction path with
  | single step =>
      obtain ⟨own, original, extended, derives, rfl, rfl⟩ := step
      refine ⟨own, original, extended, own, original, extended, derives, rfl, derives, rfl, ?_⟩
      rintro declared rfl
      exact .single derives.extendsName
  | tail _ step ih =>
      obtain ⟨own, original, next, otherOwn, otherOriginal, extended, first, named, last, rfl,
        follows⟩ := ih
      obtain ⟨stepOwn, stepOriginal, further, derives, same, rfl⟩ := step
      -- The class that the path has come to is that of the extended type and of no other one.
      obtain rfl : stepOwn = some extended := apart _ _ _ _ _ _ derives last same.symm
      refine ⟨own, original, next, _, stepOriginal, further, first, named, derives, rfl, ?_⟩
      intro declared equal
      exact (follows declared equal).tail derives.extendsName

theorem TellsExtendedApart.acyclic (apart : TellsExtendedApart schemas)
    (acyclic : Acyclic (ExtendsName schemas)) : Acyclic (ExtendsClassName schemas) := by
  intro name circle
  obtain ⟨own, original, next, otherOwn, otherOriginal, extended, first, named, last, closed,
    follows⟩ := exists_path_of_extendsClassName apart circle
  have back : own = some extended := apart _ _ _ _ _ _ first last (named.symm.trans closed)
  exact acyclic extended (follows extended back)

/--
No class of a model inherits from itself, over any number of links, if the
extensions close no circle between names of classes.  They close none where they
close none between expanded names and the names of classes tell the extended
types apart from the types that extend others.
-/
theorem acyclic_inherits (schemas : List Schema) :
    (Acyclic (ExtendsClassName schemas) →
      Acyclic (Generator.modelOf (.ofSchemas schemas)).value.2.Inherits) ∧
    (Acyclic (ExtendsName schemas) → TellsExtendedApart schemas →
      Acyclic (Generator.modelOf (.ofSchemas schemas)).value.2.Inherits) := by
  have linked : Acyclic (ExtendsClassName schemas) →
      Acyclic (Generator.modelOf (.ofSchemas schemas)).value.2.Inherits := by
    intro acyclic name circle
    exact acyclic name (Relation.TransGen.mono (fun _ _ => extendsClassName_of_inherits) _ _ circle)
  exact ⟨linked, fun acyclic apart => linked (apart.acyclic acyclic)⟩

section Plain

/-- No schema has global elements or types inside particles. -/
def IsPlain (schemas : List Schema) : Prop :=
  ∀ schema ∈ schemas, schema.elements.isEmpty = true ∧
    ∀ type ∈ schema.complexTypes, ∀ particle ∈ type.elements,
      particle.complexType.isNone = true

theorem Candidate.exists_declared (plain : IsPlain schemas) {own : Option Xml.ExpandedName}
    {name : String} {type : ComplexType} (candidate : Candidate schemas own name type) :
    ∃ schema ∈ schemas, type ∈ schema.complexTypes ∧
      own = some ⟨schema.targetNamespace, type.name⟩ ∧ name = type.name := by
  induction candidate with
  | declared known member => exact ⟨_, known, member, rfl, rfl⟩
  | root known member given =>
      rw [List.isEmpty_iff.1 (plain _ known).1] at member
      cases member
  | inside _ member given ih =>
      obtain ⟨schema, known, declared, _, _⟩ := ih
      have none := (plain schema known).2 _ declared _ member
      rw [given] at none
      cases none

theorem tellsExtendedApart_of_plain (plain : IsPlain schemas)
    (apart : ∀ schema ∈ schemas, ∀ type ∈ schema.complexTypes,
      ∀ other ∈ schemas, ∀ otherType ∈ other.complexTypes, ∀ reference ∈ otherType.base,
        typeName type.name = className reference.expanded → type.base.isSome = true →
          reference.expanded = ⟨schema.targetNamespace, type.name⟩) :
    TellsExtendedApart schemas := by
  intro own name base otherOwn otherName extended derives otherDerives same
  obtain ⟨type, _, candidate, given, _, _⟩ := derives
  obtain ⟨otherType, reference, otherCandidate, otherGiven, rfl, _⟩ := otherDerives
  obtain ⟨schema, known, declared, rfl, rfl⟩ := candidate.exists_declared plain
  obtain ⟨other, otherKnown, otherDeclared, _, _⟩ := otherCandidate.exists_declared plain
  rw [apart schema known type declared other otherKnown otherType otherDeclared reference
    otherGiven same (by rw [given]; rfl)]

theorem acyclic_extendsName_of_rank (rank : Xml.ExpandedName → Nat)
    (smaller : ∀ schema ∈ schemas, ∀ type ∈ schema.complexTypes, ∀ reference ∈ type.base,
      rank reference.expanded < rank ⟨schema.targetNamespace, type.name⟩) :
    Acyclic (ExtendsName schemas) := by
  refine acyclic_of_rank rank ?_
  rintro name base ⟨schema, known, type, declared, reference, rfl, given, rfl⟩
  exact smaller schema known type declared reference given

end Plain

def extending (name base : String) : Xml.Element :=
  Schema.declaration "complexType" [("name", name)] [
    Schema.declaration "complexContent" [] [
      Schema.declaration "extension" [("base", base)] []]]

/-- The document of a schema with a target namespace and a label for another namespace. -/
def lampDocument (uri : String) (declarations : List Xml.Element) : Xml.Document where
  root := Schema.declaration "schema" [("targetNamespace", uri)] declarations
  bindings := [("b", "urn:b")]

/-- A schema with two extensions, one of which leads to another namespace. -/
def benchSchema : Schema :=
  (Schema.ofDocument? (.ofString "bench.xsd") (lampDocument "urn:a" [
    extending "Bench" "b:Table",
    Schema.declaration "complexType" [("name", "Top")] []])).getD default

def tableSchema : Schema :=
  (Schema.ofDocument? (.ofString "table.xsd") (lampDocument "urn:b" [
    extending "Table" "b:Thing", Schema.declaration "complexType" [("name", "Thing")] []])).getD
    default

theorem acyclic_inherits_benchSchema :
    Acyclic (ExtendsClassName [benchSchema, tableSchema]) ∧
      Acyclic (ExtendsName [benchSchema, tableSchema]) ∧
      TellsExtendedApart [benchSchema, tableSchema] ∧
      Acyclic (Generator.modelOf (.ofSchemas [benchSchema, tableSchema])).value.2.Inherits ∧
      (Generator.modelOf (.ofSchemas [benchSchema, tableSchema])).value.2.classes.map
          (fun kept => (kept.name, kept.base)) =
        [("Bench", some "Table"), ("Top", none), ("Table", some "Thing"), ("Thing", none)] := by
  have plain : IsPlain [benchSchema, tableSchema] := by
    unfold IsPlain
    decide +kernel
  have acyclic : Acyclic (ExtendsName [benchSchema, tableSchema]) :=
    acyclic_extendsName_of_rank
      (fun name =>
        if name.localPart = "Bench" then 2 else if name.localPart = "Table" then 1 else 0)
      (by decide +kernel)
  have apart : TellsExtendedApart [benchSchema, tableSchema] :=
    tellsExtendedApart_of_plain plain (by decide +kernel)
  have inherits := (acyclic_inherits [benchSchema, tableSchema]).2 acyclic apart
  exact ⟨apart.acyclic acyclic, acyclic, apart, inherits, by decide +kernel⟩

/-- Extensions that close no circle although a class inherits from itself. -/
structure LoopsUnnoticed (schemas : List Schema) (name : String) : Prop where
  read : ∀ schema ∈ schemas, schema.IsRead
  redefines : ∀ schema ∈ schemas, ∀ directive ∈ schema.directives, directive.kind ≠ .redefining
  acyclic : Acyclic (ExtendsName schemas)
  loop : (Generator.modelOf (.ofSchemas schemas)).value.2.Inherits name name

/-- A schema with a lamp that extends the lamp of another namespace. -/
def floorLampSchema : Schema :=
  (Schema.ofDocument? (.ofString "floor.xsd") (lampDocument "urn:a" [
    extending "Lamp" "b:Lamp"])).getD default

def plainLampSchema : Schema :=
  (Schema.ofDocument? (.ofString "plain.xsd") (lampDocument "urn:b" [
    Schema.declaration "complexType" [("name", "Lamp")] []])).getD default

/-- A schema with two lamps of which the names make one identifier. -/
def dottedLampSchema : Schema :=
  (Schema.ofDocument? (.ofString "dotted.xsd") (lampDocument "urn:b" [
    extending "Lamp-x" "b:Lamp.x",
    Schema.declaration "complexType" [("name", "Lamp.x")] []])).getD default

/-- A schema with a type that is called like the class for a type inside an element. -/
def bulbLampSchema : Schema :=
  (Schema.ofDocument? (.ofString "bulb.xsd") (lampDocument "urn:b" [
    Schema.declaration "complexType" [("name", "Lamp")] [
      Schema.declaration "sequence" [] [
        Schema.declaration "element" [("name", "bulb")] [
          Schema.declaration "complexType" [] [
            Schema.declaration "complexContent" [] [
              Schema.declaration "extension" [("base", "b:Lamp_bulbType")] []]]]]],
    Schema.declaration "complexType" [("name", "Lamp_bulbType")] []])).getD default

/-- Neither namespaces nor characters nor the types inside elements are told apart by a link. -/
theorem loopsUnnoticed_lampSchemas :
    LoopsUnnoticed [floorLampSchema, plainLampSchema] "Lamp" ∧
      LoopsUnnoticed [dottedLampSchema] "Lamp_x" ∧
      LoopsUnnoticed [bulbLampSchema] "Lamp_bulbType" := by
  have loop : ∀ {schemas : List Schema} {name : String},
      (∃ kept ∈ (Generator.modelOf (.ofSchemas schemas)).value.2.classes,
        kept.name = name ∧ kept.base = some name) →
      (Generator.modelOf (.ofSchemas schemas)).value.2.Inherits name name := id
  have floor : LoopsUnnoticed [floorLampSchema, plainLampSchema] "Lamp" := {
    read := by
      intro schema member
      rcases List.mem_pair.1 member with rfl | rfl
      · exact Schema.isRead_getD_ofDocument? (by decide +kernel)
      · exact Schema.isRead_getD_ofDocument? (by decide +kernel)
    redefines := by decide +kernel
    acyclic := acyclic_extendsName_of_rank
      (fun name => if name.uri = some "urn:a" then 1 else 0) (by decide +kernel)
    loop := loop (by decide +kernel) }
  have dotted : LoopsUnnoticed [dottedLampSchema] "Lamp_x" := {
    read := by
      intro schema member
      obtain rfl := List.mem_singleton.1 member
      exact Schema.isRead_getD_ofDocument? (by decide +kernel)
    redefines := by decide +kernel
    acyclic := acyclic_extendsName_of_rank
      (fun name => if name.localPart = "Lamp-x" then 1 else 0) (by decide +kernel)
    loop := loop (by decide +kernel) }
  have bulb : LoopsUnnoticed [bulbLampSchema] "Lamp_bulbType" := {
    read := by
      intro schema member
      obtain rfl := List.mem_singleton.1 member
      exact Schema.isRead_getD_ofDocument? (by decide +kernel)
    redefines := by decide +kernel
    acyclic := acyclic_extendsName_of_rank (fun _ => 0) (by decide +kernel)
    loop := loop (by decide +kernel) }
  exact ⟨floor, dotted, bulb⟩

end SchemaBinding
