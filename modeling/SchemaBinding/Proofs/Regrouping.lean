import SchemaBinding.Proofs.Flattening
import SchemaBinding.Proofs.Reading

/-!
# Regrouping

Consecutive children of a group may be put into another group inside it, at any
depth of a document: what is read of the document stays the same.
-/

namespace SchemaBinding.Schema

open Xml

/-- One element is another one, with some children of a group in a group of their own. -/
inductive Regrouped : Element → Element → Prop where
  | here {name wrapper : ExpandedName} {attributes values : List (ExpandedName × String)}
      (before run after : List Element) (grouped : Construct.ofName name = .group)
      (wraps : Construct.ofName wrapper = .group) :
      Regrouped ⟨name, attributes, before ++ run ++ after⟩
        ⟨name, attributes, before ++ ⟨wrapper, values, run⟩ :: after⟩
  | inside {name : ExpandedName} {attributes : List (ExpandedName × String)}
      {child other : Element} (before after : List Element) (below : Regrouped child other) :
      Regrouped ⟨name, attributes, before ++ child :: after⟩
        ⟨name, attributes, before ++ other :: after⟩

variable {context : Context}

theorem readInlineTypes_append (first second : List Element) :
    readInlineTypes context (first ++ second) = do
      let types ← readInlineTypes context first
      let others ← readInlineTypes context second
      return types ++ others := by
  simp [readInlineTypes_eq_mapM]

structure ReadsSame (context : Context) (elements others : List Element) : Prop where
  visited : ∀ position index type,
    (visits position index elements).foldlM (readVisit context) type =
      (visits position index others).foldlM (readVisit context) type
  inlineTypes : readInlineTypes context elements = readInlineTypes context others
  simpleType : ∀ type, elements.foldl (deriveSimple context) type =
    others.foldl (deriveSimple context) type
  inlineSimpleType : inlineSimpleType? context elements = inlineSimpleType? context others
  enumerations : enumerationsOf elements = enumerationsOf others

/-- Elements that look the same from above; groups need to have the same members only. -/
structure LooksSame (context : Context) (element other : Element) : Prop where
  name : element.name = other.name
  attributes : element.attributes = other.attributes
  members : ∀ type, (visits .group 0 element.children).foldlM (readVisit context) type =
    (visits .group 0 other.children).foldlM (readVisit context) type
  inside : ¬ IsGroup element → ReadsSame context element.children other.children

namespace LooksSame

variable {element other : Element} (same : LooksSame context element other)
include same

theorem attribute? (name : String) : element.attribute? name = other.attribute? name := by
  unfold Element.attribute?
  rw [same.attributes]

theorem readVisit (address : Address) (role : Role) (type : ComplexType)
    (leaf : ¬ IsGroup element) :
    Schema.readVisit context type ⟨address, role, element⟩ =
      Schema.readVisit context type ⟨address, role, other⟩ := by
  have inside := same.inside leaf
  cases role with
  | particle =>
      simp only [Schema.readVisit, readParticle, minOccursOf, particleOf, same.attribute?,
        inside.inlineTypes, inside.inlineSimpleType]
  | attributeUse =>
      simp only [Schema.readVisit, readAttributeUse, attributeUseOf, same.attribute?,
        inside.inlineSimpleType]
  | base => simp only [Schema.readVisit, same.attribute?]
  | text => simp only [Schema.readVisit, same.attribute?]

theorem visited (position : Position) (index : Nat) (type : ComplexType) :
    (visits position index [element]).foldlM (Schema.readVisit context) type =
      (visits position index [other]).foldlM (Schema.readVisit context) type := by
  have leaf (role : Role) (gives : position.role? (Construct.ofName element.name) = some role) :
      ¬ IsGroup element := by
    intro grouped
    rw [IsGroup] at grouped
    rw [grouped] at gives
    cases position <;> cases gives
  have below (inner : Position)
      (enters : position.enter? (Construct.ofName element.name) = some inner) (type : ComplexType) :
      (visits inner 0 element.children).foldlM (Schema.readVisit context) type =
        (visits inner 0 other.children).foldlM (Schema.readVisit context) type := by
    by_cases grouped : IsGroup element
    · rw [IsGroup] at grouped
      rw [grouped] at enters
      cases position <;> cases enters
      all_goals exact same.members type
    · exact (same.inside grouped).visited inner 0 type
  have looks := same
  obtain ⟨name, attributes, children⟩ := element
  obtain ⟨otherName, otherAttributes, otherChildren⟩ := other
  obtain rfl : name = otherName := same.name
  rw [visits, visits, visits, visits, List.append_nil, List.append_nil, List.foldlM_append,
    List.foldlM_append]
  congr 1
  · cases gives : position.role? (Construct.ofName name) with
    | none => rfl
    | some role =>
        simp only [Option.map_some, Option.toList_some, List.foldlM_cons, List.foldlM_nil,
          looks.readVisit _ role type (leaf role gives)]
  · funext type
    cases enters : position.enter? (Construct.ofName name) with
    | none => rfl
    | some inner =>
        dsimp only
        rw [foldlM_below, foldlM_below]
        exact below inner enters type

theorem inlineTypes : readInlineTypes context [element] = readInlineTypes context [other] := by
  rw [readInlineTypes_eq_mapM, readInlineTypes_eq_mapM]
  by_cases written : Construct.ofName element.name = .complexType
  · have inside := same.inside (by simp [IsGroup, written])
    rw [List.filter_cons_of_pos (by simpa using written),
      List.filter_cons_of_pos (by simpa [← same.name] using written)]
    simp [readContent_eq_foldlM context 0, inside.visited]
  · rw [List.filter_cons_of_neg (by simpa using written),
      List.filter_cons_of_neg (by simpa [← same.name] using written)]

theorem deriveSimple (type : SimpleType) :
    Schema.deriveSimple context type element = Schema.deriveSimple context type other := by
  unfold Schema.deriveSimple
  rw [← same.name]
  split
  · next derives =>
      have inside := same.inside (by simp [IsGroup, derives])
      rw [same.attribute?, inside.enumerations]
  · rfl
  · rfl
  · rfl

end LooksSame

/-- Sequences that differ in one element, which looks the same, are read the same. -/
theorem ReadsSame.replace {element other : Element} (same : LooksSame context element other)
    (before after : List Element) :
    ReadsSame context (before ++ element :: after) (before ++ other :: after) where
  visited position index type := by
    change (visits position index (before ++ ([element] ++ after))).foldlM _ type =
      (visits position index (before ++ ([other] ++ after))).foldlM _ type
    simp only [visits_append, List.foldlM_append, same.visited, List.length_singleton]
  inlineTypes := by
    change readInlineTypes context (before ++ ([element] ++ after)) =
      readInlineTypes context (before ++ ([other] ++ after))
    simp only [readInlineTypes_append, same.inlineTypes]
  simpleType type := by
    rw [List.foldl_append, List.foldl_append, List.foldl_cons, List.foldl_cons, same.deriveSimple]
  inlineSimpleType := by
    have written :
        ([element].find? (fun child => Construct.ofName child.name = .simpleType)).map
            (fun child => simpleTypeOf context "" child.children) =
          ([other].find? (fun child => Construct.ofName child.name = .simpleType)).map
            (fun child => simpleTypeOf context "" child.children) := by
      rw [List.find?_singleton, List.find?_singleton, ← same.name]
      split
      · next declares =>
          have inside := same.inside (by simp_all [IsGroup])
          simp only [Option.map_some, simpleTypeOf, inside.simpleType]
      · rfl
    unfold inlineSimpleType?
    simp only [List.reverse_append, List.reverse_cons, List.find?_append, Option.map_or, written]
  enumerations := by
    unfold enumerationsOf
    rw [List.filter_append, List.filter_append, List.filter_cons, List.filter_cons, ← same.name]
    split
    · simp only [List.map_append, List.map_cons, same.attribute?]
    · rfl

/-- The members of a group stay the same when some of them are put into a group of their own. -/
theorem foldlM_visits_wrap {wrapper : ExpandedName} {values : List (ExpandedName × String)}
    (before run after : List Element) (wraps : Construct.ofName wrapper = .group)
    (type : ComplexType) :
    (visits .group 0 (before ++ run ++ after)).foldlM (readVisit context) type =
      (visits .group 0 (before ++ ⟨wrapper, values, run⟩ :: after)).foldlM (readVisit context)
        type := by
  have anywhere (elements : List Element) (first second : Nat) (type : ComplexType) :
      (visits .group first elements).foldlM (readVisit context) type =
        (visits .group second elements).foldlM (readVisit context) type := by
    rw [foldlM_visits_group, foldlM_visits_group]
  rw [visits_append, visits_append, visits_append, visits, wraps]
  simp only [Position.role?, Position.enter?, Option.map_none, Option.toList_none,
    List.nil_append, List.foldlM_append, foldlM_below, bind_assoc]
  congr 1
  funext type
  rw [anywhere run _ 0]
  congr 1
  funext type
  exact anywhere after _ _ type

theorem Regrouped.looksSame {element other : Element} (regrouped : Regrouped element other) :
    LooksSame context element other := by
  induction regrouped with
  | here before run after grouped wraps =>
      exact ⟨rfl, rfl, foldlM_visits_wrap before run after wraps,
        fun single => absurd grouped single⟩
  | inside before after below ih =>
      have same := ReadsSame.replace ih before after
      exact ⟨rfl, rfl, same.visited .group 0, fun _ => same⟩

/-- A complex type is read as before when children of a group below it are put into another one. -/
theorem readContent_regrouped {name : String} {node other : Element} (declares : ¬ IsGroup node)
    (regrouped : Regrouped node other) :
    readContent context (emptyType context name) other.children =
      readContent context (emptyType context name) node.children := by
  rw [readContent_eq_foldlM context 0, readContent_eq_foldlM context 0]
  exact ((regrouped.looksSame.inside declares).visited .content 0 _).symm

/-- The complex type that is read for a declaration, for all declarations. -/
structure Flattens (context : Context) (name : String) (node : Element) : Prop where
  /-- The type has the particles and the attributes of its content nodes, in document order. -/
  flattened : ∀ type,
    (readContent context (emptyType context name) node.children).outcome = .ok type →
      IsFlattening context node type
  /-- There is a type exactly if each of the particles can be read. -/
  reads_iff :
    (∃ type, (readContent context (emptyType context name) node.children).outcome = .ok type) ↔
      ∀ address element, ParticleAt node address element → IsReadable context element
  /-- What stands below a particle belongs to no content but that of the type inside it. -/
  apart : ∀ address rest element below, ParticleAt node address element →
    (ParticleAt node (address ++ rest) below ∨ AttributeAt node (address ++ rest) below) →
    rest = []
  /-- Putting children of a group into another group inside it changes nothing. -/
  regrouped : ∀ other, ¬ IsGroup node → Regrouped node other →
    readContent context (emptyType context name) other.children =
      readContent context (emptyType context name) node.children

/-- Every declaration of a complex type is read with each of its particles once, in order. -/
theorem readContent_flattens (context : Context) (name : String) (node : Element) :
    Flattens context name node where
  flattened _ read := isFlattening_of_readContent read
  reads_iff := exists_readContent_iff
  apart _ _ _ _ particle further := eq_nil_of_particleAt particle further
  regrouped _ declares regrouped := readContent_regrouped declares regrouped

/-- A type with groups in groups, a type inside a particle, a derivation and attributes. -/
def shelfElement : Element :=
  declaration "complexType" [] [
    declaration "sequence" [] [
      declaration "element" [("name", "board")] [],
      declaration "choice" [] [
        declaration "element" [("name", "nail")] [
          declaration "complexType" [] [
            declaration "all" [] [declaration "element" [("name", "head")] []]]],
        declaration "element" [("name", "screw")] []]],
    declaration "attribute" [("name", "width")] [],
    declaration "attribute" [("name", "color"), ("use", "prohibited")] [],
    declaration "complexContent" [] [
      declaration "extension" [("base", "Rack")] [
        declaration "sequence" [] [declaration "element" [("name", "hook")] []],
        declaration "attribute" [("name", "depth")] []]]]

theorem readContent_flattens_shelfElement :
    Flattens ⟨.ofString "shelf.xsd", none, []⟩ "Shelf" shelfElement ∧
      (readContent ⟨.ofString "shelf.xsd", none, []⟩
          (emptyType ⟨.ofString "shelf.xsd", none, []⟩ "Shelf") shelfElement.children).outcome.map
        (fun type => (type.elements.map (fun particle =>
            (particle.name, particle.complexType.map (·.elements.map Particle.name))),
          type.attributes.map AttributeUse.name)) =
      .ok ([("board", none), ("nail", some ["head"]), ("screw", none), ("hook", none)],
        ["width", "depth"]) :=
  ⟨readContent_flattens _ _ _, by decide +kernel⟩

end SchemaBinding.Schema
