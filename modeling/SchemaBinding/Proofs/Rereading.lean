import SchemaBinding.Proofs.Correspondence
import SchemaBinding.Schema.Reading

/-!
# Reading alike documents

Two documents of which one lacks annotations of the other are read alike, step by
step: the runs report the same, fail alike, and what they return differs in
nothing but the namespaces that the documents give to the labels of names.
-/

namespace SchemaBinding

open Xml

namespace Run

variable {α β γ δ : Type} {related : α → β → Prop}

/-- Two runs report the same and fail alike; what they return is related. -/
inductive Alike (related : α → β → Prop) : Run α → Run β → Prop where
  | returns {records : List Record} {value : α} {other : β} (holds : related value other) :
      Alike related ⟨records, .ok value⟩ ⟨records, .ok other⟩
  | fails (records : List Record) (failure : Failure) :
      Alike related ⟨records, .error failure⟩ ⟨records, .error failure⟩

theorem alike_pure {value : α} {other : β} (holds : related value other) :
    Alike related (pure value) (pure other) :=
  .returns holds

theorem Alike.imp_of_ok {derived : α → β → Prop} {run : Run α} {other : Run β}
    (alike : Alike related run other)
    (more : ∀ value otherValue, run.outcome = .ok value → other.outcome = .ok otherValue →
      related value otherValue → derived value otherValue) : Alike derived run other := by
  cases alike with
  | returns holds => exact .returns (more _ _ rfl rfl holds)
  | fails records failure => exact .fails records failure

/-- What one run returns, the other one returns alike. -/
theorem Alike.exists_ok {run : Run α} {other : Run β} (alike : Alike related run other) {value : α}
    (returned : run.outcome = .ok value) :
    ∃ otherValue, other.outcome = .ok otherValue ∧ related value otherValue := by
  cases alike with
  | returns holds =>
      cases returned
      exact ⟨_, rfl, holds⟩
  | fails records failure => cases returned

theorem alike_same (run : Run α) : Alike Eq run run := by
  obtain ⟨records, outcome⟩ := run
  cases outcome with
  | ok value => exact .returns rfl
  | error failure => exact .fails records failure

theorem Alike.bind {derived : γ → δ → Prop} {first : Run α} {second : Run β}
    {next : α → Run γ} {otherNext : β → Run δ} (start : Alike related first second)
    (step : ∀ value other, related value other → Alike derived (next value) (otherNext other)) :
    Alike derived (first >>= next) (second >>= otherNext) := by
  cases start with
  | @returns records value other holds =>
      have after := step value other holds
      show Alike derived
        ⟨records ++ (next value).records, (next value).outcome⟩
        ⟨records ++ (otherNext other).records, (otherNext other).outcome⟩
      generalize next value = run at after ⊢
      generalize otherNext other = otherRun at after ⊢
      cases after with
      | returns holds => exact .returns holds
      | fails later failure => exact .fails _ failure
  | fails records failure => exact .fails records failure

end Run

namespace Schema

def annotationName : ExpandedName :=
  ⟨some xsdNamespace, "annotation"⟩

theorem ofName_annotationName : Construct.ofName annotationName = .other := by
  decide

variable (shown : Element → Prop)

/--
The elements of the second list, each of which is shown, are those of the first one
without annotations, at any depth.
-/
inductive Trimmed : List Element → List Element → Prop where
  | nil : Trimmed [] []
  | drop {attributes : List (ExpandedName × String)} {children rest others : List Element}
      (after : Trimmed rest others) :
      Trimmed (⟨annotationName, attributes, children⟩ :: rest) others
  | keep {name : ExpandedName} {attributes : List (ExpandedName × String)}
      {children otherChildren rest others : List Element}
      (isShown : shown ⟨name, attributes, otherChildren⟩)
      (inside : Trimmed children otherChildren) (after : Trimmed rest others) :
      Trimmed (⟨name, attributes, children⟩ :: rest) (⟨name, attributes, otherChildren⟩ :: others)

structure TrimmedTo (element other : Element) : Prop where
  name_eq : element.name = other.name
  attributes_eq : element.attributes = other.attributes
  children : Trimmed shown element.children other.children
  isShown : shown other

variable {shown}

theorem TrimmedTo.attribute?_eq {element other : Element} (trimmed : TrimmedTo shown element other)
    (name : String) : element.attribute? name = other.attribute? name := by
  unfold Element.attribute?
  rw [trimmed.attributes_eq]

theorem Trimmed.refl (every : ∀ element, shown element) (elements : List Element) :
    Trimmed shown elements elements :=
  @Element.rec_1 (fun element => Trimmed shown element.children element.children)
    (fun elements => Trimmed shown elements elements) (fun _ _ _ inside => inside) .nil
    (fun element _ inside after => by
      cases element
      exact .keep (every _) inside after) elements

/-- Declarations of one construct, which are no annotations, are kept in their order. -/
theorem Trimmed.filter {elements others : List Element} (trimmed : Trimmed shown elements others)
    {construct : Construct} (declares : construct ≠ .other) :
    List.Forall₂ (TrimmedTo shown)
      (elements.filter (fun element => Construct.ofName element.name = construct))
      (others.filter (fun element => Construct.ofName element.name = construct)) := by
  induction trimmed with
  | nil => exact .nil
  | drop after ih =>
      rw [List.filter_cons_of_neg (by simpa [ofName_annotationName] using declares.symm)]
      exact ih
  | @keep name attributes children otherChildren rest others isShown inside after _ ih =>
      by_cases same : Construct.ofName name = construct
      · rw [List.filter_cons_of_pos (by simpa using same),
          List.filter_cons_of_pos (by simpa using same)]
        exact .cons ⟨rfl, rfl, inside, isShown⟩ ih
      · rw [List.filter_cons_of_neg (by simpa using same),
          List.filter_cons_of_neg (by simpa using same)]
        exact ih

/-- The attributes whose values are names of declarations. -/
def referenceKeys : List String := ["type", "base", "ref"]

/-- Two contexts give related names to each reference of the elements that are shown. -/
def Context.Refer (context other : Context) (shown : Element → Prop)
    (related : QName → QName → Prop) : Prop :=
  ∀ element, shown element → Construct.ofName element.name ≠ .other → ∀ key ∈ referenceKeys,
    Option.Rel related (context.reference? (element.attribute? key))
      (other.reference? (element.attribute? key))

/-- Contexts of documents that are alike: the names that one reference spells correspond. -/
structure Context.Alike (names : Correspondence) (shown : Element → Prop)
    (context other : Context) : Prop where
  source_eq : context.source = other.source
  targetNamespace_eq : context.targetNamespace = other.targetNamespace
  types : context.Refer other shown names.types
  elements : context.Refer other shown names.elements
  attributes : context.Refer other shown names.attributes

variable {names : Correspondence} {context otherContext : Context}

/-- A label never changes the local name. -/
theorem localName_qualify_eq (text : List Char) :
    (context.qualify text).localName = (otherContext.qualify text).localName := by
  unfold Context.qualify
  split
  · cases context.uriOf? _ <;> cases otherContext.uriOf? _ <;> rfl
  · rfl

theorem nameOr_reference?_eq (name value : Option String) :
    nameOr name (context.reference? value) = nameOr name (otherContext.reference? value) := by
  have same : (context.reference? value).map QName.localName =
      (otherContext.reference? value).map QName.localName := by
    unfold Context.reference?
    rw [Option.map_map, Option.map_map]
    exact Option.map_congr fun text _ => localName_qualify_eq _
  unfold nameOr
  rw [same]

theorem enumerationsOf_eq {children others : List Element}
    (trimmed : Trimmed shown children others) :
    enumerationsOf children = enumerationsOf others := by
  have each := trimmed.filter (show Construct.enumeration ≠ .other by decide)
  unfold enumerationsOf
  generalize children.filter _ = kept at each ⊢
  generalize others.filter _ = otherKept at each ⊢
  induction each with
  | nil => rfl
  | cons first _ ih => rw [List.map_cons, List.map_cons, ih, first.attribute?_eq]

variable (alike : context.Alike names shown otherContext)
include alike

theorem alike_deriveSimple {type other : SimpleType} (same : type.Alike names other)
    {child otherChild : Element} (trimmed : TrimmedTo shown child otherChild) :
    (deriveSimple context type child).Alike names (deriveSimple otherContext other otherChild) := by
  unfold deriveSimple
  rw [← trimmed.name_eq]
  split
  · next restricts =>
      refine { same with variety_eq := rfl, base := ?_, enumerations_eq := ?_ }
      · rw [trimmed.attribute?_eq]
        rw [trimmed.name_eq] at restricts
        exact alike.types _ trimmed.isShown (by simp [restricts]) "base" (by decide)
      · exact enumerationsOf_eq trimmed.children
  · exact { same with variety_eq := rfl }
  · exact { same with variety_eq := rfl }
  · exact same

theorem alike_simpleTypeOf (name : String) {children others : List Element}
    (trimmed : Trimmed shown children others) :
    (simpleTypeOf context name children).Alike names (simpleTypeOf otherContext name others) := by
  have start : SimpleType.Alike names
      { name, targetNamespace := context.targetNamespace, source := some context.source }
      { name, targetNamespace := otherContext.targetNamespace,
        source := some otherContext.source } :=
    ⟨rfl, rfl, .none, rfl, alike.targetNamespace_eq, congrArg some alike.source_eq⟩
  unfold simpleTypeOf
  generalize SimpleType.mk name .restriction none [] context.targetNamespace _ = type at start ⊢
  generalize SimpleType.mk name .restriction none [] otherContext.targetNamespace _ = other
    at start ⊢
  induction trimmed generalizing type other with
  | nil => exact start
  | drop after ih =>
      rw [List.foldl_cons, deriveSimple, ofName_annotationName]
      exact ih _ _ start
  | @keep word attributes children otherChildren _ _ isShown inside after _ ih =>
      have tag : TrimmedTo shown ⟨word, attributes, children⟩ ⟨word, attributes, otherChildren⟩ :=
        ⟨rfl, rfl, inside, isShown⟩
      exact ih _ _ (alike_deriveSimple alike start tag)

theorem alike_inlineSimpleType? {children others : List Element}
    (trimmed : Trimmed shown children others) :
    Option.Rel (SimpleType.Alike names) (inlineSimpleType? context children)
      (inlineSimpleType? otherContext others) := by
  have last := optionRel_getLast? (trimmed.filter (show Construct.simpleType ≠ .other by decide))
  unfold inlineSimpleType?
  rw [← List.head?_filter, ← List.head?_filter, List.filter_reverse, List.filter_reverse,
    ← List.getLast?_eq_head?_reverse, ← List.getLast?_eq_head?_reverse]
  generalize (children.filter _).getLast? = kept at last ⊢
  generalize (others.filter _).getLast? = otherKept at last ⊢
  exact optionRel_map last fun _ _ same => alike_simpleTypeOf alike "" same.children

section Trimmed

variable {element other : Element} (trimmed : TrimmedTo shown element other)
include trimmed

theorem alike_attributeUseOf (known : Construct.ofName other.name ≠ .other) :
    (attributeUseOf context element).Alike names (attributeUseOf otherContext other) := by
  unfold attributeUseOf
  simp only [trimmed.attribute?_eq]
  exact ⟨nameOr_reference?_eq _ _, alike.types _ trimmed.isShown known "type" (by decide),
    alike_inlineSimpleType? alike trimmed.children,
    alike.attributes _ trimmed.isShown known "ref" (by decide), rfl⟩

theorem alike_readAttributeUse (known : Construct.ofName other.name ≠ .other) :
    Run.Alike (List.Forall₂ (AttributeUse.Alike names)) (readAttributeUse context element)
      (readAttributeUse otherContext other) := by
  unfold readAttributeUse
  simp only [trimmed.attribute?_eq, alike.source_eq]
  split
  · exact (Run.alike_same _).bind fun _ _ _ => Run.alike_pure .nil
  · exact Run.alike_pure (.cons (alike_attributeUseOf alike trimmed known) .nil)

theorem minOccursOf_eq : minOccursOf context element = minOccursOf otherContext other := by
  unfold minOccursOf
  rw [trimmed.attribute?_eq, alike.source_eq]

theorem alike_particleOf (known : Construct.ofName other.name ≠ .other) (minOccurs : Int)
    {types otherTypes : Option ComplexType}
    (inner : Option.Rel (ComplexType.Alike names) types otherTypes) :
    Particle.Alike names { particleOf context element minOccurs with complexType := types }
      { particleOf otherContext other minOccurs with complexType := otherTypes } := by
  unfold particleOf
  simp only [trimmed.attribute?_eq]
  refine ⟨⟨nameOr_reference?_eq _ _, alike.types _ trimmed.isShown known "type" (by decide),
    alike_inlineSimpleType? alike trimmed.children,
    alike.elements _ trimmed.isShown known "ref" (by decide), rfl,
    rfl, alike.targetNamespace_eq, ?_⟩, inner⟩
  cases inner <;> rfl

end Trimmed

theorem alike_emptyType (name : String) :
    (emptyType context name).Alike names (emptyType otherContext name) :=
  .of_elements ⟨rfl, .nil, .none, .none, alike.targetNamespace_eq, congrArg some alike.source_eq⟩
    .nil

omit alike

structure ReadsAlike (names : Correspondence) (context otherContext : Context)
    (elements others : List Element) : Prop where
  content : ∀ {type other : ComplexType}, type.Alike names other →
    Run.Alike (ComplexType.Alike names) (readContent context type elements)
      (readContent otherContext other others)
  complexContent : ∀ {type other : ComplexType}, type.Alike names other →
    Run.Alike (ComplexType.Alike names) (readComplexContent context type elements)
      (readComplexContent otherContext other others)
  simpleContent : ∀ {type other : ComplexType}, type.Alike names other →
    Run.Alike (ComplexType.Alike names) (readSimpleContent context type elements)
      (readSimpleContent otherContext other others)
  group : Run.Alike (List.Forall₂ (Particle.Alike names)) (readGroup context elements)
    (readGroup otherContext others)
  inlineTypes : Run.Alike (List.Forall₂ (ComplexType.Alike names))
    (readInlineTypes context elements) (readInlineTypes otherContext others)

namespace ReadsAlike

theorem nil : ReadsAlike names context otherContext [] [] := by
  constructor
  case content =>
    intro type other same
    rw [readContent, readContent]
    exact Run.alike_pure same
  case complexContent =>
    intro type other same
    rw [readComplexContent, readComplexContent]
    exact Run.alike_pure same
  case simpleContent =>
    intro type other same
    rw [readSimpleContent, readSimpleContent]
    exact Run.alike_pure same
  case group =>
    rw [readGroup, readGroup]
    exact Run.alike_pure .nil
  case inlineTypes =>
    rw [readInlineTypes, readInlineTypes]
    exact Run.alike_pure .nil

/-- Annotations are passed over. -/
theorem drop {attributes : List (ExpandedName × String)} {children rest others : List Element}
    (after : ReadsAlike names context otherContext rest others) :
    ReadsAlike names context otherContext (⟨annotationName, attributes, children⟩ :: rest)
      others := by
  constructor
  case content =>
    intro type other same
    rw [readContent, ofName_annotationName]
    simp only [pure_bind]
    exact after.content same
  case complexContent =>
    intro type other same
    rw [readComplexContent, ofName_annotationName]
    simp only [pure_bind]
    exact after.complexContent same
  case simpleContent =>
    intro type other same
    rw [readSimpleContent, ofName_annotationName]
    simp only [pure_bind]
    exact after.simpleContent same
  case group =>
    rw [readGroup, ofName_annotationName]
    simp only [pure_bind, List.nil_append, bind_pure]
    exact after.group
  case inlineTypes =>
    rw [readInlineTypes, ofName_annotationName]
    simp only [pure_bind, List.nil_append, bind_pure]
    exact after.inlineTypes

section Keep

variable (alike : context.Alike names shown otherContext)
variable {name : ExpandedName} {attributes : List (ExpandedName × String)}
variable {children otherChildren rest others : List Element}
variable (isShown : shown ⟨name, attributes, otherChildren⟩)
variable (trimmed : Trimmed shown children otherChildren)
variable (inside : ReadsAlike names context otherContext children otherChildren)
variable (after : ReadsAlike names context otherContext rest others)
include alike isShown trimmed inside after

theorem keep_content {type other : ComplexType} (same : type.Alike names other) :
    Run.Alike (ComplexType.Alike names)
      (readContent context type (⟨name, attributes, children⟩ :: rest))
      (readContent otherContext other (⟨name, attributes, otherChildren⟩ :: others)) := by
  have tag : TrimmedTo shown ⟨name, attributes, children⟩ ⟨name, attributes, otherChildren⟩ :=
    ⟨rfl, rfl, trimmed, isShown⟩
  rw [readContent, readContent]
  refine Run.Alike.bind (?_ : Run.Alike (ComplexType.Alike names) _ _) fun _ _ => after.content
  split
  · refine inside.group.bind fun particles otherParticles each => Run.alike_pure ?_
    exact .of_elements { same.outside with } (List.rel_append same.elements each)
  · next declares =>
      refine (alike_readAttributeUse alike tag (by simp [declares])).bind
        fun uses otherUses each => Run.alike_pure ?_
      exact .of_elements { same.outside with
        attributes := List.rel_append same.outside.attributes each } same.elements
  · exact inside.complexContent same
  · exact inside.simpleContent same
  · exact Run.alike_pure same

omit trimmed in
theorem keep_complexContent {type other : ComplexType} (same : type.Alike names other) :
    Run.Alike (ComplexType.Alike names)
      (readComplexContent context type (⟨name, attributes, children⟩ :: rest))
      (readComplexContent otherContext other (⟨name, attributes, otherChildren⟩ :: others)) := by
  rw [readComplexContent, readComplexContent]
  refine Run.Alike.bind (?_ : Run.Alike (ComplexType.Alike names) _ _)
    fun _ _ => after.complexContent
  split
  · next derives =>
      refine inside.content (.of_elements { same.outside with base := ?_ } same.elements)
      exact alike.types _ isShown (by simp [derives]) "base" (by decide)
  · exact inside.content same
  · exact Run.alike_pure same

omit trimmed in
theorem keep_simpleContent {type other : ComplexType} (same : type.Alike names other) :
    Run.Alike (ComplexType.Alike names)
      (readSimpleContent context type (⟨name, attributes, children⟩ :: rest))
      (readSimpleContent otherContext other (⟨name, attributes, otherChildren⟩ :: others)) := by
  have text (known : Construct.ofName name ≠ .other) : Option.Rel names.types
      (context.reference? (Element.attribute? ⟨name, attributes, []⟩ "base"))
      (otherContext.reference? (Element.attribute? ⟨name, attributes, []⟩ "base")) :=
    alike.types _ isShown known "base" (by decide)
  rw [readSimpleContent, readSimpleContent]
  refine Run.Alike.bind (?_ : Run.Alike (ComplexType.Alike names) _ _)
    fun _ _ => after.simpleContent
  split
  · next derives =>
      exact inside.content
        (.of_elements { same.outside with text := text (by simp [derives]) } same.elements)
  · next derives =>
      exact inside.content
        (.of_elements { same.outside with text := text (by simp [derives]) } same.elements)
  · exact Run.alike_pure same

theorem keep_group :
    Run.Alike (List.Forall₂ (Particle.Alike names))
      (readGroup context (⟨name, attributes, children⟩ :: rest))
      (readGroup otherContext (⟨name, attributes, otherChildren⟩ :: others)) := by
  have tag : TrimmedTo shown ⟨name, attributes, children⟩ ⟨name, attributes, otherChildren⟩ :=
    ⟨rfl, rfl, trimmed, isShown⟩
  rw [readGroup, readGroup]
  refine Run.Alike.bind (?_ : Run.Alike (List.Forall₂ (Particle.Alike names)) _ _)
    fun particles otherParticles each => after.group.bind
      fun more otherMore eachMore => Run.alike_pure (List.rel_append each eachMore)
  split
  · next declares =>
      rw [minOccursOf_eq alike tag]
      refine (Run.alike_same _).bind ?_
      rintro minOccurs _ rfl
      refine inside.inlineTypes.bind fun types otherTypes each => Run.alike_pure ?_
      exact .cons
        (alike_particleOf alike tag (by simp [declares]) minOccurs (optionRel_getLast? each)) .nil
  · exact inside.group
  · exact Run.alike_pure .nil

omit isShown trimmed in
theorem keep_inlineTypes :
    Run.Alike (List.Forall₂ (ComplexType.Alike names))
      (readInlineTypes context (⟨name, attributes, children⟩ :: rest))
      (readInlineTypes otherContext (⟨name, attributes, otherChildren⟩ :: others)) := by
  rw [readInlineTypes, readInlineTypes]
  refine Run.Alike.bind (?_ : Run.Alike (List.Forall₂ (ComplexType.Alike names)) _ _)
    fun types otherTypes each => after.inlineTypes.bind
      fun more otherMore eachMore => Run.alike_pure (List.rel_append each eachMore)
  split
  · refine (inside.content (alike_emptyType alike "")).bind fun type otherType same => ?_
    exact Run.alike_pure (.cons same .nil)
  · exact Run.alike_pure .nil

theorem keep : ReadsAlike names context otherContext (⟨name, attributes, children⟩ :: rest)
    (⟨name, attributes, otherChildren⟩ :: others) where
  content := keep_content alike isShown trimmed inside after
  complexContent := keep_complexContent alike isShown inside after
  simpleContent := keep_simpleContent alike isShown inside after
  group := keep_group alike isShown trimmed inside after
  inlineTypes := keep_inlineTypes alike inside after

end Keep

end ReadsAlike

variable (alike : context.Alike names shown otherContext)
include alike

theorem Trimmed.readsAlike {elements others : List Element}
    (trimmed : Trimmed shown elements others) :
    ReadsAlike names context otherContext elements others := by
  induction trimmed with
  | nil => exact .nil
  | drop after ih => exact ih.drop
  | keep isShown inside after ihInside ihAfter => exact .keep alike isShown inside ihInside ihAfter

omit alike

theorem alike_foldlM {σ τ : Type} {related : σ → τ → Prop} {step : σ → Element → Run σ}
    {otherStep : τ → Element → Run τ}
    (passes : ∀ state attributes children,
      step state ⟨annotationName, attributes, children⟩ = pure state)
    (steps : ∀ {element otherElement}, TrimmedTo shown element otherElement →
      ∀ {state other}, related state other →
        Run.Alike related (step state element) (otherStep other otherElement))
    {elements others : List Element} (trimmed : Trimmed shown elements others) {state : σ}
    {other : τ} (start : related state other) :
    Run.Alike related (elements.foldlM step state) (others.foldlM otherStep other) := by
  induction trimmed generalizing state other with
  | nil => exact Run.alike_pure start
  | drop after ih =>
      rw [List.foldlM_cons, passes, pure_bind]
      exact ih start
  | @keep word attributes children otherChildren _ _ isShown inside after _ ih =>
      have tag : TrimmedTo shown ⟨word, attributes, children⟩ ⟨word, attributes, otherChildren⟩ :=
        ⟨rfl, rfl, inside, isShown⟩
      rw [List.foldlM_cons, List.foldlM_cons]
      exact (steps tag start).bind fun _ _ => ih

include alike

section Declarations

variable {element other : Element} (trimmed : TrimmedTo shown element other)
include trimmed

theorem alike_readGlobalElement (known : Construct.ofName other.name ≠ .other) :
    Run.Alike (GlobalElement.Alike names) (readGlobalElement context element)
      (readGlobalElement otherContext other) := by
  unfold readGlobalElement
  simp only [trimmed.attribute?_eq]
  refine (trimmed.children.readsAlike alike).inlineTypes.bind fun types otherTypes each => ?_
  refine Run.alike_pure ⟨rfl, alike.types _ trimmed.isShown known "type" (by decide), ?_,
    alike.targetNamespace_eq, congrArg some alike.source_eq⟩
  refine optionRel_map (optionRel_getLast? each) fun type otherType same => ?_
  exact .of_elements { same.outside with name_eq := rfl } same.elements

theorem alike_readDeclaration {schema otherSchema : Schema}
    (same : schema.Alike names otherSchema) :
    Run.Alike (Schema.Alike names) (readDeclaration context schema element)
      (readDeclaration otherContext otherSchema other) := by
  unfold readDeclaration
  simp only [trimmed.attribute?_eq, trimmed.name_eq, alike.source_eq]
  split
  · split
    · exact (Run.alike_same _).bind fun _ _ _ => Run.alike_pure same
    · refine ((trimmed.children.readsAlike alike).content (alike_emptyType alike _)).bind
        fun type otherType each => Run.alike_pure ?_
      exact { same with complexTypes := List.rel_append same.complexTypes (.cons each .nil) }
  · split
    · exact (Run.alike_same _).bind fun _ _ _ => Run.alike_pure same
    · refine Run.alike_pure { same with simpleTypes := List.rel_append same.simpleTypes ?_ }
      exact .cons (alike_simpleTypeOf alike _ trimmed.children) .nil
  · next declares =>
      refine (alike_readGlobalElement alike trimmed (by simp [declares])).bind
        fun global otherGlobal each => Run.alike_pure ?_
      exact { same with elements := List.rel_append same.elements (.cons each .nil) }
  · exact Run.alike_pure same

theorem alike_readTopLevel {schema otherSchema : Schema} (same : schema.Alike names otherSchema) :
    Run.Alike (Schema.Alike names) (readTopLevel context schema element)
      (readTopLevel otherContext otherSchema other) := by
  unfold readTopLevel
  rw [← trimmed.name_eq]
  split
  · next kind _ =>
      have directive : directiveOf kind element = directiveOf kind other := by
        unfold directiveOf
        rw [trimmed.attribute?_eq, trimmed.attribute?_eq]
      have more : Schema.Alike names
          { schema with directives := schema.directives ++ [directiveOf kind element] }
          { otherSchema with directives := otherSchema.directives ++ [directiveOf kind other] } :=
        { same with directives_eq := by rw [same.directives_eq, directive] }
      cases kind with
      | redefining =>
          refine alike_foldlM ?_ (alike_readDeclaration alike) trimmed.children more
          intro state attributes children
          rw [readDeclaration, ofName_annotationName]
      | importing => exact Run.alike_pure more
      | including => exact Run.alike_pure more
  · exact alike_readDeclaration alike trimmed same

end Declarations

omit alike

def contextOf (path : FilePath) (document : Document) : Context where
  source := path
  targetNamespace := present? (document.root.attribute? "targetNamespace")
  namespaces := firstBindings document.bindings

/-- Two documents are read alike if one is the other one without annotations. -/
theorem alike_ofDocument {path : FilePath} {document other : Document}
    (trimmed : TrimmedTo shown document.root other.root)
    (alike : (contextOf path document).Alike names shown (contextOf path other)) :
    Run.Alike (Schema.Alike names) (ofDocument path document) (ofDocument path other) := by
  unfold ofDocument
  rw [← trimmed.name_eq]
  split
  · refine alike_foldlM ?_ (alike_readTopLevel alike) trimmed.children ?_
    · intro state attributes children
      rw [readTopLevel, ofName_annotationName]
      dsimp only
      rw [readDeclaration, ofName_annotationName]
    · exact ⟨rfl, alike.targetNamespace_eq, .nil, .nil, .nil, rfl⟩
  · exact .fails [] _

end Schema

end SchemaBinding
