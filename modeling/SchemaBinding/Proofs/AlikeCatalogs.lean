import SchemaBinding.Proofs.Readings

/-!
# Catalogues of alike schemas

Schemas that are alike are registered under the same names.  If corresponding
names are moreover read alike, that is as the same builtin type or as the same
declaration, then everything that is resolved and merged is the same, and the
same is reported.
-/

namespace SchemaBinding

namespace Logged

variable {α β γ δ : Type} {related : α → β → Prop}

/-- Two computations report the same, and their values are related. -/
structure Alike (related : α → β → Prop) (first : Logged α) (second : Logged β) : Prop where
  records_eq : first.records = second.records
  value : related first.value second.value

theorem alike_pure {value : α} {other : β} (holds : related value other) :
    Alike related (pure value) (pure other) :=
  ⟨rfl, holds⟩

theorem alike_same (logged : Logged α) : Alike Eq logged logged :=
  ⟨rfl, rfl⟩

theorem Alike.eq {first second : Logged α} (alike : Alike Eq first second) : first = second := by
  obtain ⟨records, value⟩ := first
  obtain ⟨rfl, rfl⟩ := alike
  rfl

theorem Alike.bind {derived : γ → δ → Prop} {first : Logged α} {second : Logged β}
    {next : α → Logged γ} {otherNext : β → Logged δ} (start : Alike related first second)
    (step : ∀ value other, related value other → Alike derived (next value) (otherNext other)) :
    Alike derived (first >>= next) (second >>= otherNext) := by
  have after := step _ _ start.value
  refine ⟨?_, after.value⟩
  show first.records ++ (next first.value).records =
    second.records ++ (otherNext second.value).records
  rw [start.records_eq, after.records_eq]

theorem alike_foldlM {σ τ : Type} {kept : σ → τ → Prop} {step : σ → α → Logged σ}
    {otherStep : τ → β → Logged τ}
    {items : List α} {others : List β} (each : List.Forall₂ related items others) {state : σ}
    {other : τ} (start : kept state other)
    (steps : ∀ item other, related item other → ∀ state otherState, kept state otherState →
      Alike kept (step state item) (otherStep otherState other)) :
    Alike kept (items.foldlM step state) (others.foldlM otherStep other) := by
  induction each generalizing state other with
  | nil => exact alike_pure start
  | cons first _ ih =>
      rw [List.foldlM_cons, List.foldlM_cons]
      exact (steps _ _ first _ _ start).bind fun _ _ => ih

end Logged

section Keyed

variable {α β : Type} {related : α → β → Prop}

/-- Pairs of one key with related values. -/
structure Keyed (related : α → β → Prop) (pair : String × α) (other : String × β) : Prop where
  key_eq : pair.1 = other.1
  value : related pair.2 other.2

theorem optionRel_find?_key {pairs : List (String × α)} {others : List (String × β)}
    (each : List.Forall₂ (Keyed related) pairs others) (key : String) :
    Option.Rel related ((pairs.find? (·.1 == key)).map Prod.snd)
      ((others.find? (·.1 == key)).map Prod.snd) := by
  induction each with
  | nil => exact .none
  | @cons pair other rest otherRest first _ ih =>
      rw [List.find?_cons, List.find?_cons, first.key_eq]
      cases other.1 == key with
      | true => exact .some first.value
      | false => exact ih

end Keyed

structure Definitions.Alike {α β : Type} (related : α → β → Prop) (definitions : Definitions α)
    (other : Definitions β) : Prop where
  first : related definitions.first other.first
  later : List.Forall₂ related definitions.later other.later

namespace Registry

variable {α β : Type} {related : α → β → Prop}

def Alike (related : α → β → Prop) (registry : Registry α) (other : Registry β) : Prop :=
  List.Forall₂ (Keyed (Definitions.Alike related)) registry.entries other.entries

theorem alike_appendTo {name : String} {definition : α} {otherDefinition : β}
    (more : related definition otherDefinition) {entries : List (String × Definitions α)}
    {others : List (String × Definitions β)}
    (each : List.Forall₂ (Keyed (Definitions.Alike related)) entries others) :
    List.Forall₂ (Keyed (Definitions.Alike related)) (appendTo name definition entries)
      (appendTo name otherDefinition others) := by
  induction each with
  | nil => exact .cons ⟨rfl, more, .nil⟩ .nil
  | @cons entry other rest otherRest same after ih =>
      rw [appendTo, appendTo, same.key_eq]
      split
      · refine .cons ⟨rfl, same.value.first, ?_⟩ after
        exact List.rel_append same.value.later (.cons more .nil)
      · exact .cons same ih

theorem alike_appendAll {nameOf : α → String} {otherNameOf : β → String}
    (named : ∀ item other, related item other → nameOf item = otherNameOf other)
    {items : List α} {others : List β} (each : List.Forall₂ related items others)
    {registry : Registry α} {other : Registry β} (alike : registry.Alike related other) :
    (registry.appendAll nameOf items).Alike related (other.appendAll otherNameOf others) := by
  induction each generalizing registry other with
  | nil => exact alike
  | @cons item otherItem rest otherRest same _ ih =>
      have more : (registry.append (nameOf item) item).Alike related
          (other.append (otherNameOf otherItem) otherItem) := by
        rw [← named _ _ same]
        exact alike_appendTo same alike
      exact ih more

theorem alike_ofList {nameOf : α → String} {otherNameOf : β → String}
    (named : ∀ item other, related item other → nameOf item = otherNameOf other)
    {items : List α} {others : List β} (each : List.Forall₂ related items others) :
    (ofList nameOf items).Alike related (ofList otherNameOf others) :=
  alike_appendAll named each .nil

variable {registry : Registry α} {other : Registry β} (alike : registry.Alike related other)
include alike

theorem Alike.definitions? (name : String) :
    Option.Rel (Definitions.Alike related) (registry.definitions? name)
      (other.definitions? name) :=
  optionRel_find?_key alike name

theorem Alike.contains_eq (name : String) : registry.contains name = other.contains name :=
  isSome_eq_of_optionRel (alike.definitions? name)

theorem Alike.first? (name : String) :
    Option.Rel related (registry.first? name) (other.first? name) :=
  optionRel_map (alike.definitions? name) fun _ _ same => same.first

end Registry

namespace MergedType

structure Alike (names : Correspondence) (type other : MergedType) : Prop where
  name_eq : type.name = other.name
  elements : List.Forall₂ (Particle.Alike names) type.elements other.elements
  attributes : List.Forall₂ (AttributeUse.Alike names) type.attributes other.attributes
  base : Option.Rel names.types type.base other.base
  text : Option.Rel names.types type.text other.text
  targetNamespace_eq : type.targetNamespace = other.targetNamespace
  sources_eq : type.sources = other.sources

variable {names : Correspondence}

theorem alike_ofDefinition {type other : ComplexType} (alike : type.Alike names other) :
    (ofDefinition type).Alike names (ofDefinition other) where
  name_eq := alike.outside.name_eq
  elements := alike.elements
  attributes := alike.outside.attributes
  base := alike.outside.base
  text := alike.outside.text
  targetNamespace_eq := alike.outside.targetNamespace_eq
  sources_eq := congrArg Option.toList alike.outside.source_eq

theorem forall₂_mergeByName {α β : Type} {related : α → β → Prop} {nameOf : α → String}
    {otherNameOf : β → String}
    (named : ∀ item other, related item other → nameOf item = otherNameOf other)
    {items : List α} {others : List β} (each : List.Forall₂ related items others)
    {lead : List α} {otherLead : List β} (leads : List.Forall₂ related lead otherLead) :
    List.Forall₂ related (mergeByName nameOf lead items)
      (mergeByName otherNameOf otherLead others) := by
  induction each generalizing lead otherLead with
  | nil => exact leads
  | cons first _ ih =>
      have taken : lead.map nameOf = otherLead.map otherNameOf :=
        List.forall₂_eq_eq_eq ▸ List.rel_map named leads
      rw [mergeByName, mergeByName, taken, named _ _ first]
      split
      · exact ih leads
      · exact ih (List.rel_append leads (.cons first .nil))

theorem optionRel_or {α β : Type} {related : α → β → Prop} {first second : Option α}
    {otherFirst otherSecond : Option β} (before : Option.Rel related first otherFirst)
    (after : Option.Rel related second otherSecond) :
    Option.Rel related (first.or second) (otherFirst.or otherSecond) := by
  cases before with
  | none => exact after
  | some holds => exact .some holds

theorem Alike.combine {lead other otherLead otherOther : MergedType}
    (leads : lead.Alike names otherLead) (others : other.Alike names otherOther) (name : String)
    (sources : List FilePath) :
    (lead.combine other name sources).Alike names (otherLead.combine otherOther name sources) where
  name_eq := rfl
  elements :=
    forall₂_mergeByName (fun _ _ same => same.outside.name_eq) others.elements leads.elements
  attributes :=
    forall₂_mergeByName (fun _ _ same => same.name_eq) others.attributes leads.attributes
  base := optionRel_or leads.base others.base
  text := optionRel_or leads.text others.text
  targetNamespace_eq := leads.targetNamespace_eq
  sources_eq := rfl

theorem Alike.merge {folded otherFolded : MergedType} (alike : folded.Alike names otherFolded)
    {type other : ComplexType} (next : type.Alike names other) :
    (folded.merge type).Alike names (otherFolded.merge other) := by
  have last := alike_ofDefinition next
  unfold MergedType.merge
  simp only [alike.elements.length_eq, last.elements.length_eq, alike.name_eq, alike.sources_eq,
    last.sources_eq]
  split
  · exact last.combine alike _ _
  · exact alike.combine last _ _

theorem Alike.foldl {folded otherFolded : MergedType} (alike : folded.Alike names otherFolded)
    {later others : List ComplexType} (each : List.Forall₂ (ComplexType.Alike names) later others) :
    (later.foldl MergedType.merge folded).Alike names
      (others.foldl MergedType.merge otherFolded) := by
  induction each generalizing folded otherFolded with
  | nil => exact alike
  | cons first _ ih => exact ih (alike.merge first)

theorem alike_fold {definitions others : Definitions ComplexType}
    (alike : definitions.Alike (ComplexType.Alike names) others) :
    (fold definitions.first definitions.later).Alike names (fold others.first others.later) :=
  (alike_ofDefinition alike.first).foldl alike.later

end MergedType

namespace Catalog

/-- Catalogues of declarations that are alike, with names that are read alike. -/
structure Alike (names : Correspondence) (first second : Catalog) : Prop where
  complexTypes : first.complexTypes.Alike (ComplexType.Alike names) second.complexTypes
  simpleTypes : first.simpleTypes.Alike (SimpleType.Alike names) second.simpleTypes
  elements : first.elements.Alike (GlobalElement.Alike names) second.elements
  merged : List.Forall₂ (Keyed (MergedType.Alike names)) first.merged second.merged
  scalars_eq : first.scalars = second.scalars
  settles : first.Settles names

/-- Schemas that are alike are registered alike. -/
theorem alike_ofSchemas {names : Correspondence} {schemas others : List Schema}
    (each : List.Forall₂ (Schema.Alike names) schemas others)
    (settles : (ofSchemas schemas).Settles names) :
    (ofSchemas schemas).Alike names (ofSchemas others) := by
  have holds := holds_ofSchemas schemas
  have otherHolds := holds_ofSchemas others
  obtain ⟨merged, scalars⟩ := tables_foldl_register schemas .empty
  obtain ⟨otherMerged, otherScalars⟩ := tables_foldl_register others .empty
  refine ⟨?_, ?_, ?_, ?_, scalars.trans otherScalars.symm, settles⟩
  · rw [holds.complexTypes_eq, otherHolds.complexTypes_eq]
    exact Registry.alike_ofList (fun _ _ same => same.outside.name_eq)
      (List.rel_flatMap each fun _ _ same => same.complexTypes)
  · rw [holds.simpleTypes_eq, otherHolds.simpleTypes_eq]
    exact Registry.alike_ofList (fun _ _ same => same.name_eq)
      (List.rel_flatMap each fun _ _ same => same.simpleTypes)
  · rw [holds.elements_eq, otherHolds.elements_eq]
    exact Registry.alike_ofList (fun _ _ same => same.name_eq)
      (List.rel_flatMap each fun _ _ same => same.elements)
  · rw [ofSchemas, ofSchemas, merged, otherMerged]
    exact .nil

namespace Alike

variable {names : Correspondence} {first second : Catalog} (alike : first.Alike names second)
include alike

theorem findsAlike : FindsAlike names first second where
  settles := alike.settles
  contains_complexType_eq := alike.complexTypes.contains_eq
  simpleType := alike.simpleTypes.first?
  element := alike.elements.first?
  scalar?_eq name := by
    unfold scalar?
    rw [alike.scalars_eq]

/-- Which representations were computed does not matter for how names are read. -/
theorem withScalars (scalars : List (String × ScalarType)) :
    Alike names (first.withScalars scalars) (second.withScalars scalars) :=
  { alike with
    scalars_eq := rfl
    settles := { alike.settles with
      isBuiltin_eq := alike.settles.isBuiltin_eq
      uri_eq := alike.settles.uri_eq } }

theorem withMerged {merged others : List (String × MergedType)}
    (each : List.Forall₂ (Keyed (MergedType.Alike names)) merged others) :
    Alike names (first.withMerged merged) (second.withMerged others) :=
  { alike with
    merged := each
    settles := { alike.settles with
      isBuiltin_eq := alike.settles.isBuiltin_eq
      uri_eq := alike.settles.uri_eq } }

end Alike

variable {names : Correspondence}

theorem alike_classifyEntry {name : String} {definitions others : Definitions SimpleType}
    (same : definitions.Alike (SimpleType.Alike names) others) {first second : Catalog}
    (alike : first.Alike names second) :
    Logged.Alike (Alike names) (first.classifyEntry name definitions)
      (second.classifyEntry name others) := by
  have more := alike.withScalars (first.scalars ++ [(name, first.classify definitions.first)])
  have count := same.later.length_eq
  have none : definitions.later.isEmpty = others.later.isEmpty := by
    rw [Bool.eq_iff_iff, List.isEmpty_iff_length_eq_zero, List.isEmpty_iff_length_eq_zero, count]
  unfold classifyEntry
  rw [none, count, alike.findsAlike.scalar?_eq, ← alike.findsAlike.classify_eq same.first,
    ← alike.scalars_eq]
  split
  · exact Logged.alike_pure alike
  · dsimp only
    split
    · exact ⟨rfl, more⟩
    · exact ⟨rfl, more⟩

/-- Simple types that are alike are represented alike. -/
theorem alike_classifyAll {first second : Catalog} (alike : first.Alike names second) :
    Logged.Alike (Alike names) first.classifyAll second.classifyAll := by
  refine Logged.alike_foldlM alike.simpleTypes alike ?_
  rintro ⟨name, definitions⟩ ⟨other, others⟩ ⟨rfl, same⟩ _ _ alike
  exact alike_classifyEntry same alike

structure AlikeWith {α β : Type} (names : Correspondence) (related : α → β → Prop)
    (result : Catalog × α) (other : Catalog × β) : Prop where
  catalog : result.1.Alike names other.1
  value : related result.2 other.2

theorem alike_mergeDefinitions {name : String} {definitions others : Definitions ComplexType}
    (same : definitions.Alike (ComplexType.Alike names) others) {first second : Catalog}
    (alike : first.Alike names second) :
    Logged.Alike (AlikeWith names (MergedType.Alike names))
      (first.mergeDefinitions name definitions) (second.mergeDefinitions name others) := by
  have type := MergedType.alike_fold same
  have found : Option.Rel (MergedType.Alike names) (first.merged? name) (second.merged? name) :=
    optionRel_find?_key alike.merged name
  unfold mergeDefinitions
  generalize first.merged? name = kept at found ⊢
  generalize second.merged? name = other at found ⊢
  cases found with
  | some same => exact Logged.alike_pure ⟨alike, same⟩
  | none =>
      refine ⟨?_, alike.withMerged (List.rel_append alike.merged (.cons ⟨rfl, type⟩ .nil)), type⟩
      show mergeRecords name _ _ _ = mergeRecords name _ _ _
      unfold mergeRecords Definitions.toList
      rw [List.length_cons, List.length_cons, same.later.length_eq, type.elements.length_eq,
        type.attributes.length_eq]

theorem alike_mergeEach {entries others : List (String × Definitions ComplexType)}
    (each : List.Forall₂ (Keyed (Definitions.Alike (ComplexType.Alike names))) entries others)
    {first second : Catalog} (alike : first.Alike names second) :
    Logged.Alike (AlikeWith names (List.Forall₂ (MergedType.Alike names)))
      (mergeEach entries first) (mergeEach others second) := by
  induction each generalizing first second with
  | nil => exact Logged.alike_pure ⟨alike, .nil⟩
  | @cons entry other rest otherRest same _ ih =>
      obtain ⟨name, definitions⟩ := entry
      obtain ⟨otherName, otherDefinitions⟩ := other
      obtain ⟨rfl, same⟩ := same
      rw [mergeEach, mergeEach]
      refine (alike_mergeDefinitions same alike).bind fun _ _ merged => ?_
      refine (ih merged.catalog).bind fun _ _ later => Logged.alike_pure ?_
      exact ⟨later.catalog, .cons merged.value later.value⟩

/-- Definitions that are alike are merged alike. -/
theorem alike_mergeAll {first second : Catalog} (alike : first.Alike names second) :
    Logged.Alike (AlikeWith names (List.Forall₂ (MergedType.Alike names))) first.mergeAll
      second.mergeAll :=
  alike_mergeEach alike.complexTypes alike

end Catalog

end SchemaBinding
