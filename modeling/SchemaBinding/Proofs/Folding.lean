import Mathlib.Data.List.Perm.Basic
import Mathlib.Tactic.ByContra
import SchemaBinding.Schema.Merged

/-!
# Folding definitions

What the definitions of a complex type make together, without the fold.  The
fold puts each definition before or behind the ones before it; in the order that
results the first definition leads, and of any name that it does not declare the
first occurrence is kept.
-/

namespace SchemaBinding.MergedType

section ByName

variable {α : Type} (nameOf : α → String)

/-- The items whose names the leading ones do not have, each name once and at its first place. -/
def unledOnce (lead others : List α) : List α :=
  (others.filter (fun item => nameOf item ∉ lead.map nameOf)).eraseDupsBy
    (fun a b => nameOf a == nameOf b)

theorem mergeByName_eq (lead others : List α) :
    mergeByName nameOf lead others = lead ++ unledOnce nameOf lead others := by
  induction others generalizing lead with
  | nil => simp [mergeByName, unledOnce]
  | cons item rest ih =>
      by_cases taken : nameOf item ∈ lead.map nameOf
      · rw [mergeByName, if_pos (by simpa using taken), ih]
        simp only [unledOnce]
        rw [List.filter_cons_of_neg (by simpa using taken)]
      · rw [mergeByName, if_neg (by simpa using taken), ih]
        simp only [unledOnce]
        rw [List.filter_cons_of_pos (by simpa using taken), List.eraseDupsBy_cons,
          List.filter_filter, List.append_assoc, List.singleton_append]
        congr 3
        apply List.filter_congr
        intro other _
        simp only [List.map_append, List.map_cons, List.map_nil, List.mem_append,
          List.mem_singleton, not_or, Bool.decide_and, decide_not, beq_eq_decide]
        rw [Bool.and_comm]
        simp

theorem mergeByName_append (lead first second : List α) :
    mergeByName nameOf lead (first ++ second) =
      mergeByName nameOf (mergeByName nameOf lead first) second := by
  induction first generalizing lead with
  | nil => rfl
  | cons item rest ih =>
      simp only [List.cons_append, mergeByName]
      split
      · exact ih lead
      · exact ih (lead ++ [item])

theorem mergeByName_item (lead : List α) (item : α) :
    mergeByName nameOf lead [item] =
      if nameOf item ∈ lead.map nameOf then lead else lead ++ [item] := by
  simp [mergeByName]

/-- No name is lost and none is invented. -/
theorem mem_names_mergeByName (lead others : List α) (name : String) :
    name ∈ (mergeByName nameOf lead others).map nameOf ↔
      name ∈ lead.map nameOf ∨ name ∈ others.map nameOf := by
  induction others generalizing lead with
  | nil => simp [mergeByName]
  | cons item rest ih =>
      rw [mergeByName]
      split
      · next taken =>
          have known : nameOf item ∈ lead.map nameOf := by simpa using taken
          rw [ih, List.map_cons, List.mem_cons]
          constructor
          · tauto
          · rintro (inLead | rfl | inRest)
            · exact .inl inLead
            · exact .inl known
            · exact .inr inRest
      · rw [ih]
        simp only [List.map_append, List.map_cons, List.map_nil, List.mem_append, List.mem_cons,
          List.not_mem_nil, or_false]
        tauto

/-- What is dropped inside the second list would be dropped when the lists are merged. -/
theorem mergeByName_mergeByName (lead first second : List α) :
    mergeByName nameOf lead (mergeByName nameOf first second) =
      mergeByName nameOf lead (first ++ second) := by
  induction second generalizing first with
  | nil => simp [mergeByName]
  | cons item rest ih =>
      by_cases taken : nameOf item ∈ first.map nameOf
      · have known : nameOf item ∈ (mergeByName nameOf lead first).map nameOf :=
          (mem_names_mergeByName nameOf lead first _).2 (.inr taken)
        rw [mergeByName, if_pos (by simpa using taken), ih, mergeByName_append,
          mergeByName_append, ← List.singleton_append (x := item),
          mergeByName_append _ _ _ rest, mergeByName_item, if_pos known]
      · rw [mergeByName, if_neg (by simpa using taken), ih, List.append_assoc,
          List.singleton_append]

/-- What is kept of the leading items and of further lists, in order of their priority. -/
structure KeepsFirst (lead : List α) (others : List (List α)) (kept : List α) : Prop where
  /-- All leading items, then of each further name its first occurrence. -/
  kept_eq : kept = lead ++ unledOnce nameOf lead others.flatten
  names_iff : ∀ name,
    name ∈ kept.map nameOf ↔ ∃ items ∈ lead :: others, name ∈ items.map nameOf
  mem_some : ∀ item ∈ kept, ∃ items ∈ lead :: others, item ∈ items
  /-- The item found under a name is that of the first list which has the name. -/
  find_eq : ∀ name,
    kept.find? (nameOf · == name) = (lead :: others).findSome? (·.find? (nameOf · == name))
  /-- Only names of leading items may occur more than once. -/
  once : ∀ name, name ∉ lead.map nameOf → (kept.map nameOf).count name ≤ 1

theorem mem_of_mem_mergeByName {lead others : List α} {item : α}
    (member : item ∈ mergeByName nameOf lead others) : item ∈ lead ∨ item ∈ others := by
  induction others generalizing lead with
  | nil => exact .inl member
  | cons other rest ih =>
      rw [mergeByName] at member
      split at member
      · exact (ih member).imp id (List.mem_cons_of_mem other)
      · rcases ih member with inLead | inRest
        · rcases List.mem_append.1 inLead with inLead | here
          · exact .inl inLead
          · exact .inr (by simp [List.mem_singleton.1 here])
        · exact .inr (List.mem_cons_of_mem other inRest)

theorem find?_mergeByName (lead others : List α) (name : String) :
    (mergeByName nameOf lead others).find? (nameOf · == name) =
      (lead ++ others).find? (nameOf · == name) := by
  induction others generalizing lead with
  | nil => simp [mergeByName]
  | cons item rest ih =>
      rw [mergeByName]
      split
      · next taken =>
          rw [ih, List.find?_append, List.find?_append, List.find?_cons]
          by_cases same : nameOf item = name
          · obtain ⟨known, inLead, equal⟩ := List.mem_map.1
              (show nameOf item ∈ lead.map nameOf by simpa using taken)
            have found : (lead.find? (nameOf · == name)).isSome :=
              List.find?_isSome.2 ⟨known, inLead, by simp [equal, same]⟩
            rw [Option.or_of_isSome found, Option.or_of_isSome found]
          · rw [beq_eq_false_iff_ne.2 same]
      · rw [ih, List.append_assoc, List.singleton_append]

theorem count_mergeByName_le (lead others : List α) {name : String}
    (unled : (lead.map nameOf).count name ≤ 1) :
    ((mergeByName nameOf lead others).map nameOf).count name ≤ 1 := by
  induction others generalizing lead with
  | nil => exact unled
  | cons item rest ih =>
      rw [mergeByName]
      split
      · exact ih lead unled
      · next taken =>
          apply ih
          rw [List.map_append, List.count_append]
          by_cases same : nameOf item = name
          · have absent : name ∉ lead.map nameOf := by simpa [same] using taken
            simp [List.count_eq_zero_of_not_mem absent, same]
          · simpa [List.count_singleton, same] using unled

theorem keepsFirst_mergeByName (lead : List α) (others : List (List α)) :
    KeepsFirst nameOf lead others (mergeByName nameOf lead others.flatten) where
  kept_eq := mergeByName_eq nameOf lead others.flatten
  names_iff name := by
    rw [mem_names_mergeByName]
    simp only [List.mem_map, List.mem_flatten, List.mem_cons, exists_eq_or_imp]
    constructor
    · rintro (inLead | ⟨item, ⟨items, inOthers, inItems⟩, equal⟩)
      · exact .inl inLead
      · exact .inr ⟨items, inOthers, item, inItems, equal⟩
    · rintro (inLead | ⟨items, inOthers, item, inItems, equal⟩)
      · exact .inl inLead
      · exact .inr ⟨item, ⟨items, inOthers, inItems⟩, equal⟩
  mem_some item member := by
    rcases mem_of_mem_mergeByName nameOf member with inLead | inOthers
    · exact ⟨lead, List.mem_cons_self, inLead⟩
    · obtain ⟨items, inOthers, inItems⟩ := List.mem_flatten.1 inOthers
      exact ⟨items, List.mem_cons_of_mem lead inOthers, inItems⟩
  find_eq name := by
    rw [find?_mergeByName, ← List.flatten_cons, List.find?_flatten]
  once name unled := by
    apply count_mergeByName_le
    rw [List.count_eq_zero_of_not_mem unled]
    exact Nat.zero_le 1

end ByName

/-- The next definition goes in front if it has strictly more elements than those folded so far. -/
def place (folded : MergedType) (order : List ComplexType) (type : ComplexType) :
    List ComplexType :=
  if folded.elements.length < type.elements.length then type :: order else order ++ [type]

def priorityFrom (folded : MergedType) (order : List ComplexType) :
    List ComplexType → List ComplexType
  | [] => order
  | type :: rest => priorityFrom (folded.merge type) (folded.place order type) rest

def priority (first : ComplexType) (later : List ComplexType) : List ComplexType :=
  priorityFrom (ofDefinition first) [first] later

theorem perm_place (folded : MergedType) (order : List ComplexType) (type : ComplexType) :
    (folded.place order type).Perm (order ++ [type]) := by
  unfold place
  split
  · exact (List.perm_append_singleton type order).symm
  · exact .refl _

theorem perm_priorityFrom (folded : MergedType) (order later : List ComplexType) :
    (priorityFrom folded order later).Perm (order ++ later) := by
  induction later generalizing folded order with
  | nil => simp [priorityFrom]
  | cons type rest ih =>
      have placed := (folded.perm_place order type).append_right rest
      rw [List.append_assoc, List.singleton_append] at placed
      exact (ih (folded.merge type) (folded.place order type)).trans placed

/--
The parts of a folded type that the order of priority alone determines: the
leading definition and those that follow it.
-/
structure FoldedFrom (order : List ComplexType) (folded : MergedType) : Prop where
  exists_lead : ∃ lead others, order = lead :: others ∧
    folded.elements =
      mergeByName Particle.name lead.elements (others.map ComplexType.elements).flatten ∧
    folded.attributes =
      mergeByName AttributeUse.name lead.attributes
        (others.map ComplexType.attributes).flatten ∧
    folded.targetNamespace = lead.targetNamespace
  base_eq : folded.base = order.findSome? ComplexType.base
  text_eq : folded.text = order.findSome? ComplexType.text

theorem foldedFrom_ofDefinition (type : ComplexType) :
    FoldedFrom [type] (ofDefinition type) where
  exists_lead := ⟨type, [], rfl, rfl, rfl, rfl⟩
  base_eq := by simp [ofDefinition]
  text_eq := by simp [ofDefinition]

/-- A definition that goes in front leads; what led before is merged into it. -/
theorem FoldedFrom.lead {order : List ComplexType} {folded : MergedType}
    (before : FoldedFrom order folded) (type : ComplexType) (name : String)
    (sources : List FilePath) :
    FoldedFrom (type :: order) (combine (ofDefinition type) folded name sources) := by
  obtain ⟨⟨lead, others, rfl, elements, attributes, _⟩, base, text⟩ := before
  refine ⟨⟨type, lead :: others, rfl, ?_, ?_, rfl⟩, ?_, ?_⟩
  · simp only [combine, ofDefinition, elements, mergeByName_mergeByName, List.map_cons,
      List.flatten_cons]
  · simp only [combine, ofDefinition, attributes, mergeByName_mergeByName, List.map_cons,
      List.flatten_cons]
  · simp only [combine, ofDefinition, base]
    rw [List.findSome?_cons (a := type)]
    cases type.base <;> rfl
  · simp only [combine, ofDefinition, text]
    rw [List.findSome?_cons (a := type)]
    cases type.text <;> rfl

/-- A definition that goes behind adds what is new in it. -/
theorem FoldedFrom.follow {order : List ComplexType} {folded : MergedType}
    (before : FoldedFrom order folded) (type : ComplexType) (name : String)
    (sources : List FilePath) :
    FoldedFrom (order ++ [type]) (combine folded (ofDefinition type) name sources) := by
  obtain ⟨⟨lead, others, rfl, elements, attributes, uri⟩, base, text⟩ := before
  refine ⟨⟨lead, others ++ [type], rfl, ?_, ?_, uri⟩, ?_, ?_⟩
  · simp only [combine, ofDefinition, elements, List.map_append, List.map_cons, List.map_nil,
      List.flatten_append, List.flatten_singleton, mergeByName_append]
  · simp only [combine, ofDefinition, attributes, List.map_append, List.map_cons, List.map_nil,
      List.flatten_append, List.flatten_singleton, mergeByName_append]
  · simp only [combine, ofDefinition, base, List.findSome?_append]
    simp
  · simp only [combine, ofDefinition, text, List.findSome?_append]
    simp

theorem FoldedFrom.place {order : List ComplexType} {folded : MergedType}
    (before : FoldedFrom order folded) (type : ComplexType) :
    FoldedFrom (folded.place order type) (folded.merge type) := by
  unfold MergedType.place merge
  simp only [show (ofDefinition type).elements = type.elements from rfl]
  split
  · exact before.lead type _ _
  · exact before.follow type _ _

theorem FoldedFrom.foldl {order : List ComplexType} {folded : MergedType}
    (before : FoldedFrom order folded) (later : List ComplexType) :
    FoldedFrom (priorityFrom folded order later) (later.foldl merge folded) := by
  induction later generalizing folded order with
  | nil => exact before
  | cons type rest ih => exact ih (before.place type)

theorem name_merge (folded : MergedType) (type : ComplexType) :
    (folded.merge type).name = folded.name := by
  unfold merge
  dsimp only
  split <;> rfl

theorem sources_merge (folded : MergedType) (type : ComplexType) :
    (folded.merge type).sources = folded.sources ++ type.source.toList := by
  unfold merge
  dsimp only
  split <;> rfl

theorem name_foldl (folded : MergedType) (later : List ComplexType) :
    (later.foldl merge folded).name = folded.name := by
  induction later generalizing folded with
  | nil => rfl
  | cons type rest ih => rw [List.foldl_cons, ih, name_merge]

theorem sources_foldl (folded : MergedType) (later : List ComplexType) :
    (later.foldl merge folded).sources =
      folded.sources ++ later.filterMap ComplexType.source := by
  induction later generalizing folded with
  | nil => simp
  | cons type rest ih =>
      rw [List.foldl_cons, ih, sources_merge, List.append_assoc]
      cases equal : type.source <;> simp [equal]

/--
A list of definitions folds to this type: in the order of priority the first
definition leads and gives the namespace, the other ones add the elements and
attributes whose names are new, and base and text are the first that are given.
-/
theorem closedForm_of_folding (first : ComplexType) (later : List ComplexType) :
    ∃ lead others, ∃ folded : MergedType,
      priority first later = lead :: others ∧
      (lead :: others).Perm (first :: later) ∧
      ofList? (first :: later) = some folded ∧
      KeepsFirst Particle.name lead.elements (others.map ComplexType.elements)
        folded.elements ∧
      KeepsFirst AttributeUse.name lead.attributes (others.map ComplexType.attributes)
        folded.attributes ∧
      folded.base = (lead :: others).findSome? ComplexType.base ∧
      folded.text = (lead :: others).findSome? ComplexType.text ∧
      folded.targetNamespace = lead.targetNamespace ∧
      folded.name = first.name ∧
      folded.sources = (first :: later).filterMap ComplexType.source := by
  have ordered : FoldedFrom (priority first later) (fold first later) :=
    (foldedFrom_ofDefinition first).foldl later
  obtain ⟨⟨lead, others, equal, elements, attributes, uri⟩, base, text⟩ := ordered
  have same : (lead :: others).Perm (first :: later) := by
    rw [← equal]
    exact perm_priorityFrom (ofDefinition first) [first] later
  refine ⟨lead, others, fold first later, equal, same, rfl, ?_, ?_, equal ▸ base, equal ▸ text,
    uri, name_foldl _ later, ?_⟩
  · rw [elements]
    exact keepsFirst_mergeByName Particle.name lead.elements _
  · rw [attributes]
    exact keepsFirst_mergeByName AttributeUse.name lead.attributes _
  · rw [fold, sources_foldl]
    cases given : first.source <;> simp [ofDefinition, given]

end SchemaBinding.MergedType
