import SchemaBinding.Proofs.HeldCatalogs

/-!
# Merging in a workspace

Definitions are merged as objects just as they are as values.  The lists of a merged
type are copies, so neither the definitions nor the types merged before are changed.
-/

namespace SchemaBinding.Work

open Workspace

variable {allowed : List (ObjectKind × Handle)} {before after : Workspace} {room : Nat}

/-- The related items are at an address that was not in use before. -/
structure New {α : Type} (kind : ObjectKind) (before : Workspace)
    (holds : Workspace → Handle → α → Prop) (address : Handle) (item : α) (after : Workspace) :
    Prop where
  fresh : before.fresh kind ≤ address
  held : holds after address item

theorem New.since {α : Type} {kind : ObjectKind} {holds : Workspace → Handle → α → Prop}
    {middle : Workspace} {address : Handle} {item : α}
    (new : New kind middle holds address item after) (keeps : Keeps allowed before middle) :
    New kind before holds address item after :=
  ⟨Nat.le_trans (keeps.fresh_le kind) new.fresh, new.held⟩

theorem simulates_copyList {list : Handle} {addresses : List Handle}
    (has : before.Has .list list addresses) :
    Simulates (Keeps []) (copyList list) before (pure addresses)
      (New .list before fun after => after.Has .list) :=
  .fetch has (.lastAllocate fun _ _ fresh _ has => ⟨fresh, has⟩)

/-- A merged type of one definition has lists of its own. -/
theorem simulates_ofDefinition {definition : Handle} {type : ComplexType}
    (held : before.HoldsType (room + 1) definition type) :
    Simulates (Keeps []) (ofDefinition definition) before (pure (MergedType.ofDefinition type))
      (New .merged before fun after => after.HoldsMerged room) := by
  obtain ⟨elements, attributes, has, ⟨particles, hasParticles, heldParticles⟩,
    uses, hasUses, heldUses⟩ := held
  refine .fetch has ?_
  refine .step (simulates_copyList hasParticles) id ?_
  rintro first middle keepsFirst ⟨-, hasFirst⟩
  refine .step (simulates_copyList (keepsFirst.has List.not_mem_nil hasUses)) id ?_
  rintro second last keepsSecond ⟨-, hasSecond⟩
  refine .lastAllocate fun merged after fresh keepsLast hasMerged => ?_
  have keeps := keepsSecond.trans keepsLast
  have records := (keepsFirst.trans keeps).keepsRecords (by simp)
  refine ⟨Nat.le_trans ((keepsFirst.trans keepsSecond).fresh_le .merged) fresh, first, second,
    hasMerged, ⟨particles, ?_, ?_⟩, uses, ?_, ?_⟩
  · exact keeps.has List.not_mem_nil hasFirst
  · exact heldParticles.imp fun _ _ => records.holdsParticle fun _ _ => records.holdsType
  · exact keepsLast.has List.not_mem_nil hasSecond
  · exact heldUses.imp fun _ _ => records .attributeUse rfl

section Lists

variable {α : Type} {kind : ObjectKind} {related : Handle → α → Prop}
variable {nameOf : kind.Content → String} {itemName : α → String}

/-- There are objects for the related items, and they have the names of the items. -/
def IsNamed (workspace : Workspace) (nameOf : kind.Content → String) (itemName : α → String)
    (related : Handle → α → Prop) : Prop :=
  ∀ address item, related address item →
    ∃ content, workspace.Has kind address content ∧ nameOf content = itemName item

theorem IsNamed.keeps (named : IsNamed before nameOf itemName related)
    (keeps : Keeps allowed before after) (outside : ∀ address, (kind, address) ∉ allowed) :
    IsNamed after nameOf itemName related := by
  intro address item held
  obtain ⟨content, has, name⟩ := named address item held
  exact ⟨content, keeps.has (outside address) has, name⟩

/-- Adding items in place adds those with new names. -/
theorem simulates_addNew (noList : kind ≠ .list)
    (named : IsNamed before nameOf itemName related)
    {list : Handle} {leads items : List Handle} {lead others : List α}
    (has : before.Has .list list leads) (led : List.Forall₂ related leads lead)
    (each : List.Forall₂ related items others) :
    Simulates (Keeps [(.list, list)]) (addNew nameOf list items) before
      (pure (MergedType.mergeByName itemName lead others))
      (fun _ merged after => after.HoldsList related list merged) := by
  have outside : ∀ address, (kind, address) ∉ [(ObjectKind.list, list)] := by
    intro address member
    exact noList (Prod.mk.inj (List.mem_singleton.1 member)).1
  induction each generalizing before leads lead with
  | nil => exact .pure ⟨leads, has, led⟩
  | @cons address item rest others first _ ih =>
      have same : ∀ address item, related address item →
          nameOf (before.content kind address) = itemName item := by
        intro address item held
        obtain ⟨content, found, name⟩ := named address item held
        rw [found.content_eq, name]
      have taken : (before.listed kind list).map nameOf = lead.map itemName := by
        rw [listed, has.content_eq, List.map_map]
        exact map_eq_map_of_forall₂ same led
      refine .get ?_
      rw [taken, same _ _ first, MergedType.mergeByName]
      split
      · exact ih named has led
      · refine .change (List.mem_singleton.2 rfl) has fun after keeps hasMore => ?_
        exact ih (named.keeps keeps outside) hasMore (List.rel_append led (.cons first .nil))

/-- Two lists are merged as their items are; the merged list is a new one. -/
theorem simulates_mergeLists (noList : kind ≠ .list)
    (named : IsNamed before nameOf itemName related) {leading other : Handle}
    {lead others : List α} (led : before.HoldsList related leading lead)
    (held : before.HoldsList related other others) :
    Simulates (Keeps []) (mergeLists nameOf leading other) before
      (pure (MergedType.mergeByName itemName lead others))
      (New .list before fun after => after.HoldsList related) := by
  obtain ⟨leads, hasLeads, led⟩ := led
  obtain ⟨items, hasItems, each⟩ := held
  refine .stepNew (simulates_copyList hasLeads) (List.Subset.refl _)
    (fun _ _ new => new.fresh) ?_
  rintro merged middle keeps ⟨fresh, has⟩
  refine .fetch (keeps.has List.not_mem_nil hasItems) ?_
  refine .bindPure (simulates_addNew noList (named.keeps keeps (by simp)) has led each) id ?_
  exact fun _ _ _ _ held => .pure ⟨fresh, held⟩

end Lists

def ShowsMerged (workspace : Workspace) (room : Nat) (object : MergedObject) (type : MergedType) :
    Prop :=
  ∃ elements attributes, object = type.object elements attributes ∧
    workspace.HoldsMembers (workspace.HoldsType room) elements attributes type.elements
      type.attributes

theorem isNamed_particle (workspace : Workspace) (holds : Handle → ComplexType → Prop) :
    @IsNamed _ .particle workspace Particle.name Particle.name (workspace.HoldsParticle holds) :=
  fun _ _ ⟨_, has, _⟩ => ⟨_, has, rfl⟩

theorem isNamed_attributeUse (workspace : Workspace) :
    @IsNamed _ .attributeUse workspace AttributeUse.name AttributeUse.name
      (workspace.Has .attributeUse) :=
  fun _ _ has => ⟨_, has, rfl⟩

theorem simulates_combine {first second : MergedObject} {lead other : MergedType}
    (led : ShowsMerged before room first lead) (shown : ShowsMerged before room second other)
    (name : String) (sources : List FilePath) :
    Simulates (Keeps []) (combine first second name sources) before
      (pure (lead.combine other name sources))
      (New .merged before fun after => after.HoldsMerged room) := by
  obtain ⟨_, _, rfl, leadElements, leadAttributes⟩ := led
  obtain ⟨_, _, rfl, otherElements, otherAttributes⟩ := shown
  refine .step (simulates_mergeLists (show ObjectKind.particle ≠ .list by decide)
    (isNamed_particle before _) leadElements otherElements) id ?_
  rintro elements middle keepsFirst ⟨-, heldElements⟩
  have first := keepsFirst.keepsRecords (by simp)
  have still : ∀ {list uses}, before.HoldsList (before.Has .attributeUse) list uses →
      middle.HoldsList (middle.Has .attributeUse) list uses :=
    first.holdsList fun _ _ => first .attributeUse rfl
  refine .step (simulates_mergeLists (show ObjectKind.attributeUse ≠ .list by decide)
    (isNamed_attributeUse middle) (still leadAttributes) (still otherAttributes)) id ?_
  rintro attributes last keepsSecond ⟨-, heldAttributes⟩
  refine .lastAllocate fun merged after fresh keepsLast hasMerged => ?_
  have keeps := keepsSecond.trans keepsLast
  refine ⟨Nat.le_trans ((keepsFirst.trans keepsSecond).fresh_le .merged) fresh, elements,
    attributes, hasMerged, ?_, ?_⟩
  · have whole := (keepsFirst.trans keeps).keepsRecords (by simp)
    exact (keeps.keepsRecords (by simp)).holdsList
      (fun _ _ => whole.holdsParticle fun _ _ => whole.holdsType) heldElements
  · exact (keepsLast.keepsRecords (by simp)).holdsList
      (fun _ _ => keeps.keepsRecords (by simp) .attributeUse rfl) heldAttributes

theorem shows_of_holdsMerged {address : Handle} {type : MergedType}
    (held : before.HoldsMerged room address type) :
    ∃ object, before.Has .merged address object ∧ ShowsMerged before room object type := by
  obtain ⟨elements, attributes, has, particles, uses⟩ := held
  exact ⟨_, has, elements, attributes, rfl, particles, uses⟩

/-- Definitions are merged as they are as values, and the operands stay as they are. -/
theorem simulates_mergeNext {folded definition : Handle} {first : MergedType} {type : ComplexType}
    (held : before.HoldsMerged room folded first)
    (next : before.HoldsType (room + 1) definition type) :
    Simulates (Keeps []) (mergeNext folded definition) before (pure (first.merge type))
      (New .merged before fun after => after.HoldsMerged room) := by
  refine .step (simulates_ofDefinition next) id ?_
  rintro second middle keeps ⟨-, nextHeld⟩
  have still := held.extends keeps.extends (by simp)
  obtain ⟨_, has, firstShown⟩ := shows_of_holdsMerged still
  obtain ⟨_, hasNext, secondShown⟩ := shows_of_holdsMerged nextHeld
  obtain ⟨_, _, same, ⟨few, hasFew, fewHeld⟩, -⟩ := id firstShown
  obtain ⟨_, _, sameNext, ⟨many, hasMany, manyHeld⟩, -⟩ := id secondShown
  refine .fetch has (.fetch hasNext ?_)
  subst same sameNext
  refine .fetch hasFew (.fetch hasMany ?_)
  rw [MergedType.merge, ← fewHeld.length_eq, ← manyHeld.length_eq]
  dsimp only
  split
  · exact (simulates_combine secondShown firstShown _ _).imp fun _ _ _ _ new => new.since keeps
  · exact (simulates_combine firstShown secondShown _ _).imp fun _ _ _ _ new => new.since keeps

theorem simulates_foldl {addresses : List Handle} {types : List ComplexType}
    (each : List.Forall₂ (before.HoldsType (room + 1)) addresses types) {folded : Handle}
    {type : MergedType} (held : before.HoldsMerged room folded type) :
    Simulates (Keeps []) (addresses.foldlM mergeNext folded) before
      (pure (types.foldl MergedType.merge type))
      (fun address type after => after.HoldsMerged room address type) := by
  induction types generalizing before addresses folded type with
  | nil =>
      obtain rfl := List.forall₂_nil_right_iff.1 each
      exact .pure held
  | cons next types ih =>
      obtain ⟨address, rest, one, others, rfl⟩ := List.forall₂_cons_right_iff.1 each
      rw [List.foldlM_cons]
      refine .step (simulates_mergeNext held one) id ?_
      rintro merged middle keeps ⟨-, mergedHeld⟩
      have records := keeps.keepsRecords (by simp)
      exact ih (others.imp fun _ _ => records.holdsType) mergedHeld

/-- Several definitions are folded as they are as values. -/
theorem simulates_fold {definitions : Definitions ComplexType} {addresses : List Handle}
    (held : List.Forall₂ (before.HoldsType (room + 1)) addresses definitions.toList) :
    Simulates (Keeps []) (fold addresses) before
      (pure (MergedType.fold definitions.first definitions.later))
      (fun address type after => after.HoldsMerged room address type) := by
  obtain ⟨first, later⟩ := definitions
  obtain ⟨address, rest, one, others, rfl⟩ := List.forall₂_cons_right_iff.1 held
  refine .step (simulates_ofDefinition one) id ?_
  rintro folded middle keeps ⟨-, foldedHeld⟩
  have records := keeps.keepsRecords (by simp)
  exact simulates_foldl (others.imp fun _ _ => records.holdsType) foldedHeld

theorem extends_keepMerged (workspace : Workspace) (name : String) (merged : Handle) :
    Extends [] workspace { workspace with
      tables.merged := workspace.tables.merged ++ [(name, merged)] } :=
  ⟨fun _ has => has, fun _ => Nat.le_refl _, rfl, rfl, rfl, rfl, rfl, List.prefix_append _ _,
    List.prefix_rfl⟩

/-- A catalogue is still held when a merged type is kept in it and in its workspace. -/
theorem holds_keepMerged {last : Workspace} {catalog : Catalog}
    (holds : before.Holds room catalog) (keeps : Keeps [] before last) {merged : Handle}
    {type : MergedType} (held : last.HoldsMerged room merged type) (name : String) :
    Workspace.Holds { last with tables.merged := last.tables.merged ++ [(name, merged)] } room
      { catalog with merged := catalog.merged ++ [(name, type)] } := by
  have more := extends_keepMerged last name merged
  have whole := keeps.extends.trans more
  have kept : List.Forall₂ (Keyed (before.HoldsMerged room)) last.tables.merged
      catalog.merged := by
    rw [keeps.tables_eq]
    exact holds.merged
  refine holds.extends (whole.keepsRecords (by simp)) whole ?_ ?_
  · have still := kept.imp fun _ _ same =>
      (⟨same.key_eq, same.value.extends whole (by simp)⟩ : Keyed _ _ _)
    exact List.rel_append still (.cons ⟨rfl, held.extends more (by simp)⟩ .nil)
  · exact (congrArg AddressTables.scalars keeps.tables_eq).trans holds.scalars_eq

theorem logged_eq_bind {α : Type} (records : List Record) (result : α) :
    (⟨records, result⟩ : Logged α) = (⟨records, ()⟩ : Logged Unit) >>= fun _ => pure result :=
  congrArg (Logged.mk · result) (List.append_nil records).symm

/-- The merged type of a name is the object that is kept for it, or is kept from then on. -/
theorem simulates_mergeEntry {catalog : Catalog} (holds : before.Holds room catalog)
    {name : String} {list : Handle} {definitions : Definitions ComplexType}
    (held : before.HoldsList (before.HoldsType (room + 1)) list definitions.toList) :
    Simulates (Extends []) (mergeEntry name list) before (catalog.mergeDefinitions name definitions)
      (fun address result after => after.Holds room result.1 ∧
        after.HoldsMerged room address result.2) := by
  have found : Option.Rel (before.HoldsMerged room)
      (Emission.find? before.tables.merged name) (catalog.merged? name) :=
    optionRel_find?_key holds.merged name
  refine .get ?_
  unfold Catalog.mergeDefinitions
  generalize Emission.find? before.tables.merged name = kept at found ⊢
  generalize catalog.merged? name = other at found ⊢
  cases found with
  | some same => exact .pure ⟨holds, same⟩
  | none =>
      obtain ⟨addresses, has, each⟩ := held
      dsimp only
      generalize folded : MergedType.fold definitions.first definitions.later = type
      refine .step (simulates_copyList has) Keeps.extends ?_
      rintro copy middle keepsFirst ⟨-, hasCopy⟩
      refine .fetch hasCopy ?_
      have records := keepsFirst.keepsRecords (by simp)
      refine .step (folded ▸ simulates_fold (each.imp fun _ _ => records.holdsType))
        Keeps.extends ?_
      rintro merged last keepsSecond mergedHeld
      have keeps := keepsFirst.trans keepsSecond
      obtain ⟨_, hasMerged, shown⟩ := shows_of_holdsMerged mergedHeld
      obtain ⟨_, _, same, ⟨particles, hasParticles, heldParticles⟩, uses, hasUses, heldUses⟩ :=
        shown
      refine .fetch hasMerged ?_
      subst same
      refine .fetch hasParticles (.fetch hasUses ?_)
      rw [each.length_eq, heldParticles.length_eq, heldUses.length_eq,
        logged_eq_bind _ (_, _)]
      have more := extends_keepMerged last name merged
      refine .ofLogged rfl (.modify more (.pure ?_))
      exact ⟨holds_keepMerged holds keeps mergedHeld name, mergedHeld.extends more (by simp)⟩

theorem simulates_mergeEach {catalog : Catalog} {table : List (String × Handle)}
    {entries : List (String × Definitions ComplexType)} (holds : before.Holds room catalog)
    (each : List.Forall₂ (Keyed fun list definitions => before.HoldsList
      (before.HoldsType (room + 1)) list (Definitions.toList definitions)) table entries) :
    Simulates (Extends []) (table.mapM fun entry => mergeEntry entry.1 entry.2) before
      (Catalog.mergeEach entries catalog)
      (fun addresses result after => after.Holds room result.1 ∧
        List.Forall₂ (after.HoldsMerged room) addresses result.2) := by
  induction entries generalizing before table catalog with
  | nil =>
      obtain rfl := List.forall₂_nil_right_iff.1 each
      exact .pure ⟨holds, .nil⟩
  | cons entry rest ih =>
      obtain ⟨pair, others, ⟨name, held⟩, more, rfl⟩ := List.forall₂_cons_right_iff.1 each
      rw [List.mapM_cons, Catalog.mergeEach, ← name]
      refine .bind (simulates_mergeEntry holds held) id ?_
      rintro address ⟨first, type⟩ middle keeps ⟨holdsFirst, merged⟩
      have records := keeps.keepsRecords (by simp)
      have still := records.holdsRegistry (fun _ _ => records.holdsType)
        (show before.HoldsRegistry (before.HoldsType (room + 1)) others ⟨rest⟩ from more)
      refine .bind (ih holdsFirst still) id ?_
      rintro addresses ⟨last, types⟩ after keepsRest ⟨holdsLast, all⟩
      exact .pure ⟨holdsLast, .cons (merged.extends keepsRest (by simp)) all⟩

/-- All definitions are merged as objects just as they are as values. -/
theorem simulates_mergeAll {catalog : Catalog} (holds : before.Holds room catalog) :
    Simulates (Extends []) mergeAll before catalog.mergeAll
      (fun addresses result after => after.Holds room result.1 ∧
        List.Forall₂ (after.HoldsMerged room) addresses result.2) :=
  .get (simulates_mergeEach holds holds.complexTypes)

end SchemaBinding.Work
