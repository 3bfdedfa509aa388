import SchemaBinding.Schema.Reading

/-!
# What is read below a complex type

The content of a complex type is spread over its content nodes: the declaration
itself and the derivations inside it.  Reading visits the elements of their model
groups, their attributes and the derivations, each once and in document order.
-/

namespace SchemaBinding.Schema

open Xml

/-- The positions of the children that lead from an element to one below it. -/
abbrev Address := List Nat

section Places

/-- An element that holds the derivations of a content node. -/
def IsHolder (element : Element) : Prop :=
  Construct.ofName element.name = .complexContent ∨ Construct.ofName element.name = .simpleContent

/-- A derivation, which is a content node inside its holder. -/
def IsDerivation (element : Element) : Prop :=
  Construct.ofName element.name = .extension ∨ Construct.ofName element.name = .restriction

def IsGroup (element : Element) : Prop :=
  Construct.ofName element.name = .group

/-- The content nodes of an element: itself, and the derivations in the holders of one. -/
inductive ContentAt : Element → Address → Element → Prop where
  | here (node : Element) : ContentAt node [] node
  | inside {node holder derivation content : Element} {outer inner : Nat} {address : Address}
      (held : node.children[outer]? = some holder) (holds : IsHolder holder)
      (derived : holder.children[inner]? = some derivation) (derives : IsDerivation derivation)
      (below : ContentAt derivation address content) :
      ContentAt node (outer :: inner :: address) content

/-- The elements of a model group, those of the groups inside it included. -/
inductive MemberAt : Element → Address → Element → Prop where
  | here {group element : Element} {index : Nat} (child : group.children[index]? = some element)
      (declares : Construct.ofName element.name = .element) : MemberAt group [index] element
  | nested {group inner element : Element} {index : Nat} {address : Address}
      (child : group.children[index]? = some inner) (grouped : IsGroup inner)
      (below : MemberAt inner address element) : MemberAt group (index :: address) element

/-- The elements that are reached from a content node through one or more groups only. -/
inductive ParticleAt (node : Element) : Address → Element → Prop where
  | intro {content group element : Element} {first address : Address} {index : Nat}
      (reached : ContentAt node first content) (child : content.children[index]? = some group)
      (grouped : IsGroup group) (member : MemberAt group address element) :
      ParticleAt node (first ++ index :: address) element

/-- The attributes of the content nodes, whatever their use. -/
inductive AttributeAt (node : Element) : Address → Element → Prop where
  | intro {content element : Element} {first : Address} {index : Nat}
      (reached : ContentAt node first content) (child : content.children[index]? = some element)
      (declares : Construct.ofName element.name = .attributeUse) :
      AttributeAt node (first ++ [index]) element

end Places

/-- Inside of what the children of an element are read. -/
inductive Position where
  | content
  | complexContent
  | simpleContent
  | group
deriving DecidableEq, Repr

/-- What an element that is visited gives to the type. -/
inductive Role where
  | particle
  | attributeUse
  /-- An extension names the base. -/
  | base
  /-- A derivation of simple content names the type of the text. -/
  | text
deriving DecidableEq, Repr

namespace Position

def role? : Position → Construct → Option Role
  | .content, .attributeUse => some .attributeUse
  | .complexContent, .extension => some .base
  | .simpleContent, .extension | .simpleContent, .restriction => some .text
  | .group, .element => some .particle
  | _, _ => none

def enter? : Position → Construct → Option Position
  | .content, .group | .group, .group => some .group
  | .content, .complexContent => some .complexContent
  | .content, .simpleContent => some .simpleContent
  | .complexContent, .extension | .complexContent, .restriction
  | .simpleContent, .extension | .simpleContent, .restriction => some .content
  | _, _ => none

end Position

structure Visit where
  address : Address
  role : Role
  element : Element
deriving Repr

namespace Visit

/-- A visit as seen from the element above. -/
def below (index : Nat) (visit : Visit) : Visit :=
  { visit with address := index :: visit.address }

end Visit

/-- What is visited in a sequence of children, the first of which has the given index. -/
def visits (position : Position) (index : Nat) : List Element → List Visit
  | [] => []
  | ⟨name, attributes, children⟩ :: rest =>
      ((position.role? (Construct.ofName name)).map
          (⟨[index], ·, ⟨name, attributes, children⟩⟩)).toList ++
        (match position.enter? (Construct.ofName name) with
          | none => []
          | some inner => (visits inner 0 children).map (Visit.below index)) ++
        visits position (index + 1) rest

theorem visits_append (position : Position) (index : Nat) (first second : List Element) :
    visits position index (first ++ second) =
      visits position index first ++ visits position (index + first.length) second := by
  induction first generalizing index with
  | nil =>
      rw [visits]
      rfl
  | cons element rest ih =>
      obtain ⟨name, attributes, children⟩ := element
      rw [List.cons_append, visits, visits, ih, List.append_assoc _ (visits _ _ rest),
        List.length_cons, Nat.add_right_comm, Nat.add_assoc]

section Order

variable {position : Position} {index : Nat} {visit : Visit}

/-- What is visited first is the first child, then what is inside it, then the rest. -/
theorem mem_visits_cons {outer : Element} {rest : List Element} :
    visit ∈ visits position index (outer :: rest) ↔
      (visit.address = [index] ∧ visit.element = outer ∧
        position.role? (Construct.ofName outer.name) = some visit.role) ∨
      (∃ inner, position.enter? (Construct.ofName outer.name) = some inner ∧
        ∃ below ∈ visits inner 0 outer.children, below.below index = visit) ∨
      visit ∈ visits position (index + 1) rest := by
  obtain ⟨name, attributes, children⟩ := outer
  rw [visits, List.mem_append, List.mem_append, or_assoc]
  refine or_congr ?_ (or_congr ?_ Iff.rfl)
  · obtain ⟨address, role, element⟩ := visit
    rw [Option.mem_toList, Option.map_eq_some_iff]
    constructor
    · rintro ⟨given, gives, same⟩
      cases same
      exact ⟨rfl, rfl, gives⟩
    · rintro ⟨rfl, rfl, gives⟩
      exact ⟨role, gives, rfl⟩
  · cases position.enter? (Construct.ofName name) with
    | none => simp
    | some inner => simp

/-- What is visited stands in one of the children or below it. -/
theorem exists_address_of_mem_visits {elements : List Element}
    (member : visit ∈ visits position index elements) :
    ∃ first rest, visit.address = first :: rest ∧ index ≤ first := by
  induction elements generalizing index with
  | nil =>
      rw [visits] at member
      cases member
  | cons outer rest ih =>
      rcases mem_visits_cons.1 member with ⟨address, _⟩ | ⟨_, _, below, _, rfl⟩ | later
      · exact ⟨index, [], address, Nat.le_refl _⟩
      · exact ⟨index, below.address, rfl, Nat.le_refl _⟩
      · obtain ⟨first, below, address, bound⟩ := ih later
        exact ⟨first, below, address, Nat.le_of_succ_le bound⟩

theorem exists_address_of_mem_visits_singleton {outer : Element}
    (member : visit ∈ visits position index [outer]) : ∃ below, visit.address = index :: below := by
  rcases mem_visits_cons.1 member with ⟨address, _⟩ | ⟨_, _, below, _, rfl⟩ | later
  · exact ⟨[], address⟩
  · exact ⟨below.address, rfl⟩
  · rw [visits] at later
    cases later

/-- What is visited inside an element comes behind the element. -/
theorem lt_address_below {elements : List Element}
    (member : visit ∈ visits position 0 elements) :
    [index] < (visit.below index).address := by
  obtain ⟨first, rest, address, _⟩ := exists_address_of_mem_visits member
  rw [Visit.below, address]
  exact List.cons_lt_cons_iff.2 (.inr ⟨rfl, List.nil_lt_cons _ _⟩)

/-- Visits are paid in document order: an element comes before those inside it. -/
theorem pairwise_visits (position : Position) (index : Nat) (elements : List Element) :
    (visits position index elements).Pairwise (fun one other => one.address < other.address) := by
  cases elements with
  | nil =>
      rw [visits]
      exact .nil
  | cons outer rest =>
      rw [← List.singleton_append, visits_append]
      refine List.pairwise_append.2 ⟨?own, pairwise_visits position (index + 1) rest, ?apart⟩
      case own =>
        obtain ⟨name, attributes, children⟩ := outer
        have inside (inner : Position) :
            ((visits inner 0 children).map (Visit.below index)).Pairwise
              (fun one other => one.address < other.address) := by
          refine List.pairwise_map.2 ((pairwise_visits inner 0 children).imp fun before => ?_)
          exact List.cons_lt_cons_iff.2 (.inr ⟨rfl, before⟩)
        rw [visits, visits, List.append_nil]
        refine List.pairwise_append.2 ⟨?_, ?_, fun one own other below => ?_⟩
        · cases position.role? (Construct.ofName name) <;> simp
        · cases position.enter? (Construct.ofName name) with
          | none => exact .nil
          | some inner => exact inside inner
        · obtain ⟨role, _, rfl⟩ := Option.map_eq_some_iff.1 (Option.mem_toList.1 own)
          split at below
          · cases below
          · obtain ⟨inner, member, rfl⟩ := List.mem_map.1 below
            exact lt_address_below member
      case apart =>
        intro one early other later
        obtain ⟨below, first⟩ := exists_address_of_mem_visits_singleton early
        obtain ⟨start, behind, address, bound⟩ := exists_address_of_mem_visits later
        rw [first, address]
        exact List.cons_lt_cons_iff.2 (.inl bound)

end Order

/-- What is visited at an address below a sequence of children, by the steps that lead there. -/
inductive VisitedAt : Position → List Element → Address → Role → Element → Prop where
  | here {position : Position} {elements : List Element} {element : Element} {index : Nat}
      {role : Role} (child : elements[index]? = some element)
      (gives : position.role? (Construct.ofName element.name) = some role) :
      VisitedAt position elements [index] role element
  | inside {position inner : Position} {elements : List Element} {outer element : Element}
      {index : Nat} {address : Address} {role : Role} (child : elements[index]? = some outer)
      (enters : position.enter? (Construct.ofName outer.name) = some inner)
      (visited : VisitedAt inner outer.children address role element) :
      VisitedAt position elements (index :: address) role element

section Steps

variable {position : Position} {outer element : Element} {rest : List Element} {role : Role}
variable {address : Address}

theorem VisitedAt.exists_address {elements : List Element}
    (visited : VisitedAt position elements address role element) :
    ∃ first rest, address = first :: rest := by
  cases visited with
  | here => exact ⟨_, _, rfl⟩
  | inside => exact ⟨_, _, rfl⟩

theorem not_visitedAt_nil : ¬ VisitedAt position [] address role element := by
  intro visited
  cases visited with
  | here child => simp at child
  | inside child => simp at child

/-- Steps that begin at the first child end there, or they go on inside it. -/
theorem visitedAt_zero_iff :
    VisitedAt position (outer :: rest) (0 :: address) role element ↔
      (address = [] ∧ element = outer ∧
        position.role? (Construct.ofName outer.name) = some role) ∨
      ∃ inner, position.enter? (Construct.ofName outer.name) = some inner ∧
        VisitedAt inner outer.children address role element := by
  constructor
  · intro visited
    cases visited with
    | here child gives =>
        obtain rfl := Option.some.inj child
        exact .inl ⟨rfl, rfl, gives⟩
    | inside child enters visited =>
        obtain rfl := Option.some.inj child
        exact .inr ⟨_, enters, visited⟩
  · rintro (⟨rfl, rfl, gives⟩ | ⟨inner, enters, visited⟩)
    · exact .here rfl gives
    · exact .inside rfl enters visited

/-- Steps that begin at a later child are steps among the rest. -/
theorem visitedAt_succ_iff {offset : Nat} :
    VisitedAt position (outer :: rest) ((offset + 1) :: address) role element ↔
      VisitedAt position rest (offset :: address) role element := by
  constructor
  · intro visited
    cases visited with
    | here child gives => exact .here child gives
    | inside child enters visited => exact .inside child enters visited
  · intro visited
    cases visited with
    | here child gives => exact .here child gives
    | inside child enters visited => exact .inside child enters visited

end Steps

/-- The visits are those of the elements to which the steps lead. -/
theorem mem_visits_iff (position : Position) (index : Nat) (elements : List Element)
    (visit : Visit) :
    visit ∈ visits position index elements ↔
      ∃ offset rest, visit.address = (index + offset) :: rest ∧
        VisitedAt position elements (offset :: rest) visit.role visit.element := by
  cases elements with
  | nil =>
      rw [visits]
      refine iff_of_false (by simp) ?_
      rintro ⟨offset, rest, _, visited⟩
      exact not_visitedAt_nil visited
  | cons outer rest =>
      obtain ⟨name, attributes, children⟩ := outer
      rw [mem_visits_cons, mem_visits_iff position (index + 1) rest]
      constructor
      · rintro (⟨same, element, gives⟩ | ⟨inner, enters, below, member, rfl⟩ |
          ⟨offset, below, same, visited⟩)
        · exact ⟨0, [], same, visitedAt_zero_iff.2 (.inl ⟨rfl, element, gives⟩)⟩
        · obtain ⟨offset, more, address, visited⟩ := (mem_visits_iff inner 0 children below).1 member
          rw [Nat.zero_add] at address
          rw [← address] at visited
          exact ⟨0, below.address, rfl, visitedAt_zero_iff.2 (.inr ⟨inner, enters, visited⟩)⟩
        · refine ⟨offset + 1, below, ?_, visitedAt_succ_iff.2 visited⟩
          rw [same, Nat.add_assoc, Nat.add_comm 1]
      · rintro ⟨offset, below, same, visited⟩
        cases offset with
        | zero =>
            rcases visitedAt_zero_iff.1 visited with ⟨rfl, element, gives⟩ | ⟨inner, enters, visited⟩
            · exact .inl ⟨same, element, gives⟩
            · refine .inr (.inl ⟨inner, enters, ⟨below, visit.role, visit.element⟩, ?_, ?_⟩)
              · obtain ⟨first, more, rfl⟩ := visited.exists_address
                refine (mem_visits_iff inner 0 children _).2 ⟨first, more, ?_, visited⟩
                rw [Nat.zero_add]
              · rw [Visit.below, ← show visit.address = index :: below from same]
        | succ offset =>
            refine .inr (.inr ⟨offset, below, ?_, visitedAt_succ_iff.1 visited⟩)
            rw [same, Nat.add_assoc, Nat.add_comm 1]

/-- Counted from zero, the addresses are the steps themselves. -/
theorem mem_visits_zero_iff {position : Position} {elements : List Element} {visit : Visit} :
    visit ∈ visits position 0 elements ↔
      VisitedAt position elements visit.address visit.role visit.element := by
  rw [mem_visits_iff]
  constructor
  · rintro ⟨offset, rest, same, visited⟩
    rw [same, Nat.zero_add]
    exact visited
  · intro visited
    obtain ⟨first, rest, same⟩ := visited.exists_address
    refine ⟨first, rest, by rw [same, Nat.zero_add], ?_⟩
    rw [← same]
    exact visited

namespace Position

variable {construct : Construct} {role : Role} {inner : Position}

theorem role?_content_eq_some :
    role? .content construct = some role ↔ construct = .attributeUse ∧ role = .attributeUse := by
  cases construct <;> simp [role?, eq_comm]

theorem role?_group_eq_some :
    role? .group construct = some role ↔ construct = .element ∧ role = .particle := by
  cases construct <;> simp [role?, eq_comm]

theorem enter?_group_eq_some :
    enter? .group construct = some inner ↔ construct = .group ∧ inner = .group := by
  cases construct <;> simp [enter?, eq_comm]

theorem enter?_content_eq_some :
    enter? .content construct = some inner ↔
      construct = .group ∧ inner = .group ∨
        construct = .complexContent ∧ inner = .complexContent ∨
        construct = .simpleContent ∧ inner = .simpleContent := by
  cases construct <;> simp [enter?, eq_comm]

/-- A derivation is a content node, whichever content holds it. -/
theorem enter?_holder_eq_some {holder : Position}
    (holds : holder = .complexContent ∨ holder = .simpleContent) :
    enter? holder construct = some inner ↔
      (construct = .extension ∨ construct = .restriction) ∧ inner = .content := by
  rcases holds with rfl | rfl
  · cases construct <;> simp [enter?, eq_comm]
  · cases construct <;> simp [enter?, eq_comm]

theorem role?_holder_eq_some {holder : Position}
    (holds : holder = .complexContent ∨ holder = .simpleContent)
    (gives : role? holder construct = some role) : role = .base ∨ role = .text := by
  rcases holds with rfl | rfl
  · cases construct <;> simp_all [role?]
  · cases construct <;> simp_all [role?]

theorem enter?_eq_none {position : Position} (leaf : role = .particle ∨ role = .attributeUse)
    (gives : role? position construct = some role) : enter? position construct = none := by
  rcases leaf with rfl | rfl
  · cases position <;> cases construct <;> simp_all [role?, enter?]
  · cases position <;> cases construct <;> simp_all [role?, enter?]

end Position

section Agreement

variable {node holder derivation element : Element} {address : Address} {outer inner : Nat}

theorem ParticleAt.inside (held : node.children[outer]? = some holder) (holds : IsHolder holder)
    (derived : holder.children[inner]? = some derivation) (derives : IsDerivation derivation)
    (particle : ParticleAt derivation address element) :
    ParticleAt node (outer :: inner :: address) element := by
  obtain ⟨reached, child, grouped, member⟩ := particle
  exact .intro (.inside held holds derived derives reached) child grouped member

theorem AttributeAt.inside (held : node.children[outer]? = some holder) (holds : IsHolder holder)
    (derived : holder.children[inner]? = some derivation) (derives : IsDerivation derivation)
    (found : AttributeAt derivation address element) :
    AttributeAt node (outer :: inner :: address) element := by
  obtain ⟨reached, child, declares⟩ := found
  exact .intro (.inside held holds derived derives reached) child declares

def Belongs (node : Element) (address : Address) (role : Role) (element : Element) : Prop :=
  (role = .particle → ParticleAt node address element) ∧
    (role = .attributeUse → AttributeAt node address element)

def Leads : Position → Element → Address → Role → Element → Prop
  | .group, group, address, role, element => role = .particle ∧ MemberAt group address element
  | .content, node, address, role, element => Belongs node address role element
  | .complexContent, holder, address, role, element
  | .simpleContent, holder, address, role, element =>
      ∀ node outer, node.children[outer]? = some holder → IsHolder holder →
        Belongs node (outer :: address) role element

theorem leads_of_role {position : Position} {role : Role}
    (holds : position = .complexContent ∨ position = .simpleContent)
    (derives : role = .base ∨ role = .text) (node element : Element) (address : Address) :
    Leads position node address role element := by
  have other (node : Element) (address : Address) : Belongs node address role element := by
    rcases derives with rfl | rfl
    · exact ⟨fun same => (by cases same), fun same => (by cases same)⟩
    · exact ⟨fun same => (by cases same), fun same => (by cases same)⟩
  rcases holds with rfl | rfl
  · exact fun _ _ _ _ => other _ _
  · exact fun _ _ _ _ => other _ _

theorem leads_of_derivation {position : Position} {role : Role}
    (holds : position = .complexContent ∨ position = .simpleContent)
    (derived : holder.children[inner]? = some derivation) (derives : IsDerivation derivation)
    (below : Belongs derivation address role element) :
    Leads position holder (inner :: address) role element := by
  have lifted (node : Element) (outer : Nat) (held : node.children[outer]? = some holder)
      (holder_holds : IsHolder holder) : Belongs node (outer :: inner :: address) role element :=
    ⟨fun same => (below.1 same).inside held holder_holds derived derives,
      fun same => (below.2 same).inside held holder_holds derived derives⟩
  rcases holds with rfl | rfl
  · exact lifted
  · exact lifted

theorem VisitedAt.leads {position : Position} {elements : List Element} {role : Role}
    (visited : VisitedAt position elements address role element) :
    ∀ node : Element, node.children = elements → Leads position node address role element := by
  induction visited with
  | @here position elements element index role child gives =>
      rintro node rfl
      cases position with
      | group =>
          obtain ⟨declares, rfl⟩ := Position.role?_group_eq_some.1 gives
          exact ⟨rfl, .here child declares⟩
      | content =>
          obtain ⟨declares, rfl⟩ := Position.role?_content_eq_some.1 gives
          exact ⟨fun same => (by cases same), fun _ => .intro (.here node) child declares⟩
      | complexContent =>
          exact leads_of_role (.inl rfl) (Position.role?_holder_eq_some (.inl rfl) gives) _ _ _
      | simpleContent =>
          exact leads_of_role (.inr rfl) (Position.role?_holder_eq_some (.inr rfl) gives) _ _ _
  | @inside position inner elements outer element index address role child enters visited ih =>
      rintro node rfl
      have below := ih outer rfl
      cases position with
      | group =>
          obtain ⟨grouped, rfl⟩ := Position.enter?_group_eq_some.1 enters
          exact ⟨below.1, .nested child grouped below.2⟩
      | content =>
          rcases Position.enter?_content_eq_some.1 enters with
            ⟨grouped, rfl⟩ | ⟨holds, rfl⟩ | ⟨holds, rfl⟩
          · obtain ⟨rfl, member⟩ := below
            exact ⟨fun _ => .intro (.here node) child grouped member, fun same => (by cases same)⟩
          · exact below node index child (.inl holds)
          · exact below node index child (.inr holds)
      | complexContent =>
          obtain ⟨derives, rfl⟩ := (Position.enter?_holder_eq_some (.inl rfl)).1 enters
          exact leads_of_derivation (.inl rfl) child derives below
      | simpleContent =>
          obtain ⟨derives, rfl⟩ := (Position.enter?_holder_eq_some (.inr rfl)).1 enters
          exact leads_of_derivation (.inr rfl) child derives below

theorem MemberAt.visited {group : Element} (member : MemberAt group address element) :
    VisitedAt .group group.children address .particle element := by
  induction member with
  | here child declares => exact .here child (Position.role?_group_eq_some.2 ⟨declares, rfl⟩)
  | nested child grouped below ih =>
      exact .inside child (Position.enter?_group_eq_some.2 ⟨grouped, rfl⟩) ih

/-- What is visited in a content node of an element is visited in the element. -/
theorem ContentAt.visited {content : Element} {first : Address} {role : Role}
    (reached : ContentAt node first content)
    (visited : VisitedAt .content content.children address role element) :
    VisitedAt .content node.children (first ++ address) role element := by
  induction reached with
  | here => exact visited
  | inside held holds derived derives below ih =>
      have derivation {holder : Position}
          (position : holder = .complexContent ∨ holder = .simpleContent) :=
        VisitedAt.inside derived
          ((Position.enter?_holder_eq_some position).2 ⟨derives, rfl⟩) (ih visited)
      rcases holds with complex | simple
      · exact .inside held (Position.enter?_content_eq_some.2 (.inr (.inl ⟨complex, rfl⟩)))
          (derivation (.inl rfl))
      · exact .inside held (Position.enter?_content_eq_some.2 (.inr (.inr ⟨simple, rfl⟩)))
          (derivation (.inr rfl))

/-- The particles that are visited are those reached through groups only. -/
theorem visitedAt_particle_iff :
    VisitedAt .content node.children address .particle element ↔
      ParticleAt node address element := by
  constructor
  · intro visited
    exact (visited.leads node rfl).1 rfl
  · rintro ⟨reached, child, grouped, member⟩
    exact reached.visited
      (.inside child (Position.enter?_content_eq_some.2 (.inl ⟨grouped, rfl⟩)) member.visited)

/-- The attributes that are visited are those of the content nodes. -/
theorem visitedAt_attributeUse_iff :
    VisitedAt .content node.children address .attributeUse element ↔
      AttributeAt node address element := by
  constructor
  · intro visited
    exact (visited.leads node rfl).2 rfl
  · rintro ⟨reached, child, declares⟩
    exact reached.visited (.here child (Position.role?_content_eq_some.2 ⟨declares, rfl⟩))

/-- Nothing is visited below a particle or an attribute. -/
theorem VisitedAt.eq_nil {position : Position} {elements : List Element} {role other : Role}
    {below : Element} {rest : Address} (visited : VisitedAt position elements address role element)
    (leaf : role = .particle ∨ role = .attributeUse)
    (further : VisitedAt position elements (address ++ rest) other below) : rest = [] := by
  induction visited with
  | @here position elements element index role child gives =>
      cases further with
      | here => rfl
      | inside same enters visited =>
          obtain rfl : _ = element := Option.some.inj (same.symm.trans child)
          exact absurd (Position.enter?_eq_none leaf gives) (by simp [enters])
  | @inside position inner elements outer element index address role child enters visited ih =>
      obtain ⟨first, later, rfl⟩ := visited.exists_address
      cases further with
      | inside same alsoEnters further =>
          obtain rfl := Option.some.inj (same.symm.trans child)
          obtain rfl := Option.some.inj (alsoEnters.symm.trans enters)
          exact ih leaf further

end Agreement

end SchemaBinding.Schema
