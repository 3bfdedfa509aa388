import Mathlib.Data.List.Forall2
import Mathlib.Data.List.Nodup
import Mathlib.Data.List.Perm.Basic
import Mathlib.Logic.Relation

/-!
# Depth-first traversals

A traversal turns to pending nodes one after the other.  A node whose key is new
is entered, and all that it leads to is traversed before the next pending node.
The traversal is a relation, so a finite derivation of it is a finite run.
-/

namespace SchemaBinding

/--
A traversal of pending nodes, after the keys of the nodes entered before it.  It
lists the nodes in the order in which they are entered and in the order in which
they are left.
-/
inductive Traversal {κ ν : Type} (key : ν → κ) (next : ν → List ν) :
    List κ → List ν → List ν → List ν → Prop where
  | done (seen : List κ) : Traversal key next seen [] [] []
  | pass {seen : List κ} {node : ν} {rest entered left : List ν}
      (known : key node ∈ seen)
      (after : Traversal key next seen rest entered left) :
      Traversal key next seen (node :: rest) entered left
  | enter {seen : List κ} {node : ν} {rest below leftBelow entered left : List ν}
      (fresh : key node ∉ seen)
      (inside : Traversal key next (key node :: seen) (next node) below leftBelow)
      (after : Traversal key next (below.map key ++ key node :: seen) rest entered left) :
      Traversal key next seen (node :: rest) (node :: (below ++ entered))
        (leftBelow ++ node :: left)

/-- Two places in one list: one stands before the other, or they are the same. -/
theorem append_cons_cases {α : Type} {before after earlier later : List α} {here place : α}
    (split : before ++ here :: after = earlier ++ place :: later) :
    (∃ rest, before = earlier ++ place :: rest) ∨ (earlier = before ∧ place = here) ∨
      ∃ rest, earlier = before ++ here :: rest ∧ after = rest ++ place :: later := by
  rcases List.append_eq_append_iff.1 split with ⟨between, rfl, same⟩ | ⟨between, rfl, same⟩
  · rcases List.cons_eq_append_iff.1 same with ⟨rfl, equal⟩ | ⟨rest, rfl, equal⟩
    · exact .inr (.inl ⟨List.append_nil _, (List.cons_eq_cons.1 equal).1⟩)
    · exact .inr (.inr ⟨rest, rfl, equal⟩)
  · rcases List.cons_eq_append_iff.1 same with ⟨rfl, equal⟩ | ⟨rest, rfl, equal⟩
    · exact .inr (.inl ⟨(List.append_nil _).symm, (List.cons_eq_cons.1 equal).1.symm⟩)
    · exact .inl ⟨rest, rfl⟩

/-- Items that are related one by one have the same images. -/
theorem map_eq_map_of_forall₂ {α β γ : Type} {related : α → β → Prop} {f : α → γ} {g : β → γ}
    (same : ∀ item other, related item other → f item = g other) {items : List α}
    {others : List β} (each : List.Forall₂ related items others) : items.map f = others.map g := by
  induction each with
  | nil => rfl
  | cons head _ ih => rw [List.map_cons, List.map_cons, same _ _ head, ih]

namespace Traversal

variable {κ ν : Type} {key : ν → κ} {next : ν → List ν}
variable {seen : List κ} {pending entered left : List ν}

/-- Only which keys were seen matters, not in which order they are listed. -/
theorem of_seen_iff (traversal : Traversal key next seen pending entered left)
    {others : List κ} (same : ∀ name, name ∈ others ↔ name ∈ seen) :
    Traversal key next others pending entered left := by
  induction traversal generalizing others with
  | done seen => exact .done others
  | pass known after ih => exact .pass ((same _).2 known) (ih same)
  | enter fresh inside after inner outer =>
      refine .enter (fun known => fresh ((same _).1 known)) (inner ?_) (outer ?_)
      · intro name
        simp [same]
      · intro name
        simp [same]

/-- One traversal goes on where another one ended. -/
theorem append (first : Traversal key next seen pending entered left)
    {others enteredLater leftLater : List ν}
    (second : Traversal key next (entered.map key ++ seen) others enteredLater leftLater) :
    Traversal key next seen (pending ++ others) (entered ++ enteredLater)
      (left ++ leftLater) := by
  induction first with
  | done seen => simpa using second
  | pass known after ih => exact .pass known (ih second)
  | @enter seen node rest below leftBelow entered left fresh inside after _ ih =>
      have joined := ih (second.of_seen_iff (by
        intro name
        simp only [List.map_cons, List.map_append, List.mem_append, List.mem_cons,
          or_assoc, or_left_comm]))
      simpa using Traversal.enter fresh inside joined

/-- The nodes that are left are those that were entered. -/
theorem perm (traversal : Traversal key next seen pending entered left) :
    entered.Perm left := by
  induction traversal with
  | done seen => exact .nil
  | pass known after ih => exact ih
  | enter fresh inside after inner outer =>
      exact ((inner.append outer).cons _).trans List.perm_middle.symm

/-- A node is entered only while its key is new. -/
theorem key_not_mem_seen (traversal : Traversal key next seen pending entered left)
    {node : ν} (member : node ∈ entered) : key node ∉ seen := by
  induction traversal with
  | done seen => simp at member
  | pass known after ih => exact ih member
  | enter fresh inside after inner outer =>
      simp only [List.mem_cons, List.mem_append] at member
      rcases member with rfl | member | member
      · exact fresh
      · exact fun known => inner member (List.mem_cons_of_mem _ known)
      · exact fun known => outer member (by simp [known])

/-- No key is entered twice. -/
theorem nodup_keys (traversal : Traversal key next seen pending entered left) :
    (entered.map key).Nodup := by
  induction traversal with
  | done seen => simp
  | pass known after ih => exact ih
  | @enter seen node rest below leftBelow entered left fresh inside after inner outer =>
      have notBelow : key node ∉ below.map key := by
        intro member
        obtain ⟨other, otherIn, equal⟩ := List.mem_map.1 member
        exact inside.key_not_mem_seen otherIn (by simp [equal])
      have notLater : key node ∉ entered.map key := by
        intro member
        obtain ⟨other, otherIn, equal⟩ := List.mem_map.1 member
        exact after.key_not_mem_seen otherIn (by simp [equal])
      have apart : (below.map key).Disjoint (entered.map key) := by
        intro name inBelow inEntered
        obtain ⟨other, otherIn, equal⟩ := List.mem_map.1 inEntered
        exact after.key_not_mem_seen otherIn (by simp [equal, inBelow])
      rw [List.map_cons, List.map_append, List.nodup_cons]
      refine ⟨?_, List.nodup_append'.2 ⟨inner, outer, apart⟩⟩
      simp only [List.mem_append, not_or]
      exact ⟨notBelow, notLater⟩

/-- Every pending node has its key seen or entered. -/
theorem covers (traversal : Traversal key next seen pending entered left)
    {node : ν} (member : node ∈ pending) : key node ∈ seen ∨ key node ∈ entered.map key := by
  induction traversal with
  | done seen => simp at member
  | pass known after ih =>
      rcases List.mem_cons.1 member with rfl | member
      · exact .inl known
      · exact ih member
  | enter fresh inside after inner outer =>
      rcases List.mem_cons.1 member with rfl | member
      · exact .inr (by simp)
      · rcases outer member with known | entered
        · simp only [List.mem_append, List.mem_cons] at known
          rcases known with known | known | known
          · exact .inr (by simp only [List.map_cons, List.map_append]; simp [known])
          · exact .inr (by simp [known])
          · exact .inl known
        · exact .inr (by simp only [List.map_cons, List.map_append]; simp [entered])

/-- Whatever an entered node leads to has its key seen or entered. -/
theorem closed (traversal : Traversal key next seen pending entered left)
    {node target : ν} (member : node ∈ entered) (leads : target ∈ next node) :
    key target ∈ seen ∨ key target ∈ entered.map key := by
  induction traversal with
  | done seen => simp at member
  | pass known after ih => exact ih member
  | @enter seen first rest below leftBelow entered left fresh inside after inner outer =>
      have spread : key target ∈ key first :: seen ∨ key target ∈ below.map key →
          key target ∈ seen ∨ key target ∈ (first :: (below ++ entered)).map key := by
        rintro (known | inBelow)
        · rcases List.mem_cons.1 known with equal | known
          · exact .inr (by simp [equal])
          · exact .inl known
        · exact .inr (by simp only [List.map_cons, List.map_append]; simp [inBelow])
      simp only [List.mem_cons, List.mem_append] at member
      rcases member with rfl | member | member
      · exact spread (inside.covers leads)
      · exact spread (inner member)
      · rcases outer member with known | inEntered
        · rcases List.mem_append.1 known with inBelow | known
          · exact spread (.inr inBelow)
          · exact spread (.inl known)
        · exact .inr (by simp only [List.map_cons, List.map_append]; simp [inEntered])

/-- Every entered node is reached from a pending one. -/
theorem reaches (traversal : Traversal key next seen pending entered left)
    {node : ν} (member : node ∈ entered) :
    ∃ start ∈ pending, Relation.ReflTransGen (fun a b => b ∈ next a) start node := by
  induction traversal with
  | done seen => simp at member
  | pass known after ih =>
      obtain ⟨start, pending, path⟩ := ih member
      exact ⟨start, List.mem_cons_of_mem _ pending, path⟩
  | enter fresh inside after inner outer =>
      simp only [List.mem_cons, List.mem_append] at member
      rcases member with rfl | member | member
      · exact ⟨_, List.mem_cons_self, .refl⟩
      · obtain ⟨start, leads, path⟩ := inner member
        exact ⟨_, List.mem_cons_self, .head leads path⟩
      · obtain ⟨start, pending, path⟩ := outer member
        exact ⟨start, List.mem_cons_of_mem _ pending, path⟩

/-- With nothing seen before, an entered node was either pending or is led to by another one. -/
theorem requested (traversal : Traversal key next seen pending entered left)
    {node : ν} (member : node ∈ entered) :
    node ∈ pending ∨ ∃ owner ∈ entered, node ∈ next owner := by
  induction traversal with
  | done seen => simp at member
  | pass known after ih =>
      rcases ih member with pending | owned
      · exact .inl (List.mem_cons_of_mem _ pending)
      · exact .inr owned
  | enter fresh inside after inner outer =>
      simp only [List.mem_cons, List.mem_append] at member
      rcases member with rfl | member | member
      · exact .inl List.mem_cons_self
      · rcases inner member with leads | ⟨owner, inBelow, leads⟩
        · exact .inr ⟨_, List.mem_cons_self, leads⟩
        · exact .inr ⟨owner, by simp [inBelow], leads⟩
      · rcases outer member with pending | ⟨owner, inEntered, leads⟩
        · exact .inl (List.mem_cons_of_mem _ pending)
        · exact .inr ⟨owner, by simp [inEntered], leads⟩

/-- There is only one traversal of the same nodes. -/
theorem unique (first : Traversal key next seen pending entered left) {others last : List ν}
    (second : Traversal key next seen pending others last) : others = entered ∧ last = left := by
  induction first generalizing others last with
  | done seen =>
      cases second with
      | done _ => exact ⟨rfl, rfl⟩
  | pass known after ih =>
      cases second with
      | pass _ other => exact ih other
      | enter fresh => exact absurd known fresh
  | enter fresh inside after inner outer =>
      cases second with
      | pass known => exact absurd known fresh
      | enter _ otherInside otherAfter =>
          obtain ⟨rfl, rfl⟩ := inner otherInside
          obtain ⟨rfl, rfl⟩ := outer otherAfter
          exact ⟨rfl, rfl⟩

/-- Only where the entered nodes lead matters. -/
theorem congr {other : ν → List ν} (traversal : Traversal key next seen pending entered left)
    (same : ∀ node ∈ entered, other node = next node) :
    Traversal key other seen pending entered left := by
  induction traversal with
  | done seen => exact .done seen
  | pass known after ih => exact .pass known (ih same)
  | @enter seen node rest below leftBelow entered left fresh inside after inner outer =>
      obtain ⟨here, others⟩ := List.forall_mem_cons.1 same
      obtain ⟨sameBelow, sameAfter⟩ := List.forall_mem_append.1 others
      exact .enter fresh (here ▸ inner sameBelow) (outer sameAfter)

/-- Nodes that are related one by one, and lead to such nodes, are traversed alike. -/
theorem rel {related : ν → ν → Prop}
    (keys : ∀ node other, related node other → key node = key other)
    (leads : ∀ node other, related node other → List.Forall₂ related (next node) (next other))
    (traversal : Traversal key next seen pending entered left) {others : List ν}
    (each : List.Forall₂ related pending others) :
    ∃ otherEntered otherLeft, Traversal key next seen others otherEntered otherLeft ∧
      List.Forall₂ related entered otherEntered ∧ List.Forall₂ related left otherLeft := by
  induction traversal generalizing others with
  | done seen =>
      obtain rfl := List.forall₂_nil_left_iff.1 each
      exact ⟨[], [], .done seen, .nil, .nil⟩
  | pass known after ih =>
      obtain ⟨other, rest, same, more, rfl⟩ := List.forall₂_cons_left_iff.1 each
      obtain ⟨otherEntered, otherLeft, traversal, entered, left⟩ := ih more
      exact ⟨otherEntered, otherLeft, .pass (keys _ other same ▸ known) traversal, entered, left⟩
  | enter fresh inside after inner outer =>
      obtain ⟨other, rest, same, more, rfl⟩ := List.forall₂_cons_left_iff.1 each
      obtain ⟨below, leftBelow, otherInside, relatedBelow, relatedLeftBelow⟩ :=
        inner (leads _ other same)
      obtain ⟨otherEntered, otherLeft, otherAfter, relatedEntered, relatedLeft⟩ := outer more
      rw [keys _ other same] at fresh otherInside otherAfter
      rw [map_eq_map_of_forall₂ keys relatedBelow] at otherAfter
      exact ⟨_, _, .enter fresh otherInside otherAfter,
        .cons same (List.rel_append relatedBelow relatedEntered),
        List.rel_append relatedLeftBelow (.cons same relatedLeft)⟩

/-- Nodes to which no node leads are left in the order in which they were pending. -/
theorem filter_sublist (traversal : Traversal key next seen pending entered left) {p : ν → Bool}
    (outer : ∀ node, ∀ target ∈ next node, p target = false) :
    (left.filter p).Sublist (pending.filter p) := by
  induction traversal with
  | done seen => exact .refl _
  | @pass seen node rest entered left known after ih =>
      exact ih.trans ((List.sublist_cons_self node rest).filter p)
  | @enter seen node rest below leftBelow entered left fresh inside after inner outerIh =>
      have none : leftBelow.filter p = [] := by
        have nothing : (next node).filter p = [] :=
          List.filter_eq_nil_iff.2 (fun target leads => by simp [outer node target leads])
        rw [nothing] at inner
        exact List.sublist_nil.1 inner
      rw [List.filter_append, none, List.nil_append, List.filter_cons, List.filter_cons]
      split
      · exact outerIh.cons_cons node
      · exact outerIh

/--
Of the keys that were seen some belong to nodes that were left before; the other
ones are those of nodes not left yet, of lower rank than all that is pending.
-/
def RisesFrom (key : ν → κ) (rank : κ → Nat) (before seen : List κ) (pending : List ν) : Prop :=
  ∀ name ∈ seen, name ∈ before ∨ ∀ node ∈ pending, rank name < rank (key node)

namespace RisesFrom

variable {rank : κ → Nat} {before : List κ} {node : ν} {rest : List ν}
variable (rises : RisesFrom key rank before seen (node :: rest))
include rises

theorem tail : RisesFrom key rank before seen rest :=
  fun name given => (rises name given).imp_right
    fun below other member => below other (List.mem_cons_of_mem _ member)

/-- While a node is traversed, what it leads to is pending. -/
theorem inside {targets : List ν} (higher : ∀ target ∈ targets, rank (key node) < rank (key target)) :
    RisesFrom key rank before (key node :: seen) targets := by
  intro name member
  rcases List.mem_cons.1 member with rfl | given
  · exact .inr higher
  · refine (rises name given).imp_right fun under target leads => ?_
    exact Nat.lt_trans (under node List.mem_cons_self) (higher target leads)

/-- After a node, it is left with all that was entered below it. -/
theorem after {below left : List κ} (same : ∀ name ∈ below, name ∈ left) :
    RisesFrom key rank (before ++ left ++ [key node]) (below ++ key node :: seen) rest := by
  intro name member
  rcases List.mem_append.1 member with inBelow | given
  · exact .inl (by simp [same name inBelow])
  · rcases List.mem_cons.1 given with rfl | given
    · exact .inl (by simp)
    · exact (rises.tail name given).imp_left fun known => by simp [known]

end RisesFrom

/--
Where each node leads to nodes of higher rank only, every node is left after all
that it leads to.
-/
theorem left_after (traversal : Traversal key next seen pending entered left) (rank : κ → Nat)
    (higher : ∀ node, ∀ target ∈ next node, rank (key node) < rank (key target))
    {before : List κ} (rises : RisesFrom key rank before seen pending) :
    ∀ earlier node later, left = earlier ++ node :: later →
      ∀ target ∈ next node, key target ∈ before ∨ key target ∈ earlier.map key := by
  induction traversal generalizing before with
  | done seen => exact fun earlier node later split => absurd split (by simp)
  | pass known after ih => exact ih rises.tail
  | @enter seen first rest below leftBelow entered left fresh inside after inner outer =>
      have sameKeys : ∀ name, name ∈ below.map key ↔ name ∈ leftBelow.map key :=
        fun name => (inside.perm.map key).mem_iff
      have risesInside := rises.inside (higher first)
      have risesAfter := rises.after fun name => (sameKeys name).1
      intro earlier node later split target leads
      rcases append_cons_cases split with ⟨others, same⟩ | ⟨rfl, rfl⟩ | ⟨others, rfl, same⟩
      · exact inner risesInside earlier node others same target leads
      · -- The node itself: what it leads to was seen before it or left below it.
        rcases inside.covers leads with known | inBelow
        · refine (risesInside _ known).imp_right (fun under => ?_)
          exact absurd (under target leads) (Nat.lt_irrefl _)
        · exact .inr ((sameKeys _).1 inBelow)
      · rw [List.map_append, List.map_cons]
        rcases outer risesAfter others node later same target leads with known | here
        · simp only [List.mem_append, List.mem_singleton] at known
          rcases known with (known | inBelow) | own
          · exact .inl known
          · exact .inr (List.mem_append_left _ inBelow)
          · exact .inr (List.mem_append_right _ (own ▸ List.mem_cons_self))
        · exact .inr (List.mem_append_right _ (List.mem_cons_of_mem _ here))

end Traversal

end SchemaBinding
