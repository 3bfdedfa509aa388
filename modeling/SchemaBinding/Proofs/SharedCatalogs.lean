import Mathlib.Logic.Function.Basic
import SchemaBinding.Proofs.ListStores

/-!
# Catalogues that share lists

Whoever looks up a name in a registry is given a list, and may change it at will.  The
registries keep lists of their own, so what a catalogue answers is determined by the
schemas registered in it: all their declarations, in their order, and the first
binding of each label and of each namespace.
-/

namespace SchemaBinding

inductive DeclarationKind where
  | complexType
  | simpleType
  | element
deriving DecidableEq

namespace DeclarationKind

def Carrier : DeclarationKind → Type
  | complexType => ComplexType
  | simpleType => SimpleType
  | element => GlobalElement

def nameOf : (kind : DeclarationKind) → kind.Carrier → String
  | complexType => ComplexType.name
  | simpleType => SimpleType.name
  | element => GlobalElement.name

def declared : (kind : DeclarationKind) → Schema → List kind.Carrier
  | complexType => Schema.complexTypes
  | simpleType => Schema.simpleTypes
  | element => Schema.elements

end DeclarationKind

/-- A registry records items under their names: all of them, in their order. -/
structure Registry.Records {α : Type} (registry : Registry α) (nameOf : α → String)
    (items : List α) : Prop where
  names_eq : registry.names = (items.map nameOf).eraseDups
  get_eq : ∀ name, registry.get name = items.filter (nameOf · == name)
  definitions?_eq : ∀ name, (registry.definitions? name).map Definitions.toList =
    if name ∈ items.map nameOf then some (items.filter (nameOf · == name)) else none

theorem Registry.records_ofList {α : Type} (nameOf : α → String) (items : List α) :
    (ofList nameOf items).Records nameOf items where
  names_eq := names_ofList nameOf items
  get_eq := get_ofList nameOf items
  definitions?_eq name := by
    have contained := contains_ofList nameOf items name
    have all := get_ofList nameOf items name
    unfold contains at contained
    unfold get at all
    cases found : (ofList nameOf items).definitions? name with
    | none =>
        have absent : name ∉ items.map nameOf := by
          rw [List.mem_map, ← contained, found]
          simp
        rw [if_neg absent]
        rfl
    | some definitions =>
        have present : name ∈ items.map nameOf := by
          rw [List.mem_map, ← contained, found]
          rfl
        rw [if_pos present, ← all, found]
        rfl

namespace NamespaceTable

variable (table : NamespaceTable) (bindings : List (String × String))

def registerAll : NamespaceTable :=
  bindings.foldl (fun table (label, uri) => table.register label uri) table

theorem uri?_registerAll (label : String) :
    (table.registerAll bindings).uri? label =
      (table.uri? label).or ((bindings.find? (·.1 == label)).map Prod.snd) := by
  induction bindings generalizing table with
  | nil => exact Option.or_none.symm
  | cons binding rest ih =>
      refine (ih (table.register binding.1 binding.2)).trans ?_
      rw [uri?_register, Option.or_assoc]
      by_cases same : label = binding.1
      · simp [same]
      · simp [same, Ne.symm same]

theorem label?_registerAll (uri : String) :
    (table.registerAll bindings).label? uri =
      (table.label? uri).or ((bindings.find? (·.2 == uri)).map Prod.fst) := by
  induction bindings generalizing table with
  | nil => exact Option.or_none.symm
  | cons binding rest ih =>
      refine (ih (table.register binding.1 binding.2)).trans ?_
      rw [label?_register, Option.or_assoc]
      by_cases same : uri = binding.2
      · simp [same]
      · simp [same, Ne.symm same]

end NamespaceTable

namespace Catalog

def registry (catalog : Catalog) : (kind : DeclarationKind) → Registry kind.Carrier
  | .complexType => catalog.complexTypes
  | .simpleType => catalog.simpleTypes
  | .element => catalog.elements

/-- A catalogue records schemas: each declaration, and the first binding in either direction. -/
structure Records (catalog : Catalog) (schemas : List Schema) : Prop where
  registries : ∀ kind,
    (catalog.registry kind).Records kind.nameOf (schemas.flatMap kind.declared)
  uri?_eq : ∀ label, catalog.namespaces.uri? label =
    ((schemas.flatMap Schema.namespaces).find? (·.1 == label)).map Prod.snd
  label?_eq : ∀ uri, catalog.namespaces.label? uri =
    ((schemas.flatMap Schema.namespaces).find? (·.2 == uri)).map Prod.fst

theorem namespaces_foldl_register (schemas : List Schema) (catalog : Catalog) :
    (schemas.foldl register catalog).namespaces =
      catalog.namespaces.registerAll (schemas.flatMap Schema.namespaces) := by
  induction schemas generalizing catalog with
  | nil => rfl
  | cons schema rest ih =>
      rw [List.foldl_cons, ih, List.flatMap_cons, NamespaceTable.registerAll,
        NamespaceTable.registerAll, List.foldl_append]
      rfl

theorem registry_ofSchemas (schemas : List Schema) (kind : DeclarationKind) :
    (ofSchemas schemas).registry kind = .ofList kind.nameOf (schemas.flatMap kind.declared) := by
  have holds := holds_ofSchemas schemas
  cases kind with
  | complexType => exact holds.complexTypes_eq
  | simpleType => exact holds.simpleTypes_eq
  | element => exact holds.elements_eq

theorem records_ofSchemas (schemas : List Schema) : (ofSchemas schemas).Records schemas where
  registries kind := by
    rw [registry_ofSchemas]
    exact Registry.records_ofList _ _
  uri?_eq label := by
    rw [ofSchemas, namespaces_foldl_register, NamespaceTable.uri?_registerAll]
    rfl
  label?_eq uri := by
    rw [ofSchemas, namespaces_foldl_register, NamespaceTable.label?_registerAll]
    rfl

end Catalog

/-- What a list may hold: a declaration, or anything that a caller has put into it. -/
inductive Item (β : Type) where
  | declaration (kind : DeclarationKind) (item : kind.Carrier)
  | other (thing : β)

/-- A catalogue whose registries keep lists that are changed in place. -/
structure SharedCatalog (β : Type) where
  /-- All lists: those of the registries, and those that were handed out. -/
  store : ListStore (Item β)
  /-- The address of the list of each name, for each kind of declarations. -/
  tables : DeclarationKind → List (String × Nat)
  namespaces : NamespaceTable
  schemas : List Schema
  /-- The addresses of the lists that were handed out, in their order. -/
  lent : List Nat

namespace SharedCatalog

variable {β : Type}

def empty : SharedCatalog β where
  store := []
  tables _ := []
  namespaces := .empty
  schemas := []
  lent := []

def append (shared : SharedCatalog β) (kind : DeclarationKind) (item : kind.Carrier) :
    SharedCatalog β :=
  let added := ListStore.addTo (kind.nameOf item) (.declaration kind item) (shared.tables kind)
    shared.store
  { shared with store := added.2, tables := Function.update shared.tables kind added.1 }

def declare (shared : SharedCatalog β) (kind : DeclarationKind) (items : List kind.Carrier) :
    SharedCatalog β :=
  items.foldl (fun shared item => shared.append kind item) shared

def register (shared : SharedCatalog β) (schema : Schema) : SharedCatalog β :=
  let declared := ((shared.declare .complexType schema.complexTypes).declare .simpleType
    schema.simpleTypes).declare .element schema.elements
  { declared with
    schemas := shared.schemas ++ [schema]
    namespaces := shared.namespaces.registerAll schema.namespaces }

structure Loan (β : Type) where
  address : Nat
  after : SharedCatalog β

def Loan.items? (loan : Loan β) : Option (List (Item β)) :=
  loan.after.store[loan.address]?

def lend (shared : SharedCatalog β) (items : List (Item β)) : Loan β where
  address := shared.store.length
  after := { shared with
    store := shared.store ++ [items]
    lent := shared.lent ++ [shared.store.length] }

def list? (shared : SharedCatalog β) (kind : DeclarationKind) (name : String) :
    Option (List (Item β)) :=
  (Emission.find? (shared.tables kind) name).bind (shared.store[·]?)

/-- A copy of the list of a name, or an empty list for an unknown name. -/
def get (shared : SharedCatalog β) (kind : DeclarationKind) (name : String) : Loan β :=
  shared.lend ((shared.list? kind name).getD [])

def item? (shared : SharedCatalog β) (kind : DeclarationKind) (name : String) : Option (Loan β) :=
  (shared.list? kind name).map shared.lend

/-- The list at a place among those that were handed out gets other items. -/
def change (shared : SharedCatalog β) (place : Nat) (items : List (Item β)) : SharedCatalog β :=
  { shared with
    store := match shared.lent[place]? with
      | some address => shared.store.set address items
      | none => shared.store }

inductive Call (β : Type) where
  | register (schema : Schema)
  | get (kind : DeclarationKind) (name : String)
  | item (kind : DeclarationKind) (name : String)
  | change (place : Nat) (items : List (Item β))

namespace Call

def perform (shared : SharedCatalog β) : Call β → SharedCatalog β
  | register schema => shared.register schema
  | get kind name => (shared.get kind name).after
  | item kind name => ((shared.item? kind name).map Loan.after).getD shared
  | change place items => shared.change place items

def schema? : Call β → Option Schema
  | register schema => some schema
  | _ => none

end Call

def after (calls : List (Call β)) : SharedCatalog β :=
  calls.foldl Call.perform .empty

def owned (shared : SharedCatalog β) (kind : DeclarationKind) : List Nat :=
  (shared.tables kind).map Prod.snd

/--
The lists of the registries are theirs alone: no two names share one, and none was
handed out.  They show the entries of registries that share nothing.
-/
structure IsSound (shared : SharedCatalog β)
    (registries : (kind : DeclarationKind) → Registry kind.Carrier) : Prop where
  shows : ∀ kind, shared.store.Shows (Item.declaration kind) (shared.tables kind)
    (registries kind).entries
  distinct : ∀ kind, (shared.owned kind).Nodup
  apart : ∀ kind other, kind ≠ other →
    ∀ address ∈ shared.owned kind, address ∉ shared.owned other
  unlent : ∀ kind, ∀ address ∈ shared.owned kind, address ∉ shared.lent
  lent_lt : ∀ address ∈ shared.lent, address < shared.store.length

section Append

variable {shared : SharedCatalog β} {kind : DeclarationKind} {item : kind.Carrier}

theorem tables_append_self : (shared.append kind item).tables kind =
    (ListStore.addTo (kind.nameOf item) (.declaration kind item) (shared.tables kind)
      shared.store).1 :=
  Function.update_self _ _ _

theorem tables_append_of_ne {other : DeclarationKind} (different : other ≠ kind) :
    (shared.append kind item).tables other = shared.tables other :=
  Function.update_of_ne different _ _

/-- A registry comes to own at most one more list, which is new. -/
theorem owned_append (other : DeclarationKind) :
    (shared.append kind item).owned other = shared.owned other ∨ other = kind ∧
      (shared.append kind item).owned other = shared.owned other ++ [shared.store.length] := by
  by_cases same : other = kind
  · subst same
    unfold owned
    rw [tables_append_self]
    exact (ListStore.addresses_addTo _ _).imp_right fun more => ⟨rfl, more⟩
  · exact .inl (congrArg (List.map Prod.snd) (tables_append_of_ne same))

theorem mem_owned_append {other : DeclarationKind} {address : Nat}
    (member : address ∈ (shared.append kind item).owned other) :
    address ∈ shared.owned other ∨ other = kind ∧ address = shared.store.length := by
  rcases (owned_append other : (shared.append kind item).owned other = _ ∨ _) with same | more
  · exact .inl (same ▸ member)
  · rw [more.2, List.mem_append, List.mem_singleton] at member
    exact member.imp_right fun new => ⟨more.1, new⟩

end Append

namespace IsSound

variable {shared : SharedCatalog β}
variable {registries : (kind : DeclarationKind) → Registry kind.Carrier}

theorem owned_lt (sound : shared.IsSound registries) (kind : DeclarationKind) :
    ∀ address ∈ shared.owned kind, address < shared.store.length :=
  (sound.shows kind).lt_length

/-- Adding a declaration in place adds it to the registry of its kind, and to no other. -/
theorem append (sound : shared.IsSound registries) (kind : DeclarationKind)
    (item : kind.Carrier) :
    (shared.append kind item).IsSound (Function.update registries kind
      ((registries kind).append (kind.nameOf item) item)) where
  shows other := by
    by_cases same : other = kind
    · subst same
      rw [Function.update_self, tables_append_self]
      exact (sound.shows other).addTo (sound.distinct other) (other.nameOf item) item
    · rw [Function.update_of_ne same, tables_append_of_ne same]
      refine (sound.shows other).congr fun address member => ?_
      exact ListStore.getElem?_addTo _ _ (sound.owned_lt other address member)
        (sound.apart other kind same address member)
  distinct other := by
    rcases owned_append other with same | ⟨-, more⟩
    · rw [same]
      exact sound.distinct other
    · rw [more]
      refine List.nodup_append'.2 ⟨sound.distinct other, List.nodup_singleton _, ?_⟩
      rw [List.disjoint_singleton]
      exact fun member => Nat.lt_irrefl _ (sound.owned_lt other _ member)
  apart other another different address member again := by
    rcases mem_owned_append member with old | ⟨same, new⟩
    · rcases mem_owned_append again with oldToo | ⟨-, new⟩
      · exact sound.apart other another different address old oldToo
      · exact Nat.ne_of_lt (sound.owned_lt other address old) new
    · rcases mem_owned_append again with old | ⟨sameToo, -⟩
      · exact Nat.ne_of_lt (sound.owned_lt another address old) new
      · exact different (same.trans sameToo.symm)
  unlent other address member lent := by
    rcases mem_owned_append member with old | ⟨-, new⟩
    · exact sound.unlent other address old lent
    · exact Nat.ne_of_lt (sound.lent_lt address lent) new
  lent_lt address member :=
    Nat.lt_of_lt_of_le (sound.lent_lt address member) (ListStore.length_le_addTo _ _)

theorem declare (sound : shared.IsSound registries) (kind : DeclarationKind)
    (items : List kind.Carrier) :
    (shared.declare kind items).IsSound (Function.update registries kind
      ((registries kind).appendAll kind.nameOf items)) := by
  induction items generalizing shared registries with
  | nil =>
      rw [Registry.appendAll, List.foldl_nil, Function.update_eq_self]
      exact sound
  | cons item rest ih =>
      have added := ih (sound.append kind item)
      rw [Function.update_idem, Function.update_self] at added
      exact added

/-- Registration in place is registration. -/
theorem register {catalog : Catalog} (sound : shared.IsSound catalog.registry) (schema : Schema) :
    (shared.register schema).IsSound (catalog.register schema).registry := by
  have declared := ((sound.declare .complexType schema.complexTypes).declare .simpleType
    schema.simpleTypes).declare .element schema.elements
  refine ⟨fun kind => ?_, declared.distinct, declared.apart, declared.unlent, declared.lent_lt⟩
  have shown := declared.shows kind
  cases kind with
  | complexType => exact shown
  | simpleType => exact shown
  | element => exact shown

/-- What is handed out is a new list. -/
theorem lend (sound : shared.IsSound registries) (items : List (Item β)) :
    (shared.lend items).after.IsSound registries where
  shows kind := (sound.shows kind).concat items
  distinct := sound.distinct
  apart := sound.apart
  unlent kind address member lent := by
    rcases List.mem_append.1 lent with before | new
    · exact sound.unlent kind address member before
    · exact Nat.ne_of_lt (sound.owned_lt kind address member) (List.mem_singleton.1 new)
  lent_lt address member := by
    unfold SharedCatalog.lend
    rw [List.length_append, List.length_singleton]
    rcases List.mem_append.1 member with before | new
    · exact Nat.lt_succ_of_lt (sound.lent_lt address before)
    · exact Nat.lt_succ_of_le (Nat.le_of_eq (List.mem_singleton.1 new))

/-- A list that was handed out belongs to no registry, so its changes are not seen. -/
theorem change (sound : shared.IsSound registries) (place : Nat) (items : List (Item β)) :
    (shared.change place items).IsSound registries where
  shows kind := by
    unfold SharedCatalog.change
    cases found : shared.lent[place]? with
    | none => exact sound.shows kind
    | some address =>
        have lent : address ∈ shared.lent := List.mem_of_getElem? found
        exact (sound.shows kind).set (fun owned => sound.unlent kind address owned lent) items
  distinct := sound.distinct
  apart := sound.apart
  unlent := sound.unlent
  lent_lt address member := by
    have known := sound.lent_lt address member
    unfold SharedCatalog.change
    dsimp only
    split
    · rwa [List.length_set]
    · exact known

/-- The list of a name holds the definitions of the name. -/
theorem list?_eq (sound : shared.IsSound registries) (kind : DeclarationKind) (name : String) :
    shared.list? kind name = ((registries kind).definitions? name).map
      (fun definitions => definitions.toList.map (.declaration kind)) :=
  (sound.shows kind).find?_eq name

end IsSound

theorem items?_lend (shared : SharedCatalog β) (items : List (Item β)) :
    (shared.lend items).items? = some items :=
  List.getElem?_concat_length

/-- Whatever is asked, the answer is that of a catalogue whose registries share no lists. -/
structure AnswersAs (shared : SharedCatalog β) (catalog : Catalog) : Prop where
  schemas_eq : shared.schemas = catalog.schemas
  namespaces_eq : shared.namespaces = catalog.namespaces
  names_eq : ∀ kind, (shared.tables kind).map Prod.fst = (catalog.registry kind).names
  list?_eq : ∀ kind name, shared.list? kind name =
    ((catalog.registry kind).definitions? name).map
      (fun definitions => definitions.toList.map (.declaration kind))
  get_eq : ∀ kind name, (shared.get kind name).items? =
    some (((catalog.registry kind).get name).map (.declaration kind))
  item?_eq : ∀ kind name, (shared.item? kind name).map Loan.items? =
    ((catalog.registry kind).definitions? name).map
      (fun definitions => some (definitions.toList.map (.declaration kind)))

/-- A catalogue that shares its lists stands for one that has registered the same schemas. -/
structure Refines (shared : SharedCatalog β) (catalog : Catalog) : Prop where
  sound : shared.IsSound catalog.registry
  schemas_eq : shared.schemas = catalog.schemas
  namespaces_eq : shared.namespaces = catalog.namespaces

def registered (calls : List (Call β)) : List Schema :=
  calls.filterMap Call.schema?

theorem refines_empty : (empty : SharedCatalog β).Refines .empty where
  sound := {
    shows := fun kind => by cases kind <;> exact .nil
    distinct := fun _ => .nil
    apart := fun _ _ _ _ member => absurd member List.not_mem_nil
    unlent := fun _ _ member => absurd member List.not_mem_nil
    lent_lt := fun _ member => absurd member List.not_mem_nil }
  schemas_eq := rfl
  namespaces_eq := rfl

namespace Refines

variable {shared : SharedCatalog β} {catalog : Catalog}

theorem answersAs (refines : shared.Refines catalog) : shared.AnswersAs catalog where
  schemas_eq := refines.schemas_eq
  namespaces_eq := refines.namespaces_eq
  names_eq kind := (refines.sound.shows kind).keys_eq
  list?_eq := refines.sound.list?_eq
  get_eq kind name := by
    rw [SharedCatalog.get, items?_lend, refines.sound.list?_eq, Registry.get]
    cases (catalog.registry kind).definitions? name <;> rfl
  item?_eq kind name := by
    rw [item?, refines.sound.list?_eq, Option.map_map, Option.map_map]
    exact Option.map_congr fun definitions _ => items?_lend shared _

/-- Only registration is seen in the answers. -/
theorem perform (refines : shared.Refines catalog) (call : Call β) :
    (call.perform shared).Refines ((registered [call]).foldl Catalog.register catalog) := by
  obtain ⟨sound, schemas, namespaces⟩ := refines
  cases call with
  | register schema =>
      refine ⟨sound.register schema, congrArg (· ++ [schema]) schemas, ?_⟩
      exact congrArg (NamespaceTable.registerAll · schema.namespaces) namespaces
  | get kind name => exact ⟨sound.lend _, schemas, namespaces⟩
  | item kind name =>
      unfold Call.perform item?
      dsimp only
      cases shared.list? kind name with
      | none => exact ⟨sound, schemas, namespaces⟩
      | some items => exact ⟨sound.lend items, schemas, namespaces⟩
  | change place items => exact ⟨sound.change place items, schemas, namespaces⟩

end Refines

theorem refines_after (calls : List (Call β)) :
    (after calls).Refines (.ofSchemas (registered calls)) := by
  induction calls using List.reverseRecOn with
  | nil => exact refines_empty
  | append_singleton calls call ih =>
      have step := ih.perform call
      rw [Catalog.ofSchemas, ← List.foldl_append, registered, registered,
        ← List.filterMap_append] at step
      rw [after, List.foldl_append]
      exact step

/--
After any calls a catalogue records the schemas that they registered, and whatever
became of the lists that it handed out, it answers as if it had handed out none.
-/
theorem keepsDeclarations (calls : List (Call β)) :
    (Catalog.ofSchemas (registered calls)).Records (registered calls) ∧
      (after calls).AnswersAs (Catalog.ofSchemas (registered calls)) :=
  ⟨Catalog.records_ofSchemas _, (refines_after calls).answersAs⟩

end SharedCatalog

end SchemaBinding
