import SchemaBinding.Generator
import SchemaBinding.Proofs.AlikeCatalogs

/-!
# Workspaces

The records of schemas, the types that are merged of them and the parts of a model may
be objects that refer to each other, some of which are changed in place.  A workspace
holds the objects of each kind; the address of an object is its position among them.
What is at an address may be shared by everything that knows the address.
-/

namespace SchemaBinding

/-- The address of an object: where it is among those of its kind. -/
abbrev Handle : Type := Nat

/-- A complex type, whose elements and attributes are listed elsewhere. -/
structure TypeObject where
  name : String
  elements : Handle
  attributes : Handle
  base : Option QName
  text : Option QName
  targetNamespace : Option String
  source : Option FilePath
deriving Inhabited

structure MergedObject where
  name : String
  elements : Handle
  attributes : Handle
  base : Option QName
  text : Option QName
  targetNamespace : Option String
  sources : List FilePath
deriving Inhabited

structure ElementObject where
  name : String
  typeName : Option QName
  complexType : Option Handle
  targetNamespace : Option String
  source : Option FilePath
deriving Inhabited

structure SchemaObject where
  source : FilePath
  targetNamespace : Option String
  namespaces : List (String × String)
  complexTypes : Handle
  simpleTypes : Handle
  elements : Handle
  directives : List Directive
deriving Inhabited

structure FieldObject where
  name : String
  originalName : String
  type : Handle
  binding : Binding
  isRequired : Bool
  role : FieldRole
deriving Inhabited

structure ClassObject where
  name : String
  originalName : String
  uri : Option String
  base : Option String
  fields : List Handle
  root : Option RootElement
  isSynthesized : Bool
  isEmpty : Bool
deriving Inhabited

structure ModelObject where
  enums : List Handle
  classes : List Handle
  names : List (String × String)
deriving Inhabited

inductive ObjectKind where
  | list
  | attributeUse
  | particle
  | complexType
  | simpleType
  | element
  | schema
  | merged
  | type
  | field
  | structural
  | enumeration
  | model
deriving DecidableEq

namespace ObjectKind

def Content : ObjectKind → Type
  | list => List Handle
  | attributeUse => AttributeUse
  | particle => Particle Handle
  | complexType => TypeObject
  | simpleType => SimpleType
  | element => ElementObject
  | schema => SchemaObject
  | merged => MergedObject
  | type => TypeRef
  | field => FieldObject
  | structural => ClassObject
  | enumeration => EnumModel
  | model => ModelObject

instance : (kind : ObjectKind) → Inhabited kind.Content
  | list => inferInstanceAs (Inhabited (List Handle))
  | attributeUse => inferInstanceAs (Inhabited AttributeUse)
  | particle => inferInstanceAs (Inhabited (Particle Handle))
  | complexType => inferInstanceAs (Inhabited TypeObject)
  | simpleType => inferInstanceAs (Inhabited SimpleType)
  | element => inferInstanceAs (Inhabited ElementObject)
  | schema => inferInstanceAs (Inhabited SchemaObject)
  | merged => inferInstanceAs (Inhabited MergedObject)
  | type => inferInstanceAs (Inhabited TypeRef)
  | field => inferInstanceAs (Inhabited FieldObject)
  | structural => inferInstanceAs (Inhabited ClassObject)
  | enumeration => inferInstanceAs (Inhabited EnumModel)
  | model => inferInstanceAs (Inhabited ModelObject)

/-- Whether objects of a kind are part of what documents declare. -/
@[simp]
def isRecord : ObjectKind → Bool
  | list | attributeUse | particle | complexType | simpleType | element | schema => true
  | merged | type | field | structural | enumeration | model => false

end ObjectKind

structure AddressTables where
  /-- The list of the definitions of each complex type. -/
  complexTypes : List (String × Handle)
  simpleTypes : List (String × Handle)
  elements : List (String × Handle)
  namespaces : NamespaceTable
  schemas : List Handle
  /-- The merged types that are kept. -/
  merged : List (String × Handle)
  scalars : List (String × ScalarType)

/-- All objects, with the tables that lead to some of them. -/
structure Workspace where
  objects : (kind : ObjectKind) → List kind.Content
  tables : AddressTables

abbrev Work (α : Type) : Type :=
  StateT Workspace Logged α

namespace Workspace

def content (workspace : Workspace) (kind : ObjectKind) (address : Handle) : kind.Content :=
  (workspace.objects kind)[address]?.getD default

def fresh (workspace : Workspace) (kind : ObjectKind) : Handle :=
  (workspace.objects kind).length

def withObjects (workspace : Workspace) (kind : ObjectKind) (contents : List kind.Content) :
    Workspace :=
  { workspace with objects := Function.update workspace.objects kind contents }

def push (workspace : Workspace) (kind : ObjectKind) (content : kind.Content) : Workspace :=
  workspace.withObjects kind (workspace.objects kind ++ [content])

def modify (workspace : Workspace) (kind : ObjectKind) (address : Handle)
    (next : kind.Content → kind.Content) : Workspace :=
  workspace.withObjects kind ((workspace.objects kind).modify address next)

end Workspace

namespace Work

variable {α β : Type}

def ofLogged (logged : Logged α) : Work α :=
  StateT.lift logged

def report (record : Record) : Work Unit :=
  ofLogged (Logged.report record)

def fetch (kind : ObjectKind) (address : Handle) : Work kind.Content :=
  return (← get).content kind address

def allocate (kind : ObjectKind) (content : kind.Content) : Work Handle := do
  let workspace ← get
  set (workspace.push kind content)
  return workspace.fresh kind

def change (kind : ObjectKind) (address : Handle) (next : kind.Content → kind.Content) :
    Work Unit :=
  modify fun workspace => workspace.modify kind address next

end Work

namespace Workspace

def Has (workspace : Workspace) (kind : ObjectKind) (address : Handle) (content : kind.Content) :
    Prop :=
  (workspace.objects kind)[address]? = some content

section Objects

variable {workspace : Workspace} {kind other : ObjectKind} {address : Handle}
variable {content : kind.Content}

theorem Has.content_eq (has : workspace.Has kind address content) :
    workspace.content kind address = content := by
  unfold Workspace.content
  rw [has, Option.getD_some]

theorem Has.lt_fresh (has : workspace.Has kind address content) :
    address < workspace.fresh kind :=
  (List.getElem?_eq_some_iff.1 has).1

theorem objects_withObjects_of_ne (different : other ≠ kind) (contents : List kind.Content) :
    (workspace.withObjects kind contents).objects other = workspace.objects other :=
  Function.update_of_ne different _ _

theorem objects_withObjects_self (contents : List kind.Content) :
    (workspace.withObjects kind contents).objects kind = contents :=
  Function.update_self _ _ _

theorem has_push_self (content : kind.Content) :
    (workspace.push kind content).Has kind (workspace.fresh kind) content := by
  unfold Has push fresh
  rw [objects_withObjects_self]
  exact List.getElem?_concat_length

theorem Has.push {content : other.Content} (has : workspace.Has other address content)
    (added : kind.Content) : (workspace.push kind added).Has other address content := by
  unfold Has Workspace.push
  by_cases same : other = kind
  · subst same
    rw [objects_withObjects_self]
    exact List.getElem?_append_left has.lt_fresh ▸ has
  · rw [objects_withObjects_of_ne same]
    exact has

theorem has_modify_self (has : workspace.Has kind address content)
    (next : kind.Content → kind.Content) :
    (workspace.modify kind address next).Has kind address (next content) := by
  unfold Has Workspace.modify
  rw [objects_withObjects_self, List.getElem?_modify_eq, has]
  rfl

theorem Has.modify {content : other.Content} {place : Handle}
    (has : workspace.Has other place content) (next : kind.Content → kind.Content)
    (apart : (other, place) ≠ (kind, address)) :
    (workspace.modify kind address next).Has other place content := by
  unfold Has Workspace.modify
  by_cases same : other = kind
  · subst same
    have elsewhere : address ≠ place := fun equal => apart (by rw [equal])
    rw [objects_withObjects_self, List.getElem?_modify_ne _ _ elsewhere]
    exact has
  · rw [objects_withObjects_of_ne same]
    exact has

theorem fresh_le_push (added : kind.Content) :
    workspace.fresh other ≤ (workspace.push kind added).fresh other := by
  unfold fresh push
  by_cases same : other = kind
  · subst same
    rw [objects_withObjects_self, List.length_append]
    exact Nat.le_add_right _ _
  · exact Nat.le_of_eq (congrArg List.length (objects_withObjects_of_ne same _)).symm

theorem fresh_modify (next : kind.Content → kind.Content) :
    (workspace.modify kind address next).fresh other = workspace.fresh other := by
  unfold fresh Workspace.modify
  by_cases same : other = kind
  · subst same
    rw [objects_withObjects_self, List.length_modify]
  · rw [objects_withObjects_of_ne same]

end Objects

/--
What may happen to a workspace: the given objects may change, and new ones may be
made.  The other objects stay as they are, and so do all declarations; what is computed
of them is still there.
-/
structure Extends (allowed : List (ObjectKind × Handle)) (before after : Workspace) : Prop where
  has : ∀ {kind address content}, (kind, address) ∉ allowed →
    before.Has kind address content → after.Has kind address content
  fresh_le : ∀ kind, before.fresh kind ≤ after.fresh kind
  complexTypes_eq : after.tables.complexTypes = before.tables.complexTypes
  simpleTypes_eq : after.tables.simpleTypes = before.tables.simpleTypes
  elements_eq : after.tables.elements = before.tables.elements
  namespaces_eq : after.tables.namespaces = before.tables.namespaces
  schemas_eq : after.tables.schemas = before.tables.schemas
  merged_prefix : before.tables.merged <+: after.tables.merged
  scalars_prefix : before.tables.scalars <+: after.tables.scalars

/-- The given objects may change, and new ones may be made; no table changes. -/
structure Keeps (allowed : List (ObjectKind × Handle)) (before after : Workspace) : Prop where
  has : ∀ {kind address content}, (kind, address) ∉ allowed →
    before.Has kind address content → after.Has kind address content
  fresh_le : ∀ kind, before.fresh kind ≤ after.fresh kind
  tables_eq : after.tables = before.tables

section Frames

variable {allowed more : List (ObjectKind × Handle)} {before middle after : Workspace}
variable {kind : ObjectKind} {address : Handle}

theorem Keeps.extends (keeps : Keeps allowed before after) : Extends allowed before after := by
  obtain ⟨has, fresh, tables⟩ := keeps
  refine ⟨has, fresh, ?_, ?_, ?_, ?_, ?_, ?_, ?_⟩ <;> simp only [tables, List.prefix_rfl]

theorem Keeps.trans (first : Keeps allowed before middle) (second : Keeps allowed middle after) :
    Keeps allowed before after where
  has outside has := second.has outside (first.has outside has)
  fresh_le kind := Nat.le_trans (first.fresh_le kind) (second.fresh_le kind)
  tables_eq := second.tables_eq.trans first.tables_eq

theorem Extends.trans (first : Extends allowed before middle)
    (second : Extends allowed middle after) : Extends allowed before after where
  has outside has := second.has outside (first.has outside has)
  fresh_le kind := Nat.le_trans (first.fresh_le kind) (second.fresh_le kind)
  complexTypes_eq := second.complexTypes_eq.trans first.complexTypes_eq
  simpleTypes_eq := second.simpleTypes_eq.trans first.simpleTypes_eq
  elements_eq := second.elements_eq.trans first.elements_eq
  namespaces_eq := second.namespaces_eq.trans first.namespaces_eq
  schemas_eq := second.schemas_eq.trans first.schemas_eq
  merged_prefix := first.merged_prefix.trans second.merged_prefix
  scalars_prefix := first.scalars_prefix.trans second.scalars_prefix

instance : IsPreorder Workspace (Keeps allowed) where
  refl _ := ⟨fun _ has => has, fun _ => Nat.le_refl _, rfl⟩
  trans _ _ _ := Keeps.trans

instance : IsPreorder Workspace (Extends allowed) where
  refl before := (refl before : Keeps allowed before before).extends
  trans _ _ _ := Extends.trans

theorem Keeps.mono (keeps : Keeps allowed before after) (inside : allowed ⊆ more) :
    Keeps more before after where
  has outside := keeps.has fun member => outside (inside member)
  fresh_le := keeps.fresh_le
  tables_eq := keeps.tables_eq

theorem Extends.mono (extend : Extends allowed before after) (inside : allowed ⊆ more) :
    Extends more before after :=
  { extend with has := fun outside => extend.has fun member => outside (inside member) }

theorem keeps_push (content : kind.Content) : Keeps [] before (before.push kind content) where
  has _ has := has.push content
  fresh_le _ := fresh_le_push content
  tables_eq := rfl

theorem keeps_modify (inside : (kind, address) ∈ allowed) (next : kind.Content → kind.Content) :
    Keeps allowed before (before.modify kind address next) where
  has outside has := has.modify next fun same => outside (same ▸ inside)
  fresh_le _ := Nat.le_of_eq (fresh_modify next).symm
  tables_eq := rfl

theorem Has.not_mem_cons {other : ObjectKind} {place : Handle} {content : other.Content}
    (has : before.Has other place content) (outside : (other, place) ∉ allowed)
    (new : before.fresh kind ≤ address) : (other, place) ∉ (kind, address) :: allowed := by
  refine List.not_mem_cons_of_ne_of_not_mem (fun same => ?_) outside
  obtain ⟨rfl, rfl⟩ := Prod.mk.inj same
  exact Nat.not_lt.2 new has.lt_fresh

/-- An object that was not there before may change. -/
theorem Keeps.of_new (keeps : Keeps ((kind, address) :: allowed) before after)
    (new : before.fresh kind ≤ address) : Keeps allowed before after :=
  { keeps with has := fun outside has => keeps.has (has.not_mem_cons outside new) has }

theorem Extends.of_new (more : Extends ((kind, address) :: allowed) before after)
    (new : before.fresh kind ≤ address) : Extends allowed before after :=
  { more with has := fun outside has => more.has (has.not_mem_cons outside new) has }

theorem Keeps.after_new (first : Keeps allowed before middle)
    (second : Keeps ((kind, address) :: allowed) middle after)
    (new : before.fresh kind ≤ address) : Keeps allowed before after :=
  ((first.mono (List.subset_cons_self _ _)).trans second).of_new new

end Frames

end Workspace

namespace Work

open Workspace

variable {α β γ δ : Type}

/--
A computation reports what a plain one does, the workspace before and the one after it
are within a frame, and the results are related.
-/
structure Simulates (frame : Workspace → Workspace → Prop) (work : Work α) (before : Workspace)
    (plain : Logged β) (related : α → β → Workspace → Prop) : Prop where
  records_eq : (work before).records = plain.records
  framed : frame before (work before).value.2
  related : related (work before).value.1 plain.value (work before).value.2

namespace Simulates

section Rules

variable {frame small : Workspace → Workspace → Prop}
variable {work : Work α} {next : α → Work γ} {before : Workspace} {plain : Logged β}
variable {more : β → Logged δ} {middle : α → β → Workspace → Prop}
variable {related : γ → δ → Workspace → Prop}

theorem weaken (simulates : Simulates small work before plain middle)
    (inside : ∀ {after}, small before after → frame before after) :
    Simulates frame work before plain middle :=
  ⟨simulates.records_eq, inside simulates.framed, simulates.related⟩

theorem imp {wider : α → β → Workspace → Prop}
    (simulates : Simulates small work before plain middle)
    (implies : ∀ a b after, small before after → middle a b after → wider a b after) :
    Simulates small work before plain wider :=
  ⟨simulates.records_eq, simulates.framed,
    implies _ _ _ simulates.framed simulates.related⟩

/-- What is plainly computed may be looked at through a function. -/
theorem map {view : β → δ} {seen : α → δ → Workspace → Prop}
    (simulates : Simulates small work before plain fun a b after => seen a (view b) after) :
    Simulates small work before (view <$> plain) seen :=
  ⟨simulates.records_eq.trans (List.append_nil plain.records).symm, simulates.framed,
    simulates.related⟩

theorem ite {condition : Prop} [Decidable condition] {other : Work α} {otherPlain : Logged β}
    (yes : condition → Simulates frame work before plain middle)
    (no : ¬condition → Simulates frame other before otherPlain middle) :
    Simulates frame (if condition then work else other) before
      (if condition then plain else otherPlain) middle := by
  split
  · exact yes ‹_›
  · exact no ‹_›

theorem get {next : Workspace → Work γ} {plain : Logged δ}
    (rest : Simulates frame (next before) before plain related) :
    Simulates frame (get >>= next) before plain related :=
  ⟨rest.records_eq, rest.framed, rest.related⟩

theorem fetch {kind : ObjectKind} {address : Handle} {content : kind.Content}
    {next : kind.Content → Work γ} {plain : Logged δ} (has : before.Has kind address content)
    (rest : Simulates frame (next content) before plain related) :
    Simulates frame (fetch kind address >>= next) before plain related := by
  rw [← has.content_eq] at rest
  exact ⟨rest.records_eq, rest.framed, rest.related⟩

theorem ofLogged {logged : Logged α} {plain : Logged β} (same : logged.records = plain.records)
    (rest : Simulates frame (next logged.value) before (more plain.value) related) :
    Simulates frame (Work.ofLogged logged >>= next) before (plain >>= more) related := by
  refine ⟨?_, rest.framed, rest.related⟩
  refine congrArg₂ (· ++ ·) ?_ rest.records_eq
  exact (List.append_nil logged.records).trans same

theorem report {record : Record} {next : Unit → Work γ} {more : Unit → Logged δ}
    (rest : Simulates frame (next ()) before (more ()) related) :
    Simulates frame (report record >>= next) before (Logged.report record >>= more) related :=
  ofLogged rfl rest

variable [IsPreorder Workspace frame]

theorem pure {first : γ} {second : δ} (given : related first second before) :
    Simulates frame (pure first) before (pure second) related :=
  ⟨rfl, refl before, given⟩

theorem bind (first : Simulates small work before plain middle)
    (inside : ∀ {after}, small before after → frame before after)
    (rest : ∀ a b after, small before after → middle a b after →
      Simulates frame (next a) after (more b) related) :
    Simulates frame (work >>= next) before (plain >>= more) related := by
  have second := rest _ _ _ first.framed first.related
  refine ⟨?_, IsTrans.trans _ _ _ (inside first.framed) second.framed, second.related⟩
  exact congrArg₂ (· ++ ·) first.records_eq second.records_eq

/-- The last thing that is done is that a record is reported. -/
theorem lastReport {record : Record} {related : Unit → Unit → Workspace → Prop}
    (given : related () () before) :
    Simulates frame (Work.report record) before (Logged.report record) related :=
  ⟨rfl, refl before, given⟩

theorem modify {changed : Workspace → Workspace} {next : Unit → Work γ} {plain : Logged δ}
    (inside : frame before (changed before))
    (rest : Simulates frame (next ()) (changed before) plain related) :
    Simulates frame (modify changed >>= next) before plain related :=
  ⟨rest.records_eq, IsTrans.trans _ _ _ inside rest.framed, rest.related⟩

/-- What each step of a loop keeps, the loop keeps. -/
theorem foldlM {σ τ : Type} {step : σ → α → Work σ} {plainStep : τ → β → Logged τ}
    {kept : σ → τ → Workspace → Prop} (each : Workspace → α → β → Prop)
    (stable : ∀ before after, frame before after → ∀ item other, each before item other →
      each after item other)
    (steps : ∀ {before item other state plainState}, each before item other →
      kept state plainState before →
      Simulates frame (step state item) before (plainStep plainState other) kept)
    {items : List α} {others : List β} (held : List.Forall₂ (each before) items others)
    {state : σ} {plainState : τ} (start : kept state plainState before) :
    Simulates frame (items.foldlM step state) before (others.foldlM plainStep plainState)
      kept := by
  induction others generalizing before items state plainState with
  | nil =>
      obtain rfl := List.forall₂_nil_right_iff.1 held
      exact pure start
  | cons other others ih =>
      obtain ⟨item, rest, first, more, rfl⟩ := List.forall₂_cons_right_iff.1 held
      rw [List.foldlM_cons, List.foldlM_cons]
      refine bind (steps first start) id fun _ _ _ framed next => ?_
      exact ih (more.imp (stable _ _ framed)) next

/-- What comes after is not seen in the plain computation. -/
theorem bindPure {related : γ → β → Workspace → Prop}
    (first : Simulates small work before plain middle)
    (inside : ∀ {after}, small before after → frame before after)
    (rest : ∀ a b after, small before after → middle a b after →
      Simulates frame (next a) after (Pure.pure b) related) :
    Simulates frame (work >>= next) before plain related := by
  rw [← bind_pure plain]
  exact bind first inside rest

/-- What nothing is reported of and is not seen in the plain computation. -/
theorem step {value : β} {plain : Logged δ}
    (first : Simulates small work before (Pure.pure value) middle)
    (inside : ∀ {after}, small before after → frame before after)
    (rest : ∀ a after, small before after → middle a value after →
      Simulates frame (next a) after plain related) :
    Simulates frame (work >>= next) before plain related := by
  have second := rest _ _ first.framed first.related
  refine ⟨?_, IsTrans.trans _ _ _ (inside first.framed) second.framed, second.related⟩
  exact congrArg₂ (· ++ ·) first.records_eq second.records_eq

end Rules

section Objects

variable {allowed : List (ObjectKind × Handle)} {kind : ObjectKind} {address : Handle}
variable {before : Workspace} {plain : Logged δ} {related : γ → δ → Workspace → Prop}

/-- What has been made may be changed. -/
theorem allocate {content : kind.Content} {next : Handle → Work γ}
    (rest : ∀ address after, before.fresh kind ≤ address → Keeps [] before after →
      after.Has kind address content →
      Simulates (Keeps ((kind, address) :: allowed)) (next address) after plain related) :
    Simulates (Keeps allowed) (allocate kind content >>= next) before plain related := by
  have made := @keeps_push before kind content
  have last := rest _ _ (Nat.le_refl _) made (has_push_self content)
  exact ⟨last.records_eq, (made.mono (List.nil_subset _)).after_new last.framed (Nat.le_refl _),
    last.related⟩

/-- What has been made may be changed, and the tables may be extended too. -/
theorem create {content : kind.Content} {next : Handle → Work γ}
    (rest : Simulates (Extends ((kind, before.fresh kind) :: allowed)) (next (before.fresh kind))
      (before.push kind content) plain related) :
    Simulates (Extends allowed) (Work.allocate kind content >>= next) before plain related := by
  have made := (@keeps_push before kind content).extends
  have framed := (made.mono (List.nil_subset _)).trans rest.framed
  exact ⟨rest.records_eq, framed.of_new (Nat.le_refl _), rest.related⟩

/-- The last thing that is done is that an object is made. -/
theorem lastAllocate {content : kind.Content} {value : δ} {related : Handle → δ → Workspace → Prop}
    (given : ∀ address after, before.fresh kind ≤ address → Keeps [] before after →
      after.Has kind address content → related address value after) :
    Simulates (Keeps allowed) (Work.allocate kind content) before (Pure.pure value) related :=
  ⟨rfl, (keeps_push content).mono (List.nil_subset _),
    given _ _ (Nat.le_refl _) (keeps_push content) (has_push_self content)⟩

theorem change {content : kind.Content} {changed : kind.Content → kind.Content}
    {next : Unit → Work γ} (inside : (kind, address) ∈ allowed)
    (has : before.Has kind address content)
    (rest : ∀ after, Keeps [(kind, address)] before after →
      after.Has kind address (changed content) →
      Simulates (Keeps allowed) (next ()) after plain related) :
    Simulates (Keeps allowed) (change kind address changed >>= next) before plain related := by
  have last :=
    rest _ (keeps_modify (List.mem_singleton.2 rfl) changed) (has_modify_self has changed)
  exact ⟨last.records_eq, (keeps_modify inside changed).trans last.framed, last.related⟩

/-- The last thing that is done is a change. -/
theorem lastChange {content : kind.Content} {changed : kind.Content → kind.Content} {value : δ}
    {related : Unit → δ → Workspace → Prop} (inside : (kind, address) ∈ allowed)
    (has : before.Has kind address content)
    (given : ∀ after, Keeps [(kind, address)] before after →
      after.Has kind address (changed content) → related () value after) :
    Simulates (Keeps allowed) (Work.change kind address changed) before (Pure.pure value) related :=
  ⟨rfl, keeps_modify inside changed,
    given _ (keeps_modify (List.mem_singleton.2 rfl) changed) (has_modify_self has changed)⟩

section New

variable {few : List (ObjectKind × Handle)} {work : Work α} {next : α → Work γ}
variable {middle : α → β → Workspace → Prop} {made : α → Handle}

/-- What a computation has made may be changed after it. -/
theorem bindNew {plain : Logged β} {more : β → Logged δ}
    (first : Simulates (Keeps few) work before plain middle) (inside : few ⊆ allowed)
    (new : ∀ a b after, middle a b after → before.fresh kind ≤ made a)
    (rest : ∀ a b after, Keeps few before after → middle a b after →
      Simulates (Keeps ((kind, made a) :: allowed)) (next a) after (more b) related) :
    Simulates (Keeps allowed) (work >>= next) before (plain >>= more) related := by
  have second := rest _ _ _ first.framed first.related
  refine ⟨?_, ?_, second.related⟩
  · exact congrArg₂ (· ++ ·) first.records_eq second.records_eq
  · exact (first.framed.mono inside).after_new second.framed (new _ _ _ first.related)

theorem stepNew {value : β} (first : Simulates (Keeps few) work before (Pure.pure value) middle)
    (inside : few ⊆ allowed)
    (new : ∀ a after, middle a value after → before.fresh kind ≤ made a)
    (rest : ∀ a after, Keeps few before after → middle a value after →
      Simulates (Keeps ((kind, made a) :: allowed)) (next a) after plain related) :
    Simulates (Keeps allowed) (work >>= next) before plain related := by
  have second := rest _ _ first.framed first.related
  refine ⟨?_, ?_, second.related⟩
  · exact congrArg₂ (· ++ ·) first.records_eq second.records_eq
  · exact (first.framed.mono inside).after_new second.framed (new _ _ first.related)

end New

end Objects

end Simulates

end Work

end SchemaBinding
