import SchemaBinding.Proofs.Emission
import SchemaBinding.Proofs.WorkspaceMerging

/-!
# Models in a workspace

Models are built as objects just as they are as values.  Types, fields, classes and
enumerations are changed in place only while they are being made, and only the class and
the model under construction are changed after that; neither is known to anything else.
-/

namespace SchemaBinding

def Field.object (field : Field) (type : Handle) : FieldObject where
  name := field.name
  originalName := field.originalName
  type
  binding := field.binding
  isRequired := field.isRequired
  role := field.role

def ClassModel.object (model : ClassModel) (fields : List Handle) : ClassObject where
  name := model.name
  originalName := model.originalName
  uri := model.uri
  base := model.base
  fields
  root := model.root
  isSynthesized := model.isSynthesized
  isEmpty := model.isEmpty

namespace Emission

variable (catalog : Catalog) (owner : MergedType) (particle : ElementParticle)

def typeOfElement (emission : Emission) : Logged (TypeRef × Emission) :=
  match particle.complexType with
  | none => do
      let type ← catalog.typeOfParticle particle
      emission.checkTarget catalog type.target
      return (type.named, emission)
  | some inner => do
      let (emission, _) ← emission.emitClass catalog (owner.synthesized particle.name inner) true
      let name := Naming.typeName (Naming.synthesizedName owner.name particle.name)
      return (⟨.structural name, particle.isRepeatable⟩, emission)

def begunClass (roots : List (String × RootElement)) (type : MergedType) (isSynthesized : Bool) :
    ClassModel where
  name := Naming.typeName type.name
  originalName := type.name
  uri := type.targetNamespace
  base := none
  fields := Draft.empty.fields
  root := find? roots type.name
  isSynthesized
  isEmpty := type.isEmpty

theorem fst_addClass_eq (emission : Emission) (type : MergedType) (isSynthesized : Bool)
    (base : Option String) (draft : Draft) :
    (emission.addClass catalog type isSynthesized base draft).1 = { emission with
      model := { emission.model.rename type.name (Naming.typeName type.name) with
        classes := emission.model.classes ++ [{ begunClass emission.roots type isSynthesized with
          base
          fields := (draftText catalog draft type.text).fields }] } } := by
  unfold addClass draftText
  cases type.text <;> rfl

theorem addParticles_cons (rest : List ElementParticle) (draft : Draft) (emission : Emission) :
    addParticles catalog owner (particle :: rest) draft emission = (do
      let (type, emission) ← typeOfElement catalog owner particle emission
      addParticles catalog owner rest (draft.addField particle.name type
        (bindingOf catalog owner particle) particle.isOptional) emission) := by
  unfold typeOfElement
  cases given : particle.complexType with
  | none =>
      rw [addParticles_plain catalog owner particle rest draft emission given]
      simp only [draftParticle, fieldType, given, bind_assoc, pure_bind]
      rfl
  | some inner =>
      rw [addParticles_inner catalog owner particle rest draft emission given]
      simp only [draftParticle, fieldType, given, bind_assoc, pure_bind]

end Emission

namespace Workspace

section Showing

variable (workspace : Workspace)

def ShowsField (address : Handle) (field : Field) : Prop :=
  ∃ type, workspace.Has .field address (field.object type) ∧ workspace.Has .type type field.type

def ShowsClass (address : Handle) (model : ClassModel) : Prop :=
  ∃ fields, workspace.Has .structural address (model.object fields) ∧
    List.Forall₂ workspace.ShowsField fields model.fields

structure ShowsParts (object : ModelObject) (model : Model) : Prop where
  enums : List.Forall₂ (workspace.Has .enumeration) object.enums model.enums
  classes : List.Forall₂ workspace.ShowsClass object.classes model.classes
  names_eq : object.names = model.names

/-- A model is at an address, with all that belongs to it. -/
def ShowsModel (address : Handle) (model : Model) : Prop :=
  ∃ object, workspace.Has .model address object ∧ workspace.ShowsParts object model

end Showing

section Keeping

variable {allowed : List (ObjectKind × Handle)} {before after : Workspace} {address : Handle}

theorem ShowsField.extends {field : Field} (shown : before.ShowsField address field)
    (more : Extends allowed before after) (parts : AreParts allowed) :
    after.ShowsField address field := by
  obtain ⟨type, has, hasType⟩ := shown
  exact ⟨type, more.has (parts.not_mem .field _ (by simp) (by simp)) has,
    more.has (parts.not_mem .type _ (by simp) (by simp)) hasType⟩

theorem ShowsClass.extends {model : ClassModel} (shown : before.ShowsClass address model)
    (more : Extends allowed before after) (parts : AreParts allowed)
    (outside : (.structural, address) ∉ allowed) : after.ShowsClass address model := by
  obtain ⟨fields, has, each⟩ := shown
  exact ⟨fields, more.has outside has, each.imp fun _ _ shown => shown.extends more parts⟩

theorem ShowsParts.extends {object : ModelObject} {model : Model}
    (shown : before.ShowsParts object model) (more : Extends allowed before after)
    (parts : AreParts allowed)
    (outside : ∀ address ∈ object.classes, (.structural, address) ∉ allowed) :
    after.ShowsParts object model where
  enums := shown.enums.imp fun _ _ => more.has (parts.not_mem .enumeration _ (by simp) (by simp))
  classes := by
    have each := (List.forall₂_and_left _ _).2 ⟨outside, shown.classes⟩
    exact each.imp fun _ _ both => both.2.extends more parts both.1
  names_eq := shown.names_eq

/-- A model stays as it is when more is made. -/
theorem ShowsModel.extends {model : Model} (shown : before.ShowsModel address model)
    (more : Extends [] before after) : after.ShowsModel address model := by
  obtain ⟨object, has, parts⟩ := shown
  exact ⟨object, more.has List.not_mem_nil has, parts.extends more (by simp) (by simp)⟩

end Keeping

end Workspace

namespace Work

open Workspace

variable {before : Workspace} {room : Nat} {catalog : Catalog}

/-! ## Types of fields -/

theorem Simulates.outline {γ δ : Type} {frame : Workspace → Workspace → Prop}
    {next : Catalog → Work γ} {plain : Logged δ} {related : γ → δ → Workspace → Prop}
    (holds : before.Holds room catalog)
    (rest : Simulates frame (next catalog.outline) before plain related) :
    Simulates frame (Work.outline >>= next) before plain related := by
  rw [← holds.outline_eq] at rest
  exact ⟨rest.records_eq, rest.framed, rest.related⟩

abbrev NewType (before : Workspace) : Handle → TypeRef → Workspace → Prop :=
  New .type before fun after => after.Has .type

theorem simulates_newType (target : Target) :
    Simulates (Keeps []) (newType target) before (pure ⟨target, false⟩) (NewType before) :=
  .lastAllocate fun _ _ fresh _ has => ⟨fresh, has⟩

theorem simulates_typeFor (holds : before.Holds room catalog) (name : QName) :
    Simulates (Keeps []) (typeFor name) before (pure ⟨catalog.targetOf name, false⟩)
      (NewType before) := by
  refine .outline holds ?_
  rw [Catalog.targetOf_outline]
  exact simulates_newType _

theorem simulates_typeForParticle (holds : before.Holds room catalog)
    (particle : ElementParticle) (inner : Option Handle) :
    Simulates (Keeps []) (typeForParticle (particle.withInner inner)) before
      (catalog.typeOfParticle particle) (NewType before) := by
  refine .outline holds ?_
  rw [Catalog.targetOfParticle_outline]
  refine .ofLogged rfl ?_
  refine .stepNew (simulates_newType _) (List.Subset.refl _) (fun _ _ new => new.fresh) ?_
  rintro type middle - ⟨fresh, has⟩
  exact .change List.mem_cons_self has fun _ _ changed => .pure ⟨fresh, changed⟩

theorem simulates_rename {type : Handle} {ref : TypeRef} (has : before.Has .type type ref) :
    Simulates (Keeps [(.type, type)]) (rename type) before (pure ref.named)
      (fun address named after => address = type ∧ after.Has .type type named) :=
  .change (List.mem_singleton.2 rfl) has fun _ _ changed => .pure ⟨rfl, changed⟩

theorem simulates_typeForAttribute (holds : before.Holds room catalog) (use : AttributeUse) :
    Simulates (Keeps []) (typeForAttribute use) before (catalog.typeOfAttribute use)
      (NewType before) := by
  obtain ⟨name, typeName, simpleType, ref, required⟩ := use
  cases simpleType with
  | some type =>
      refine .outline holds ?_
      rw [Catalog.classifyInline_outline]
      exact simulates_newType _
  | none =>
      cases typeName with
      | none => exact simulates_newType _
      | some typeName =>
          refine .step (simulates_typeFor holds typeName) id ?_
          rintro type middle keeps ⟨fresh, has⟩
          refine .fetch has ?_
          unfold Catalog.typeOfAttribute
          dsimp only
          cases target : catalog.targetOf typeName with
          | structural _ =>
              exact .report ((simulates_newType _).imp fun _ _ _ _ new => new.since keeps)
          | primitive kind =>
              rw [target] at has
              exact .pure ⟨fresh, has⟩
          | enumeration _ =>
              rw [target] at has
              exact .pure ⟨fresh, has⟩

theorem simulates_typeForText (holds : before.Holds room catalog) (name : QName) :
    Simulates (Keeps []) (typeForText name) before (pure (catalog.typeOfText name))
      (NewType before) := by
  refine .step (simulates_typeFor holds name) id ?_
  rintro type middle keeps ⟨fresh, has⟩
  refine .fetch has ?_
  unfold Catalog.typeOfText
  cases target : catalog.targetOf name with
  | structural _ => exact (simulates_newType _).imp fun _ _ _ _ new => new.since keeps
  | primitive kind =>
      rw [target] at has
      exact .pure ⟨fresh, has⟩
  | enumeration _ =>
      rw [target] at has
      exact .pure ⟨fresh, has⟩

/-- A type that was made is named in place, so the name is not seen anywhere else. -/
theorem simulates_named {work : Work Handle} {plain : Logged TypeRef}
    (made : Simulates (Keeps []) work before plain (NewType before)) :
    Simulates (Keeps []) (work >>= rename) before (TypeRef.named <$> plain) (NewType before) := by
  rw [map_eq_pure_bind]
  refine .bindNew made (List.Subset.refl _) (fun _ _ _ new => new.fresh) ?_
  rintro type named middle - ⟨fresh, has⟩
  refine (simulates_rename has).imp ?_
  rintro _ _ _ - ⟨rfl, changed⟩
  exact ⟨fresh, changed⟩

end Work

namespace Emitter

open Workspace Work

variable {before : Workspace} {room : Nat} {catalog : Catalog}

/-! ## Fields -/

/-- A class has fields in addition to those that it had. -/
theorem showsClass_added {after : Workspace} {model : Handle} {header : ClassModel}
    {fields added : List Handle} {old new : List Field}
    (keeps : Keeps [(.structural, model)] before after)
    (has : after.Has .structural model (header.object (fields ++ added)))
    (each : List.Forall₂ before.ShowsField fields old)
    (more : List.Forall₂ after.ShowsField added new) :
    after.ShowsClass model { header with fields := old ++ new } := by
  have parts : AreParts [(.structural, model)] := by simp
  exact ⟨fields ++ added, has,
    List.rel_append (each.imp fun _ _ shown => shown.extends keeps.extends parts) more⟩

variable {draft : Draft} {header : ClassModel} {model type : Handle} {ref : TypeRef}

theorem simulates_appendField {object : ClassObject}
    (has : before.Has .structural model object) (field : FieldObject) :
    Simulates (Keeps [(.structural, model)]) (appendField model field) before (pure field)
      (fun address field after => before.fresh .field ≤ address ∧ after.Has .field address field ∧
        after.Has .structural model { object with fields := object.fields ++ [address] }) := by
  refine .allocate fun address middle fresh keeps hasField => ?_
  refine .change (by simp) (keeps.has List.not_mem_nil has) fun after changes hasClass => ?_
  exact .pure ⟨fresh, changes.has (by simp) hasField, hasClass⟩

/-- A field that is added in place is one that is added to the draft. -/
theorem simulates_addField
    (shown : before.ShowsClass model { header with fields := draft.fields })
    (hasType : before.Has .type type ref) (particle : String) (binding : Binding)
    (isOptional : Bool) :
    Simulates (Keeps [(.structural, model)])
      (addField model draft.used particle type binding isOptional) before
      (pure (draft.addField particle ref binding isOptional))
      (fun used next after => used = next.used ∧
        after.ShowsClass model { header with fields := next.fields }) := by
  obtain ⟨fields, has, each⟩ := shown
  suffices added : Simulates (Keeps [(.structural, model)])
      (addField model draft.used particle type binding isOptional) before
      (pure (draft.addField particle ref binding isOptional))
      (fun used next after => used = next.used ∧ ∃ added new,
        next.fields = draft.fields ++ new ∧
        after.Has .structural model (header.object (fields ++ added)) ∧
        List.Forall₂ after.ShowsField added new) by
    refine added.imp ?_
    rintro used next after keeps ⟨same, added, new, fields_eq, hasAll, more⟩
    rw [fields_eq]
    exact ⟨same, showsClass_added keeps hasAll each more⟩
  refine .stepNew (simulates_appendField has _) (List.Subset.refl _) (fun _ _ new => new.1) ?_
  rintro field first keepsFirst ⟨-, hasField, hasClass⟩
  have hasRef := keepsFirst.has (by simp) hasType
  refine .fetch hasRef ?_
  unfold Draft.addField
  dsimp only
  split
  · refine .change (by simp) hasField fun second keepsSecond hasFlagged => ?_
    refine .step (simulates_newType _) (·.mono (List.nil_subset _)) ?_
    rintro boolean third keepsThird ⟨-, hasBoolean⟩
    have keeps := keepsSecond.trans (keepsThird.mono (List.nil_subset _))
    refine .step (simulates_appendField (keeps.has (by simp) hasClass) _) (·.mono (by simp)) ?_
    rintro companion last keepsLast ⟨-, hasCompanion, hasBoth⟩
    refine .pure ⟨rfl, [field, companion], _, rfl, ?_,
      .cons ⟨type, ?_, ?_⟩ (.cons ⟨boolean, hasCompanion, ?_⟩ .nil)⟩
    · rw [List.append_cons]
      exact hasBoth
    · exact keepsLast.has (by simp) (keepsThird.has List.not_mem_nil hasFlagged)
    · exact keepsLast.has (by simp) (keeps.has (by simp) hasRef)
    · exact keepsLast.has (by simp) hasBoolean
  · exact .pure ⟨rfl, [field], _, rfl, hasClass, .cons ⟨type, hasField, hasRef⟩ .nil⟩

/-- Fields for attributes are added in place as they are added to the draft. -/
theorem simulates_addAttributes (holds : before.Holds room catalog) {addresses : List Handle}
    {uses : List AttributeUse} (held : List.Forall₂ (before.Has .attributeUse) addresses uses)
    (shown : before.ShowsClass model { header with fields := draft.fields }) :
    Simulates (Keeps [(.structural, model)]) (addAttributes model addresses draft.used) before
      (Emission.addAttributes catalog draft uses)
      (fun used next after => used = next.used ∧
        after.ShowsClass model { header with fields := next.fields }) := by
  induction uses generalizing before addresses draft with
  | nil =>
      obtain rfl := List.forall₂_nil_right_iff.1 held
      exact .pure ⟨rfl, shown⟩
  | cons use rest ih =>
      obtain ⟨address, others, has, more, rfl⟩ := List.forall₂_cons_right_iff.1 held
      have plain : Emission.addAttributes catalog draft (use :: rest) =
          TypeRef.named <$> catalog.typeOfAttribute use >>= fun type =>
            Emission.addAttributes catalog
              (draft.addField use.name type (.attributeUse use.name) use.isOptional) rest := by
        simp only [Emission.addAttributes, List.foldlM_cons, bind_assoc, pure_bind, bind_map_left]
      rw [plain]
      refine .fetch has ?_
      rw [← bind_assoc]
      refine .bind (simulates_named (simulates_typeForAttribute holds use))
        (·.mono (List.nil_subset _)) ?_
      rintro type ref middle keeps ⟨-, hasType⟩
      have still := shown.extends keeps.extends (by simp) (by simp)
      refine .step (simulates_addField still hasType _ _ _) id ?_
      rintro used after keepsClass ⟨rfl, added⟩
      refine ih ?_ ?_ added
      · exact (holds.keeps keeps (by simp)).keeps keepsClass (by simp)
      · exact more.imp fun _ _ has => keepsClass.has (by simp) (keeps.has List.not_mem_nil has)

theorem simulates_addText (holds : before.Holds room catalog)
    (shown : before.ShowsClass model { header with fields := draft.fields }) (text : Option QName) :
    Simulates (Keeps [(.structural, model)]) (addText model draft.used text) before
      (pure (Emission.draftText catalog draft text))
      (fun _ next after => after.ShowsClass model { header with fields := next.fields }) := by
  cases text with
  | none => exact .pure shown
  | some name =>
      have plain : (pure (Emission.draftText catalog draft (some name)) : Logged Draft) =
          TypeRef.named <$> pure (catalog.typeOfText name) >>= fun type =>
            pure (draft.addText type) := by
        simp only [map_pure, pure_bind]
        rfl
      rw [plain]
      rw [addText, ← bind_assoc]
      refine .bind (simulates_named (simulates_typeForText holds name))
        (·.mono (List.nil_subset _)) ?_
      rintro type ref middle keeps ⟨-, hasType⟩
      obtain ⟨fields, has, each⟩ := shown.extends keeps.extends (by simp) (by simp)
      refine .step ((simulates_appendField has _).imp fun _ _ _ changes both =>
        And.intro changes both) id ?_
      rintro field after - ⟨changes, -, hasField, hasClass⟩
      exact .pure (showsClass_added changes hasClass each
        (.cons ⟨type, hasField, changes.has (by simp) hasType⟩ .nil))

/-! ## Classes -/

/--
A model is under construction at an address.  The given classes are there too, but they do
not belong to the model yet.
-/
structure Emits (workspace : Workspace) (room : Nat) (catalog : Catalog) (building : List Handle)
    (emitter : Emitter) (emission : Emission) : Prop where
  holds : workspace.Holds room catalog
  emitted_eq : emitter.emitted = emission.emitted
  roots_eq : emitter.roots = emission.roots
  rootTypes : List.Forall₂ (Keyed (workspace.HoldsType (room + 1))) emitter.rootTypes
    emission.rootTypes
  shown : ∃ object, workspace.Has .model emitter.model object ∧
    workspace.ShowsParts object emission.model ∧ ∀ address ∈ building, address ∉ object.classes
  building_lt : ∀ address ∈ building, address < workspace.fresh .structural

variable {emitter : Emitter} {emission : Emission} {building : List Handle}

/-- A model stays as it is while classes that are not yet its own are changed. -/
theorem Emits.extends {after : Workspace} {left : Catalog} {allowed : List (ObjectKind × Handle)}
    (emits : Emits before room catalog building emitter emission)
    (more : Extends allowed before after) (parts : AreParts allowed)
    (apart : ∀ entry ∈ allowed, entry.1 = .structural ∧ entry.2 ∈ building)
    (holds : after.Holds room left) : Emits after room left building emitter emission where
  holds := holds
  emitted_eq := emits.emitted_eq
  roots_eq := emits.roots_eq
  rootTypes := emits.rootTypes.imp fun _ _ same =>
    ⟨same.key_eq, (more.keepsRecords parts.isRecord_eq).holdsType same.value⟩
  shown := by
    obtain ⟨object, has, shown, outside⟩ := emits.shown
    refine ⟨object, more.has (fun member => ?_) has, shown.extends more parts ?_, outside⟩
    · exact nomatch (apart _ member).1
    · exact fun address own member => outside address (apart _ member).2 own
  building_lt address member :=
    Nat.lt_of_lt_of_le (emits.building_lt address member) (more.fresh_le .structural)

theorem Emits.keeps {after : Workspace} {allowed : List (ObjectKind × Handle)}
    (emits : Emits before room catalog building emitter emission)
    (keeps : Keeps allowed before after) (parts : AreParts allowed)
    (apart : ∀ entry ∈ allowed, entry.1 = .structural ∧ entry.2 ∈ building) :
    Emits after room catalog building emitter emission :=
  emits.extends keeps.extends parts apart (emits.holds.keeps keeps parts)

/-- A new class is under construction. -/
theorem Emits.begin {after : Workspace} {object : ClassObject}
    (emits : Emits before room catalog building emitter emission) (keeps : Keeps [] before after)
    (fresh : before.fresh .structural ≤ model) (has : after.Has .structural model object)
    (name : String) :
    Emits after room catalog (model :: building)
      { emitter with emitted := name :: emitter.emitted }
      { emission with emitted := name :: emission.emitted } := by
  have still := emits.keeps keeps (by simp) (by simp)
  refine ⟨still.holds, congrArg (name :: ·) still.emitted_eq, still.roots_eq, still.rootTypes, ?_,
    List.forall_mem_cons.2 ⟨has.lt_fresh, still.building_lt⟩⟩
  obtain ⟨whole, hasWhole, shown, outside⟩ := emits.shown
  refine ⟨whole, keeps.has List.not_mem_nil hasWhole,
    shown.extends keeps.extends (by simp) (by simp),
    List.forall_mem_cons.2 ⟨fun own => ?_, outside⟩⟩
  obtain ⟨_, -, _, hasOwn, -⟩ := exists_of_mem_right shown.classes.flip own
  exact Nat.not_lt.2 fresh hasOwn.lt_fresh

/-- The model is changed in place to one that has more. -/
theorem Emits.renew {after : Workspace} {others : List Handle} {object : ModelObject}
    {whole : Model} (emits : Emits before room catalog others emitter emission)
    (keeps : Keeps [(.model, emitter.model)] before after)
    (has : after.Has .model emitter.model object) (shown : before.ShowsParts object whole)
    (inside : building ⊆ others) (outside : ∀ address ∈ building, address ∉ object.classes) :
    Emits after room catalog building emitter { emission with model := whole } where
  holds := emits.holds.keeps keeps (by simp)
  emitted_eq := emits.emitted_eq
  roots_eq := emits.roots_eq
  rootTypes := emits.rootTypes.imp fun _ _ same =>
    ⟨same.key_eq, (keeps.keepsRecords (by simp)).holdsType same.value⟩
  shown := ⟨object, has, shown.extends keeps.extends (by simp) (by simp), outside⟩
  building_lt address member :=
    Nat.lt_of_lt_of_le (emits.building_lt address (inside member)) (keeps.fresh_le .structural)

theorem simulates_checkTarget (emits : Emits before room catalog building emitter emission)
    (target : Target) :
    Simulates (Keeps []) (emitter.checkTarget target) before (emission.checkTarget catalog target)
      (fun _ _ after => after = before) := by
  cases target with
  | primitive _ => exact .pure rfl
  | enumeration _ => exact .pure rfl
  | structural name =>
      have known : (Emission.find? emitter.rootTypes name).isSome =
          (Emission.find? emission.rootTypes name).isSome :=
        isSome_eq_of_optionRel (optionRel_find?_key emits.rootTypes name)
      refine .outline emits.holds ?_
      rw [Catalog.contains_complexTypes_outline, known]
      unfold Emission.checkTarget
      dsimp only
      split
      · exact .pure rfl
      · exact .lastReport rfl

theorem simulates_setBase (emits : Emits before room catalog building emitter emission)
    (begun : model ∈ building) (shown : before.ShowsClass model header)
    (noBase : header.base = none) (base : Option QName) :
    Simulates (Keeps [(.structural, model)]) (emitter.setBase model base) before
      (emission.baseOf catalog base)
      (fun _ name after => after.ShowsClass model { header with base := name }) := by
  have plain : { header with base := none } = header := by rw [← noBase]
  cases base with
  | none => exact .pure (plain.symm ▸ shown)
  | some base =>
      refine .step (simulates_typeFor emits.holds base) (·.mono (List.nil_subset _)) ?_
      rintro type middle keeps ⟨-, hasType⟩
      have still := shown.extends keeps.extends (by simp) (by simp)
      refine .fetch hasType ?_
      unfold Emission.baseOf
      dsimp only
      cases catalog.targetOf base with
      | primitive _ => exact .pure (plain.symm ▸ still)
      | enumeration _ => exact .pure (plain.symm ▸ still)
      | structural name =>
          obtain ⟨fields, has, each⟩ := still
          refine .change (by simp) has fun after changes hasClass => ?_
          have parts : AreParts [(.structural, model)] := by simp
          have emitsAfter := (emits.keeps keeps (by simp) (by simp)).keeps changes parts (by simpa)
          rw [← bind_pure (emitter.checkTarget _)]
          refine .bind (simulates_checkTarget emitsAfter _) (·.mono (List.nil_subset _)) ?_
          rintro _ _ _ - rfl
          exact .pure ⟨fields, hasClass,
            each.imp fun _ _ field => field.extends changes.extends parts⟩

theorem simulates_nameNested {depth : Nat} {nested : Handle} {outer : MergedObject}
    {owner : MergedType} {type : ComplexType} (particle : String)
    (name_eq : outer.name = owner.name)
    (uri_eq : outer.targetNamespace = owner.targetNamespace)
    (held : before.HoldsMerged depth nested (.ofDefinition type)) :
    Simulates (Keeps [(.merged, nested)]) (nameNested outer particle nested) before
      (pure (owner.synthesized particle type))
      (fun _ type after => after.HoldsMerged depth nested type) := by
  obtain ⟨elements, attributes, has, members⟩ := held
  refine .change (by simp) has fun middle keeps hasNamed => .fetch hasNamed ?_
  have settled : ∀ after, Keeps [(.merged, nested)] before after → ∀ uri,
      type.targetNamespace.or owner.targetNamespace = uri →
      after.Has .merged nested { (MergedType.ofDefinition type).object elements attributes with
        name := Naming.synthesizedName outer.name particle
        targetNamespace := uri } →
      after.HoldsMerged depth nested (owner.synthesized particle type) := by
    rintro after keeps _ rfl has
    have records := keeps.keepsRecords (by simp)
    rw [name_eq] at has
    exact ⟨elements, attributes, has, records.holdsMembers (fun _ _ => records.holdsType) members⟩
  split
  · next bare =>
      have given : type.targetNamespace = none := Option.isNone_iff_eq_none.1 bare
      refine .lastChange (by simp) hasNamed fun after changes hasBoth => ?_
      exact settled after (keeps.trans changes) _ (by rw [given, uri_eq]; rfl) hasBoth
  · next other =>
      have given : type.targetNamespace ≠ none := fun none =>
        other (Option.isNone_iff_eq_none.2 none)
      obtain ⟨uri, given⟩ := Option.ne_none_iff_exists'.1 given
      exact .pure (settled middle keeps type.targetNamespace (by rw [given]; rfl) hasNamed)

theorem simulates_synthesize {depth : Nat} {definition : Handle} {outer : MergedObject}
    {owner : MergedType} {type : ComplexType} (particle : String)
    (name_eq : outer.name = owner.name)
    (uri_eq : outer.targetNamespace = owner.targetNamespace)
    (held : before.HoldsType (depth + 1) definition type) :
    Simulates (Keeps []) (synthesize outer particle definition) before
      (pure (owner.synthesized particle type))
      (fun nested type after => after.HoldsMerged depth nested type) := by
  refine .stepNew (simulates_ofDefinition held) (List.Subset.refl _) (fun _ _ new => new.fresh) ?_
  rintro nested middle - ⟨-, heldNested⟩
  refine .bindPure (simulates_nameNested particle name_eq uri_eq heldNested) id ?_
  exact fun _ _ _ _ named => .pure named

/-- What stays the same while classes are emitted. -/
structure Continues (before after : Emitter) : Prop where
  model_eq : after.model = before.model
  roots_eq : after.roots = before.roots

/-- Classes are emitted in place for types that are held so deep. -/
def EmitsClasses (room : Nat) (catalog : Catalog) (depth : Nat) (isSynthesized : Bool)
    (emit : Emitter → Handle → Work Emitter) : Prop :=
  ∀ {before : Workspace} {building : List Handle} {emitter : Emitter} {emission : Emission}
    {merged : Handle} {type : MergedType},
    Emits before room catalog building emitter emission → before.HoldsMerged depth merged type →
    Simulates (Keeps [(.model, emitter.model)]) (emit emitter merged) before
      (emission.emitClass catalog type isSynthesized)
      (fun emitted result after => emitter.Continues emitted ∧
        Emits after room catalog building emitted result.1)

theorem Continues.trans {first second third : Emitter} (one : first.Continues second)
    (two : second.Continues third) : first.Continues third :=
  ⟨two.model_eq.trans one.model_eq, two.roots_eq.trans one.roots_eq⟩

section Particles

variable {depth : Nat} {inner : Emitter → Handle → Work Emitter}

/-- The type of the field for a particle with no type inside is a new one, named in place. -/
theorem simulates_typeOfElement_of_none
    (emits : Emits before room catalog building emitter emission) {owner : Handle}
    {type : MergedType} {particle : ElementParticle} (bare : particle.complexType = none) :
    Simulates (Keeps []) (typeOfElement inner emitter owner (particle.withInner none)) before
      (Emission.typeOfElement catalog type particle emission)
      (fun result plain after => result.2 = emitter ∧ plain.2 = emission ∧
        after.Has .type result.1 plain.1) := by
  unfold typeOfElement Emission.typeOfElement
  rw [bare]
  refine .bindNew (simulates_typeForParticle emits.holds particle none)
    (List.Subset.refl _) (fun _ _ _ new => new.fresh) ?_
  rintro ref typeRef middle keeps ⟨-, hasType⟩
  refine .fetch hasType ?_
  refine .bind (simulates_checkTarget (emits.keeps keeps (by simp) (by simp)) _)
    (·.mono (List.nil_subset _)) ?_
  rintro _ _ _ - rfl
  refine .step (simulates_rename hasType) id ?_
  rintro _ _ - ⟨rfl, changed⟩
  exact .pure ⟨rfl, rfl, changed⟩

/-- The type of the field for a particle is a new one, and so is a type inside the particle. -/
theorem simulates_typeOfElement
    (nested : ∀ below, depth = below + 1 → EmitsClasses room catalog below true inner)
    (emits : Emits before room catalog building emitter emission) {owner : Handle}
    {type : MergedType} (owned : before.HoldsMerged depth owner type)
    {particle : ElementParticle} {inside : Option Handle}
    (held : Option.Rel (before.HoldsType depth) inside particle.complexType) :
    Simulates (Keeps [(.model, emitter.model)])
      (typeOfElement inner emitter owner (particle.withInner inside)) before
      (Emission.typeOfElement catalog type particle emission)
      (fun result plain after => emitter.Continues result.2 ∧
        Emits after room catalog building result.2 plain.2 ∧
        after.Has .type result.1 plain.1) := by
  generalize given : particle.complexType = complexType at held
  cases held with
  | none =>
      refine ((simulates_typeOfElement_of_none emits given).imp ?_).weaken
        (·.mono (List.nil_subset _))
      rintro _ _ after keeps ⟨same, samePlain, has⟩
      rw [same, samePlain]
      exact ⟨⟨rfl, rfl⟩, emits.keeps keeps (by simp) (by simp), has⟩
  | some heldInner =>
      obtain _ | below := depth
      · exact heldInner.elim
      unfold typeOfElement Emission.typeOfElement
      rw [given]
      obtain ⟨elements, attributes, hasOwner, -⟩ := owned
      refine .fetch hasOwner ?_
      refine .step (simulates_synthesize particle.name rfl rfl heldInner)
        (·.mono (List.nil_subset _)) ?_
      rintro merged middle keeps heldMerged
      refine .bind (nested below rfl (emits.keeps keeps (by simp) (by simp)) heldMerged) id ?_
      rintro emitted ⟨whole, model⟩ after - ⟨same, emitsMore⟩
      refine .allocate fun type last fresh more has => .pure ⟨same, ?_, has⟩
      exact emitsMore.keeps more (by simp) (by simp)

/-- Fields for particles are added in place as they are added to the draft. -/
theorem simulates_addParticles
    (nested : ∀ below, depth = below + 1 → EmitsClasses room catalog below true inner)
    (emits : Emits before room catalog building emitter emission) (begun : model ∈ building)
    {owner : Handle} {type : MergedType} (owned : before.HoldsMerged depth owner type)
    {addresses : List Handle} {particles : List ElementParticle}
    (held : List.Forall₂ (before.HoldsParticle (before.HoldsType depth)) addresses particles)
    (shown : before.ShowsClass model { header with fields := draft.fields }) :
    Simulates (Keeps [(.structural, model), (.model, emitter.model)])
      (addParticles inner owner model addresses draft.used emitter) before
      (Emission.addParticles catalog type particles draft emission)
      (fun result plain after => result.1 = plain.1.used ∧ emitter.Continues result.2 ∧
        Emits after room catalog building result.2 plain.2 ∧
        after.ShowsClass model { header with fields := plain.1.fields }) := by
  induction particles generalizing before addresses draft emitter emission with
  | nil =>
      obtain rfl := List.forall₂_nil_right_iff.1 held
      rw [Emission.addParticles]
      exact .pure ⟨rfl, ⟨rfl, rfl⟩, emits, shown⟩
  | cons particle rest ih =>
      obtain ⟨address, others, ⟨inside, has, heldInner⟩, more, rfl⟩ :=
        List.forall₂_cons_right_iff.1 held
      rw [Emission.addParticles_cons]
      refine .fetch has ?_
      refine .bind (simulates_typeOfElement nested emits owned heldInner) (·.mono (by simp)) ?_
      rintro ⟨field, emitted⟩ ⟨ref, whole⟩ middle keeps ⟨same, emitsMore, hasType⟩
      dsimp only at same emitsMore hasType
      have ownParts : AreParts [(.model, emitter.model)] := by simp
      have parts : AreParts [(.structural, model)] := by simp
      have ownedMore := owned.extends keeps.extends ownParts
      obtain ⟨elements, attributes, hasOwner, -⟩ := id ownedMore
      refine .fetch hasOwner (.outline emitsMore.holds ?_)
      rw [Catalog.namespaceOf_outline]
      have still := shown.extends keeps.extends ownParts (by simp)
      refine .step (simulates_addField still hasType _ _ _) (·.mono (by simp)) ?_
      rintro used after changes ⟨rfl, added⟩
      have records := (keeps.keepsRecords (by simp)).trans (changes.keepsRecords (by simp))
      have later := ih (emitsMore.keeps changes parts (by simpa using begun))
        (ownedMore.extends changes.extends parts)
        (more.imp fun _ _ => records.holdsParticle fun _ _ => records.holdsType) added
      rw [same.model_eq] at later
      exact later.imp fun _ _ _ _ all => ⟨all.1, same.trans all.2.1, all.2.2⟩

/-- A class that was under construction is added to the model. -/
theorem simulates_addClass (emits : Emits before room catalog (model :: building) emitter emission)
    (newest : ∀ address ∈ building, address ≠ model) (shown : before.ShowsClass model header)
    (name : String) :
    Simulates (Keeps [(.model, emitter.model)]) (emitter.addClass name model) before
      (pure { emission with
        model := { emission.model.rename name (Naming.typeName name) with
          classes := emission.model.classes ++ [header] } })
      (fun _ emission after => Emits after room catalog building emitter emission) := by
  obtain ⟨object, has, parts, outside⟩ := emits.shown
  refine .change (by simp) has fun middle keepsName hasNamed => ?_
  refine .lastChange (by simp) hasNamed fun after keepsAdded hasAdded => ?_
  refine emits.renew (keepsName.trans keepsAdded) hasAdded ⟨parts.enums, ?_, ?_⟩
    (List.subset_cons_self model building) fun address member => ?_
  · exact List.rel_append parts.classes (.cons shown .nil)
  · exact congrArg (Model.assign · name (Naming.typeName name)) parts.names_eq
  · refine List.not_mem_append (outside address (List.mem_cons_of_mem _ member)) ?_
    exact fun same => newest address member (List.mem_singleton.1 same)

/-- A class is emitted in place as its model is added to the model. -/
theorem emitsClasses_emitType
    (nested : ∀ below, depth = below + 1 → EmitsClasses room catalog below true inner)
    (isSynthesized : Bool) :
    EmitsClasses room catalog depth isSynthesized
      (fun emitter merged => emitType inner emitter merged isSynthesized) := by
  rintro before building ⟨whole, emitted, rootTypes, roots⟩ emission merged type emits held
  obtain rfl : emitted = emission.emitted := emits.emitted_eq
  obtain rfl : roots = emission.roots := emits.roots_eq
  obtain ⟨elementList, attributeList, hasMerged, ⟨elements, hasElements, heldElements⟩,
    attributes, hasAttributes, heldAttributes⟩ := id held
  refine .fetch hasMerged ?_
  unfold Emission.emitClass
  refine .ite (fun _ => .report (.pure ⟨⟨rfl, rfl⟩, emits⟩)) fun _ => ?_
  refine .fetch hasElements (.fetch hasAttributes ?_)
  rw [isEmpty_eq_of_forall₂ heldElements, isEmpty_eq_of_forall₂ heldAttributes]
  refine .allocate fun model first fresh keeps hasClass => ?_
  have begun := emits.begin keeps fresh hasClass type.name
  have newest : ∀ address ∈ building, address ≠ model := fun address member =>
    Nat.ne_of_lt (Nat.lt_of_lt_of_le (emits.building_lt address member) fresh)
  have shown : first.ShowsClass model (Emission.begunClass emission.roots type isSynthesized) :=
    ⟨[], hasClass, .nil⟩
  have ownClass : AreParts [(.structural, model)] := by simp
  have ownParts : AreParts [(.structural, model), (.model, whole)] := by simp
  refine .bind (simulates_setBase begun List.mem_cons_self shown rfl type.base)
    (·.mono (by simp)) ?_
  rintro _ base second keepsBase shownBase
  have records := (keeps.keepsRecords (by simp)).trans (keepsBase.keepsRecords ownClass.isRecord_eq)
  have particles := simulates_addParticles nested (begun.keeps keepsBase ownClass (by simp))
    List.mem_cons_self ((held.extends keeps.extends (by simp)).extends keepsBase.extends ownClass)
    (heldElements.imp fun _ _ => records.holdsParticle fun _ _ => records.holdsType)
    (show second.ShowsClass model { { Emission.begunClass emission.roots type isSynthesized with
      base } with fields := Draft.empty.fields } from shownBase)
  refine .bind particles id ?_
  rintro ⟨used, later⟩ ⟨draft, emissionLater⟩ third keepsParticles
    ⟨rfl, same, emitsLater, shownParticles⟩
  have uses := heldAttributes.imp fun _ _ =>
    (records.trans (keepsParticles.keepsRecords ownParts.isRecord_eq)) .attributeUse rfl
  refine .bind (simulates_addAttributes emitsLater.holds uses shownParticles) (·.mono (by simp)) ?_
  rintro _ drafted fourth keepsUses ⟨rfl, shownUses⟩
  refine .step (simulates_addText (emitsLater.holds.keeps keepsUses ownClass) shownUses type.text)
    (·.mono (by simp)) ?_
  rintro _ fifth keepsText shownText
  have emitsText :=
    (emitsLater.keeps keepsUses ownClass (by simp)).keeps keepsText ownClass (by simp)
  refine .step (simulates_addClass emitsText newest shownText type.name)
    (·.mono (by simp [show later.model = whole from same.model_eq])) ?_
  rintro _ last - emitsLast
  have roots : emissionLater.roots = emission.roots :=
    emitsLater.roots_eq.symm.trans same.roots_eq
  refine .pure ⟨⟨same.model_eq, same.roots_eq⟩, ?_⟩
  show Emits last room catalog building later
    (Emission.addClass catalog emissionLater type isSynthesized base drafted).1
  rw [Emission.fst_addClass_eq]
  rw [← roots] at emitsLast
  exact emitsLast

end Particles

end Emitter

end SchemaBinding
