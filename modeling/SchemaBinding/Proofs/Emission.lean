import SchemaBinding.Proofs.ClassModel
import SchemaBinding.Proofs.Traversal

/-!
# What emission does

Emission is a depth-first traversal of requests for classes: a request leads to
the types inside the particles of its type, and a name that was requested before
is passed over.  A class is added when its request is left.
-/

namespace SchemaBinding.Emission

variable (catalog : Catalog)

namespace Request

def name (request : Request) : String :=
  request.type.name

end Request

/-- The requests that particles of an owner lead to: one for each type inside a particle. -/
def innerOf (owner : MergedType) (particles : List ElementParticle) : List Request :=
  particles.filterMap (fun particle =>
    particle.complexType.map (fun type => ⟨owner.synthesized particle.name type, true⟩))

namespace Request

def inner (request : Request) : List Request :=
  innerOf request.type request.type.elements

end Request

/-- The emission after requests were entered and left in the given orders. -/
def grow (before : Emission) (entered left : List Request) : Emission :=
  { before with
    emitted := (entered.map Request.name).reverse ++ before.emitted
    model := { before.model with
      classes := before.model.classes ++ left.map (classOf catalog before.roots)
      names := left.foldl
        (fun names request => Model.assign names request.name (Naming.typeName request.name))
        before.model.names } }

theorem grow_nil (before : Emission) : before.grow catalog [] [] = before := by
  simp [grow]

theorem grow_grow (before : Emission) (entered left enteredLater leftLater : List Request) :
    (before.grow catalog entered left).grow catalog enteredLater leftLater =
      before.grow catalog (entered ++ enteredLater) (left ++ leftLater) := by
  simp [grow]

inductive RefersTo (type : MergedType) (name : String) : Prop where
  | base (base : QName) (given : type.base = some base)
      (target : catalog.targetOf base = .structural name)
  | particle (particle : ElementParticle) (member : particle ∈ type.elements)
      (plain : particle.complexType = none)
      (target : (catalog.targetOfParticle particle).value = .structural name)

def Undeclared (rootTypes : List (String × ComplexType)) (name : String) : Prop :=
  catalog.complexTypes.contains name = false ∧ find? rootTypes name = none

def undeclaredRecord (name : String) : Record :=
  .debug s!"Type {name} is not declared by any loaded schema"

theorem undeclaredRecord_mem_checkTarget {emission : Emission} {name : String}
    (undeclared : Undeclared catalog emission.rootTypes name) :
    undeclaredRecord name ∈ (emission.checkTarget catalog (.structural name)).records := by
  obtain ⟨noType, noRoot⟩ := undeclared
  simp only [checkTarget, noType, noRoot]
  exact List.mem_singleton.2 rfl

/-- What serving requests does to an emission, and what is reported then. -/
structure Serves (before : Emission) (requests entered left : List Request)
    (after : Emission) (records : List Record) : Prop where
  traversal : Traversal Request.name Request.inner before.emitted requests entered left
  after_eq : after = before.grow catalog entered left
  reported : ∀ request ∈ entered, ∀ name, RefersTo catalog request.type name →
    Undeclared catalog before.rootTypes name → undeclaredRecord name ∈ records

namespace Serves

variable {catalog} {before middle after : Emission}
variable {requests entered left others enteredLater leftLater : List Request}
variable {records later : List Record}

theorem nil (before : Emission) (records : List Record) :
    Serves catalog before [] [] [] before records where
  traversal := .done _
  after_eq := (grow_nil catalog before).symm
  reported request member := by simp at member

theorem append (first : Serves catalog before requests entered left middle records)
    (second : Serves catalog middle others enteredLater leftLater after later) :
    Serves catalog before (requests ++ others) (entered ++ enteredLater)
      (left ++ leftLater) after (records ++ later) where
  traversal := by
    refine first.traversal.append (second.traversal.of_seen_iff ?_)
    intro name
    simp [first.after_eq, grow]
  after_eq := by rw [second.after_eq, first.after_eq, grow_grow]
  reported request member name refers undeclared := by
    rcases List.mem_append.1 member with early | late
    · exact List.mem_append_left _ (first.reported request early name refers undeclared)
    · have same : middle.rootTypes = before.rootTypes := by rw [first.after_eq, grow]
      exact List.mem_append_right _
        (second.reported request late name refers (same ▸ undeclared))

theorem more_records (serves : Serves catalog before requests entered left after records)
    (inside : records ⊆ later) :
    Serves catalog before requests entered left after later where
  traversal := serves.traversal
  after_eq := serves.after_eq
  reported request member name refers undeclared :=
    inside (serves.reported request member name refers undeclared)

/-- A request for a name that was requested before is passed over. -/
theorem pass {request : Request} (known : request.name ∈ before.emitted)
    (records : List Record) : Serves catalog before [request] [] [] before records where
  traversal := .pass known (.done _)
  after_eq := (grow_nil catalog before).symm
  reported request member := by simp at member

/-- A new request is entered, what it leads to is served, and then its class is added. -/
theorem enter {request : Request} (fresh : request.name ∉ before.emitted)
    (inside : Serves catalog { before with emitted := request.name :: before.emitted }
      request.inner entered left middle records)
    (own : ∀ name, RefersTo catalog request.type name →
      Undeclared catalog before.rootTypes name → undeclaredRecord name ∈ records)
    (after_eq : after = { middle with
      model := { middle.model.rename request.name (Naming.typeName request.name) with
        classes := middle.model.classes ++ [classOf catalog before.roots request] } }) :
    Serves catalog before [request] (request :: entered) (left ++ [request]) after records where
  traversal := by
    have traversal := Traversal.enter fresh inside.traversal (.done _)
    simpa using traversal
  after_eq := by
    rw [after_eq, inside.after_eq]
    simp [grow, Model.rename]
  reported other member name refers undeclared := by
    rcases List.mem_cons.1 member with rfl | below
    · exact own name refers undeclared
    · exact inside.reported other below name refers undeclared

end Serves

/-- What adding the particles of an owner does to a draft and to the emission around it. -/
structure AddsParticles (owner : MergedType) (particles : List ElementParticle)
    (draft : Draft) (before : Emission) (entered left : List Request) : Prop where
  draft_eq : (addParticles catalog owner particles draft before).value.1 =
    particles.foldl (draftParticle catalog owner) draft
  serves : Serves catalog before (innerOf owner particles) entered left
    (addParticles catalog owner particles draft before).value.2
    (addParticles catalog owner particles draft before).records
  reported : ∀ particle ∈ particles, particle.complexType = none → ∀ name,
    (catalog.targetOfParticle particle).value = .structural name →
    Undeclared catalog before.rootTypes name →
    undeclaredRecord name ∈ (addParticles catalog owner particles draft before).records

theorem value_addAttributes (draft : Draft) (uses : List AttributeUse) :
    (addAttributes catalog draft uses).value = uses.foldl (draftUse catalog) draft :=
  Logged.value_foldlM _ uses draft

theorem value_baseOf (emission : Emission) (base : Option QName) :
    (emission.baseOf catalog base).value = baseNameOf catalog base := by
  cases base with
  | none => rfl
  | some name =>
      simp only [baseOf, baseNameOf, Option.bind_some]
      cases catalog.targetOf name <;> rfl

theorem undeclaredRecord_mem_baseOf {emission : Emission} {type : MergedType} {base : QName}
    {name : String} (given : type.base = some base)
    (target : catalog.targetOf base = .structural name)
    (undeclared : Undeclared catalog emission.rootTypes name) :
    undeclaredRecord name ∈ (emission.baseOf catalog type.base).records := by
  rw [given, baseOf, target]
  exact List.mem_append_left _ (undeclaredRecord_mem_checkTarget catalog undeclared)

/-- The class that is added for a drafted type is the class for that type. -/
theorem fst_addClass {emission : Emission} {roots : List (String × RootElement)}
    {type : MergedType} (isSynthesized : Bool) (roots_eq : emission.roots = roots) :
    (emission.addClass catalog type isSynthesized (baseNameOf catalog type.base)
      (type.attributes.foldl (draftUse catalog)
        (type.elements.foldl (draftParticle catalog type) .empty))).1 =
      { emission with
        model := { emission.model.rename type.name (Naming.typeName type.name) with
          classes := emission.model.classes ++ [classOf catalog roots ⟨type, isSynthesized⟩] } } := by
  subst roots_eq
  unfold addClass classOf draftOf
  cases type.text <;> rfl

/-- A request whose particles are added as they should is served. -/
theorem serves_emitClass {type : MergedType} {isSynthesized : Bool} {before : Emission}
    (inside : ∃ entered left, AddsParticles catalog type type.elements .empty
      { before with emitted := type.name :: before.emitted } entered left) :
    ∃ entered left, Serves catalog before [⟨type, isSynthesized⟩] entered left
      (before.emitClass catalog type isSynthesized).value.1
      (before.emitClass catalog type isSynthesized).records := by
  by_cases known : before.emitted.contains type.name = true
  · refine ⟨[], [], ?_⟩
    unfold emitClass
    rw [if_pos known]
    exact .pass (by simpa [Request.name] using known) _
  · obtain ⟨entered, left, adds⟩ := inside
    refine ⟨⟨type, isSynthesized⟩ :: entered, left ++ [⟨type, isSynthesized⟩], ?_⟩
    unfold emitClass
    rw [if_neg known]
    refine Serves.enter (by simpa [Request.name] using known) (adds.serves.more_records ?_) ?_ ?_
    · simp only [Logged.records_bind]
      intro record member
      simp [member]
    · rintro name (⟨base, given, target⟩ | ⟨particle, member, plain, target⟩) undeclared
      · simp only [Logged.records_bind]
        refine List.mem_append_left _ ?_
        exact undeclaredRecord_mem_baseOf catalog given target undeclared
      · simp only [Logged.records_bind]
        refine List.mem_append_right _ (List.mem_append_left _ ?_)
        exact adds.reported particle member plain name target undeclared
    · simp only [Logged.value_bind, value_addAttributes, adds.draft_eq, value_baseOf]
      exact fst_addClass catalog isSynthesized (by rw [adds.serves.after_eq, grow])

section Particles

variable (owner : MergedType) (particle : ElementParticle) (rest : List ElementParticle)
variable (draft : Draft) (emission : Emission)

/-- The class for a type inside a particle is added as any other class is. -/
theorem addInner_synthesized (name : String) (type : ComplexType) :
    addInner catalog (owner.synthesized name type) type emission =
      Prod.fst <$> emission.emitClass catalog (owner.synthesized name type) true := by
  obtain ⟨inner, elements, attributes, base, text, uri, source⟩ := type
  rw [addInner, emitClass]
  split
  · simp only [map_bind, map_pure]
  · simp only [map_bind, map_pure]
    rfl

theorem addParticles_plain (plain : particle.complexType = none) :
    addParticles catalog owner (particle :: rest) draft emission = (do
      let type ← catalog.typeOfParticle particle
      emission.checkTarget catalog type.target
      addParticles catalog owner rest (draftParticle catalog owner draft particle) emission) := by
  obtain ⟨name, typeName, simpleType, complexType, ref, minOccurs, maxOccurs, uri⟩ := particle
  obtain rfl : complexType = none := plain
  rw [addParticles, addParticle]
  simp only [bind_assoc, pure_bind]
  rfl

theorem addParticles_inner {type : ComplexType} (given : particle.complexType = some type) :
    addParticles catalog owner (particle :: rest) draft emission = (do
      let (emission, _) ←
        emission.emitClass catalog (owner.synthesized particle.name type) true
      addParticles catalog owner rest (draftParticle catalog owner draft particle) emission) := by
  obtain ⟨name, typeName, simpleType, complexType, ref, minOccurs, maxOccurs, uri⟩ := particle
  obtain rfl : complexType = some type := given
  rw [addParticles, addParticle]
  simp only [addInner_synthesized, bind_assoc, pure_bind, bind_map_left]
  rfl

variable {catalog owner particle rest draft} {before : Emission}
variable {entered left enteredLater leftLater : List Request}

theorem AddsParticles.nil (owner : MergedType) (draft : Draft) (before : Emission) :
    AddsParticles catalog owner [] draft before [] [] where
  draft_eq := by
    rw [addParticles]
    rfl
  serves := by
    rw [addParticles]
    exact .nil before _
  reported particle member := by simp at member

theorem AddsParticles.plain (plain : particle.complexType = none)
    (more : AddsParticles catalog owner rest (draftParticle catalog owner draft particle)
      before entered left) :
    AddsParticles catalog owner (particle :: rest) draft before entered left where
  draft_eq := by
    rw [addParticles_plain catalog owner particle rest draft before plain]
    exact more.draft_eq
  serves := by
    rw [addParticles_plain catalog owner particle rest draft before plain, innerOf,
      List.filterMap_cons_none (by rw [plain]; rfl)]
    refine more.serves.more_records ?_
    simp only [Logged.records_bind]
    intro record member
    simp [member]
  reported other member otherPlain name target undeclared := by
    rw [addParticles_plain catalog owner particle rest draft before plain]
    simp only [Logged.records_bind]
    rcases List.mem_cons.1 member with rfl | later
    · refine List.mem_append_right _ (List.mem_append_left _ ?_)
      have same : (catalog.typeOfParticle other).value.target = .structural name := target
      rw [same]
      exact undeclaredRecord_mem_checkTarget catalog undeclared
    · refine List.mem_append_right _ (List.mem_append_right _ ?_)
      exact more.reported other later otherPlain name target undeclared

theorem AddsParticles.inner {type : ComplexType} (given : particle.complexType = some type)
    (served : Serves catalog before [⟨owner.synthesized particle.name type, true⟩] entered left
      (before.emitClass catalog (owner.synthesized particle.name type) true).value.1
      (before.emitClass catalog (owner.synthesized particle.name type) true).records)
    (more : AddsParticles catalog owner rest (draftParticle catalog owner draft particle)
      (before.emitClass catalog (owner.synthesized particle.name type) true).value.1
      enteredLater leftLater) :
    AddsParticles catalog owner (particle :: rest) draft before (entered ++ enteredLater)
      (left ++ leftLater) where
  draft_eq := by
    rw [addParticles_inner catalog owner particle rest draft before given]
    exact more.draft_eq
  serves := by
    rw [addParticles_inner catalog owner particle rest draft before given, innerOf,
      List.filterMap_cons_some (by rw [given]; rfl)]
    exact served.append more.serves
  reported other member plain name target undeclared := by
    rw [addParticles_inner catalog owner particle rest draft before given]
    rcases List.mem_cons.1 member with rfl | later
    · rw [plain] at given
      cases given
    · refine List.mem_append_right _ (more.reported other later plain name target ?_)
      rw [served.after_eq]
      exact undeclared

end Particles

mutual

theorem exists_serves_synthesized (owner : MergedType) (name : String) (type : ComplexType)
    (before : Emission) :
    ∃ entered left, Serves catalog before [⟨owner.synthesized name type, true⟩] entered left
      (before.emitClass catalog (owner.synthesized name type) true).value.1
      (before.emitClass catalog (owner.synthesized name type) true).records := by
  match type with
  | ⟨inner, elements, attributes, base, text, uri, source⟩ =>
      exact serves_emitClass catalog
        (exists_addsParticles (owner.synthesized name
          ⟨inner, elements, attributes, base, text, uri, source⟩) elements .empty _)

theorem exists_serves_inside (owner : MergedType) (particle : ElementParticle)
    (before : Emission) : ∀ type, particle.complexType = some type →
    ∃ entered left, Serves catalog before [⟨owner.synthesized particle.name type, true⟩]
      entered left
      (before.emitClass catalog (owner.synthesized particle.name type) true).value.1
      (before.emitClass catalog (owner.synthesized particle.name type) true).records := by
  match particle with
  | ⟨name, typeName, simpleType, none, ref, minOccurs, maxOccurs, uri⟩ =>
      intro type given
      cases given
  | ⟨name, typeName, simpleType, some inner, ref, minOccurs, maxOccurs, uri⟩ =>
      intro type given
      obtain rfl := Option.some.inj given
      exact exists_serves_synthesized owner name inner before

/-- Adding particles is a traversal of the requests that they lead to. -/
theorem exists_addsParticles (owner : MergedType) (particles : List ElementParticle)
    (draft : Draft) (before : Emission) :
    ∃ entered left, AddsParticles catalog owner particles draft before entered left := by
  match particles with
  | [] => exact ⟨[], [], .nil owner draft before⟩
  | particle :: rest =>
      cases given : particle.complexType with
      | none =>
          obtain ⟨entered, left, more⟩ := exists_addsParticles owner rest
            (draftParticle catalog owner draft particle) before
          exact ⟨entered, left, .plain given more⟩
      | some type =>
          obtain ⟨entered, left, served⟩ :=
            exists_serves_inside owner particle before type given
          obtain ⟨enteredLater, leftLater, more⟩ := exists_addsParticles owner rest
            (draftParticle catalog owner draft particle)
            (before.emitClass catalog (owner.synthesized particle.name type) true).value.1
          exact ⟨entered ++ enteredLater, left ++ leftLater, .inner given served more⟩

end

/-- Emitting a class serves the request for it. -/
theorem exists_serves_emitClass (before : Emission) (type : MergedType) (isSynthesized : Bool) :
    ∃ entered left, Serves catalog before [⟨type, isSynthesized⟩] entered left
      (before.emitClass catalog type isSynthesized).value.1
      (before.emitClass catalog type isSynthesized).records :=
  serves_emitClass catalog (exists_addsParticles catalog type type.elements .empty _)

/-- Emitting classes serves the requests for them in their order. -/
theorem exists_serves_emitClasses (before : Emission) (types : List MergedType) :
    ∃ entered left, Serves catalog before (types.map (⟨·, false⟩)) entered left
      (before.emitClasses catalog types).value (before.emitClasses catalog types).records := by
  induction types generalizing before with
  | nil => exact ⟨[], [], .nil before _⟩
  | cons type rest ih =>
      obtain ⟨entered, left, first⟩ := exists_serves_emitClass catalog before type false
      obtain ⟨enteredLater, leftLater, second⟩ :=
        ih (before.emitClass catalog type false).value.1
      refine ⟨entered ++ enteredLater, left ++ leftLater, ?_⟩
      unfold emitClasses
      rw [List.foldlM_cons]
      refine (first.append second).more_records ?_
      rw [Logged.records_bind, Logged.records_map]
      exact List.Subset.refl _

end SchemaBinding.Emission
