import SchemaBinding.Proofs.Flattening
import SchemaBinding.Proofs.Numerals

/-!
# Numbers of occurrences

A particle writes how often it occurs at least.  Reading a document comes to its
particles in document order, so it fails at the first one that writes no number
and at none that comes later.
-/

namespace SchemaBinding.Schema

open Xml

section Addresses

variable {one other : Address}

theorem Address.lt_of_append_lt {start : Address} (before : start ++ one < start ++ other) :
    one < other := by
  induction start with
  | nil => exact before
  | cons index rest ih =>
      rcases List.cons_lt_cons_iff.1 before with less | ⟨_, less⟩
      · exact absurd less (Nat.lt_irrefl index)
      · exact ih less

/-- Where two addresses part, what is below them stays in order. -/
theorem Address.append_lt_append (before : one < other) (apart : ¬ one <+: other)
    (below behind : Address) : one ++ below < other ++ behind := by
  induction one generalizing other with
  | nil => exact absurd List.nil_prefix apart
  | cons index rest ih =>
      cases other with
      | nil => exact absurd before (List.not_lt_nil _)
      | cons position more =>
          rcases List.cons_lt_cons_iff.1 before with less | ⟨rfl, less⟩
          · exact List.cons_lt_cons_iff.2 (.inl less)
          · refine List.cons_lt_cons_iff.2 (.inr ⟨rfl, ih less fun start => apart ?_⟩)
            exact List.cons_prefix_cons.2 ⟨rfl, start⟩

end Addresses

section Counting

/-- An element writes its least number of occurrences, with digits of the given values. -/
def Counts (element : Element) (values : List Nat) (count : Int) : Prop :=
  ∃ text, Text.IsStripped ((element.attribute? "minOccurs").getD "1").toList text ∧
    Text.Numeral.Writes text values count ∧ values.length ≤ 4300

def IsCounted (element : Element) : Prop :=
  ∃ values count, Counts element values count

/-- An element writes a text, which is no number, for its least number of occurrences. -/
def Miscounts (element : Element) (text : List Char) : Prop :=
  Text.IsStripped ((element.attribute? "minOccurs").getD "1").toList text ∧ ¬ IsCounted element

variable {context : Context} {element : Element}

theorem minOccursOf_of_isStripped {text : List Char}
    (stripped : Text.IsStripped ((element.attribute? "minOccurs").getD "1").toList text) :
    minOccursOf context element =
      match Text.Numeral.read? text with
      | some count => .ok count
      | none => .error (.schema context.source (.occurrence (String.ofList text))) := by
  rw [← Text.strip_eq_iff.2 stripped]
  rfl

theorem minOccursOf_eq_ok_iff {count : Int} :
    minOccursOf context element = .ok count ↔ ∃ values, Counts element values count := by
  constructor
  · intro given
    have stripped := Text.isStripped_strip ((element.attribute? "minOccurs").getD "1").toList
    rw [minOccursOf_of_isStripped stripped] at given
    split at given
    · next number found =>
        obtain rfl := Except.ok.inj given
        obtain ⟨values, written, short⟩ := Text.Numeral.read?_eq_some_iff.1 found
        exact ⟨values, _, stripped, written, short⟩
    · cases given
  · rintro ⟨values, text, stripped, written, short⟩
    rw [minOccursOf_of_isStripped stripped, Text.Numeral.read?_of_writes written short]

theorem minOccursOf_eq_error_iff {failure : Failure} :
    minOccursOf context element = .error failure ↔
      ∃ text, Miscounts element text ∧
        failure = .schema context.source (.occurrence (String.ofList text)) := by
  constructor
  · intro given
    have stripped := Text.isStripped_strip ((element.attribute? "minOccurs").getD "1").toList
    refine ⟨_, ⟨stripped, ?_⟩, ?_⟩
    · rintro ⟨values, count, counts⟩
      rw [minOccursOf_eq_ok_iff.2 ⟨values, counts⟩] at given
      cases given
    · rw [minOccursOf_of_isStripped stripped] at given
      split at given
      · cases given
      · exact (Except.error.inj given).symm
  · rintro ⟨text, ⟨stripped, uncounted⟩, rfl⟩
    rw [minOccursOf_of_isStripped stripped]
    split
    · next number found =>
        obtain ⟨values, written, short⟩ := Text.Numeral.read?_eq_some_iff.1 found
        exact absurd ⟨values, number, text, stripped, written, short⟩ uncounted
    · rfl

end Counting

section Checking

variable {context : Context} {found later : Address → Element → Prop} {α β ι : Type}

/--
A computation that comes to elements in the order of their addresses succeeds if all of
them write numbers, and fails at the first one that does not.
-/
inductive Checks (context : Context) (found : Address → Element → Prop) :
    Except Failure α → Prop where
  | succeeds {value : α} (counted : ∀ address element, found address element → IsCounted element) :
      Checks context found (.ok value)
  | fails {address : Address} {element : Element} {text : List Char}
      (here : found address element) (miscounts : Miscounts element text)
      (first : ∀ earlier other, found earlier other → earlier < address → IsCounted other) :
      Checks context found (.error (.schema context.source (.occurrence (String.ofList text))))

def Precedes (found later : Address → Element → Prop) : Prop :=
  ∀ address element behind other, found address element → later behind other → address < behind

namespace Checks

theorem congr {outcome : Except Failure α} (checks : Checks context found outcome)
    (same : ∀ address element, found address element ↔ later address element) :
    Checks context later outcome := by
  obtain rfl : found = later := funext fun address => funext fun element =>
    propext (same address element)
  exact checks

theorem of_none {outcome : Except Failure α} (succeeds : ∃ value, outcome = .ok value)
    (none : ∀ address element, ¬ found address element) : Checks context found outcome := by
  obtain ⟨value, rfl⟩ := succeeds
  exact .succeeds fun address element here => absurd here (none address element)

/-- What is found by one computation comes before what is found by the next one. -/
theorem bind {first : Run α} {next : α → Run β} (here : Checks context found first.outcome)
    (after : ∀ value, Checks context later (next value).outcome) (ordered : Precedes found later) :
    Checks context (fun address element => found address element ∨ later address element)
      (first >>= next).outcome := by
  obtain ⟨records, outcome⟩ := first
  dsimp only at here
  cases here with
  | fails here miscounts first =>
      refine .fails (.inl here) miscounts ?_
      rintro earlier other (among | behind) before
      · exact first earlier other among before
      · exact absurd before (List.lt_asymm (ordered _ _ _ _ here behind))
  | @succeeds value counted =>
      change Checks context _ (next value).outcome
      cases outcome : (next value).outcome with
      | ok result =>
          have rest := after value
          rw [outcome] at rest
          cases rest with
          | succeeds more =>
              refine .succeeds ?_
              rintro address element (among | behind)
              · exact counted address element among
              · exact more address element behind
      | error failure =>
          have rest := after value
          rw [outcome] at rest
          cases rest with
          | fails here miscounts first =>
              refine .fails (.inr here) miscounts ?_
              rintro earlier other (among | behind) before
              · exact counted earlier other among
              · exact first earlier other behind before

/-- Nothing that follows can fail. -/
theorem andThen {first : Run α} {next : α → Run β} (here : Checks context found first.outcome)
    (succeeds : ∀ value, ∃ result, (next value).outcome = .ok result) :
    Checks context found (first >>= next).outcome := by
  have nothing : Precedes found (fun _ _ => False) := by
    intro address element behind other _ impossible
    exact impossible.elim
  refine (here.bind (fun value => .of_none (succeeds value) fun _ _ => id) nothing).congr ?_
  exact fun address element => iff_of_eq (or_false _)

theorem below {outcome : Except Failure α} (start : Address)
    (checks : Checks context found outcome) :
    Checks context
      (fun address element => ∃ rest, address = start ++ rest ∧ found rest element) outcome := by
  cases checks with
  | succeeds counted =>
      refine .succeeds ?_
      rintro address element ⟨rest, _, here⟩
      exact counted rest element here
  | fails here miscounts first =>
      refine .fails ⟨_, rfl, here⟩ miscounts ?_
      rintro earlier other ⟨rest, rfl, there⟩ before
      exact first rest other there (Address.lt_of_append_lt before)

/-- Items one after the other, where what is found for one comes before what is found later. -/
theorem foldlM {items : List ι} {step : β → ι → Run β} {found : ι → Address → Element → Prop}
    (each : ∀ item ∈ items, ∀ state, Checks context (found item) (step state item).outcome)
    (ordered : items.Pairwise (fun one other => Precedes (found one) (found other))) (state : β) :
    Checks context (fun address element => ∃ item ∈ items, found item address element)
      (items.foldlM step state).outcome := by
  induction items generalizing state with
  | nil => exact .of_none ⟨state, rfl⟩ (by simp)
  | cons item rest ih =>
      rw [List.foldlM_cons]
      obtain ⟨before, others⟩ := List.pairwise_cons.1 ordered
      have here := each item List.mem_cons_self state
      have after := ih (fun other among => each other (List.mem_cons_of_mem _ among)) others
      refine (here.bind after ?_).congr ?_
      · rintro address element behind other first ⟨next, among, second⟩
        exact before next among address element behind other first second
      · simp

/-- Children one after the other, what is found below each of them included. -/
theorem children (found : Element → Address → Element → Prop) {elements : List Element}
    {step : β → Element → Run β}
    (each : ∀ outer ∈ elements, ∀ state, Checks context (found outer) (step state outer).outcome)
    (state : β) :
    Checks context
      (fun address element => ∃ index outer rest, elements[index]? = some outer ∧
        address = index :: rest ∧ found outer rest element)
      (elements.foldlM step state).outcome := by
  have numbered : elements.foldlM step state =
      elements.zipIdx.foldlM (fun state item => step state item.1) state := by
    rw [← List.foldlM_map (f := Prod.fst), List.zipIdx_map_fst]
  rw [numbered]
  have below (item : Element × Nat) (among : item ∈ elements.zipIdx) (state : β) :=
    (each item.1 (List.fst_mem_of_mem_zipIdx among) state).below [item.2]
  refine (foldlM below ?ordered state).congr ?same
  case ordered =>
    have increasing : (elements.zipIdx.map Prod.snd).Pairwise (· < ·) := by
      rw [List.zipIdx_map_snd]
      exact List.pairwise_lt_range'
    refine (List.pairwise_map.1 increasing).imp fun {one other} smaller => ?_
    rintro address element behind next ⟨rest, rfl, _⟩ ⟨more, rfl, _⟩
    exact List.cons_lt_cons_iff.2 (.inl smaller)
  case same =>
    intro address element
    constructor
    · rintro ⟨⟨outer, index⟩, among, rest, rfl, here⟩
      exact ⟨index, outer, rest, List.mem_zipIdx_iff_getElem?.1 among, rfl, here⟩
    · rintro ⟨index, outer, rest, among, rfl, here⟩
      exact ⟨(outer, index), List.mem_zipIdx_iff_getElem?.2 among, rest, rfl, here⟩

end Checks

end Checking

section Places

mutual

/-- The particles of a complex type, and those of the complex types written inside them. -/
inductive NestedAt : Element → Address → Element → Prop where
  | own {node element : Element} {address : Address} (particle : ParticleAt node address element) :
      NestedAt node address element
  | inside {node outer element : Element} {address below : Address}
      (particle : ParticleAt node address outer) (inline : InlineAt outer below element) :
      NestedAt node (address ++ below) element

inductive InlineAt : Element → Address → Element → Prop where
  | intro {outer type element : Element} {index : Nat} {address : Address}
      (child : outer.children[index]? = some type)
      (declares : Construct.ofName type.name = .complexType)
      (nested : NestedAt type address element) : InlineAt outer (index :: address) element

end

/-- The particles of a declaration; a complex type without a name is passed over. -/
inductive DeclaredAt (declaration : Element) (address : Address) (element : Element) : Prop where
  | complexType (declares : Construct.ofName declaration.name = .complexType)
      (named : present? (declaration.attribute? "name") ≠ none)
      (nested : NestedAt declaration address element)
  | element (declares : Construct.ofName declaration.name = .element)
      (inline : InlineAt declaration address element)

/-- The particles of a document, those in redefinitions included. -/
inductive WrittenAt (root : Element) : Address → Element → Prop where
  | declared {declaration element : Element} {index : Nat} {address : Address}
      (child : root.children[index]? = some declaration)
      (particle : DeclaredAt declaration address element) :
      WrittenAt root (index :: address) element
  | redefined {redefinition declaration element : Element} {outer inner : Nat} {address : Address}
      (child : root.children[outer]? = some redefinition)
      (redefines : Construct.ofName redefinition.name = .directive .redefining)
      (inside : redefinition.children[inner]? = some declaration)
      (particle : DeclaredAt declaration address element) :
      WrittenAt root (outer :: inner :: address) element

end Places

section Reading

variable {context : Context}

def ParticlesFrom (element : Element) (address : Address) (particle : Element) : Prop :=
  address = [] ∧ particle = element ∨ InlineAt element address particle

theorem readInlineTypes_eq_foldlM (context : Context) (types : List ComplexType)
    (elements : List Element) :
    (do let others ← readInlineTypes context elements; return types ++ others) =
      elements.foldlM
        (fun types child => match Construct.ofName child.name with
          | .complexType => do
              let type ← readContent context (emptyType context "") child.children
              return types ++ [type]
          | _ => return types) types := by
  induction elements generalizing types with
  | nil => simp [readInlineTypes]
  | cons element rest ih =>
      obtain ⟨name, attributes, children⟩ := element
      rw [readInlineTypes, List.foldlM_cons]
      cases Construct.ofName name <;>
        simp only [bind_assoc, pure_bind, List.nil_append, List.append_assoc, ← ih]

theorem checks_readInlineTypes {element : Element}
    (inside : ∀ child ∈ element.children, ∀ type,
      Checks context (NestedAt child) (readContent context type child.children).outcome) :
    Checks context (InlineAt element) (readInlineTypes context element.children).outcome := by
  have folded := readInlineTypes_eq_foldlM context [] element.children
  simp only [List.nil_append, bind_pure] at folded
  rw [folded]
  refine (Checks.children
    (fun child address particle =>
      Construct.ofName child.name = .complexType ∧ NestedAt child address particle)
    ?each []).congr ?same
  case each =>
    intro child among types
    by_cases declares : Construct.ofName child.name = .complexType
    · simp only [declares, true_and]
      exact (inside child among _).andThen fun type => ⟨_, rfl⟩
    · refine .of_none ?_ fun address particle here => declares here.1
      split
      · next same => exact absurd same declares
      · exact ⟨_, rfl⟩
  case same =>
    intro address particle
    constructor
    · rintro ⟨index, child, rest, here, rfl, declares, nested⟩
      exact .intro here declares nested
    · rintro ⟨here, declares, nested⟩
      exact ⟨_, _, _, here, rfl, declares, nested⟩

theorem checks_readParticle {element : Element}
    (inside : ∀ child ∈ element.children, ∀ type,
      Checks context (NestedAt child) (readContent context type child.children).outcome) :
    Checks context (ParticlesFrom element) (readParticle context element).outcome := by
  have own : Checks context (fun address particle => address = [] ∧ particle = element)
      (Run.ofExcept (minOccursOf context element)).outcome := by
    cases given : minOccursOf context element with
    | ok count =>
        obtain ⟨values, counts⟩ := minOccursOf_eq_ok_iff.1 given
        refine .succeeds ?_
        rintro _ _ ⟨rfl, rfl⟩
        exact ⟨values, count, counts⟩
    | error failure =>
        obtain ⟨text, miscounts, rfl⟩ := minOccursOf_eq_error_iff.1 given
        exact .fails ⟨rfl, rfl⟩ miscounts fun earlier other _ before =>
          absurd before (List.not_lt_nil _)
  refine own.bind (fun count => (checks_readInlineTypes inside).andThen fun types => ⟨_, rfl⟩) ?_
  rintro _ _ behind other ⟨rfl, rfl⟩ ⟨_, _, _⟩
  exact List.nil_lt_cons _ _

theorem sizeOf_children_lt (element : Element) : sizeOf element.children < sizeOf element := by
  obtain ⟨name, attributes, children⟩ := element
  simp only [Element.mk.sizeOf_spec]
  omega

theorem VisitedAt.sizeOf_lt {position : Position} {elements : List Element} {address : Address}
    {role : Role} {element : Element} (visited : VisitedAt position elements address role element) :
    sizeOf element < sizeOf elements := by
  induction visited with
  | here child gives => exact List.sizeOf_lt_of_mem (List.mem_of_getElem? child)
  | @inside position inner elements outer element index address role child enters visited ih =>
      have held := List.sizeOf_lt_of_mem (List.mem_of_getElem? child)
      have spread := sizeOf_children_lt outer
      omega

def ParticlesBy (visit : Visit) (address : Address) (element : Element) : Prop :=
  visit.role = .particle ∧
    ∃ rest, address = visit.address ++ rest ∧ ParticlesFrom visit.element rest element

theorem checks_readVisit {visit : Visit}
    (inside : ∀ child ∈ visit.element.children, ∀ type,
      Checks context (NestedAt child) (readContent context type child.children).outcome)
    (type : ComplexType) :
    Checks context (ParticlesBy visit) (readVisit context type visit).outcome := by
  obtain ⟨address, role, element⟩ := visit
  by_cases particle : role = .particle
  · subst particle
    refine (((checks_readParticle inside).below address).andThen ?_).congr ?_
    · exact fun particle => ⟨_, rfl⟩
    · exact fun _ _ => ⟨fun found => ⟨rfl, found⟩, fun found => found.2⟩
  · refine .of_none ?_ fun _ _ found => particle found.1
    exact (exists_readVisit_iff type).2 fun same => absurd same particle

/-- What belongs to one particle comes before what belongs to a later one. -/
theorem pairwise_particlesBy (elements : List Element) :
    (visits .content 0 elements).Pairwise
      (fun one other => Precedes (ParticlesBy one) (ParticlesBy other)) := by
  refine (pairwise_visits .content 0 elements).imp_of_mem fun {one other} among later before => ?_
  rintro _ _ _ _ ⟨particle, below, rfl, _⟩ ⟨_, behind, rfl, _⟩
  -- Nothing is visited below a particle, so the two addresses part before either ends.
  refine Address.append_lt_append before ?_ below behind
  rintro ⟨rest, same⟩
  have further := mem_visits_zero_iff.1 later
  rw [← same] at further
  obtain rfl := (mem_visits_zero_iff.1 among).eq_nil (.inl particle) further
  rw [List.append_nil] at same
  rw [same] at before
  exact List.lt_irrefl _ before

theorem exists_particlesBy_iff {node element : Element} {address : Address} :
    (∃ visit ∈ visits .content 0 node.children, ParticlesBy visit address element) ↔
      NestedAt node address element := by
  constructor
  · rintro ⟨⟨start, role, outer⟩, among, rfl, rest, rfl, below⟩
    have particle := visitedAt_particle_iff.1 (mem_visits_zero_iff.1 among)
    rcases below with ⟨rfl, rfl⟩ | inline
    · rw [List.append_nil]
      exact .own particle
    · exact .inside particle inline
  · intro nested
    have visit {start : Address} {outer : Element} (particle : ParticleAt node start outer) :
        ⟨start, .particle, outer⟩ ∈ visits .content 0 node.children :=
      mem_visits_zero_iff.2 (visitedAt_particle_iff.2 particle)
    cases nested with
    | own particle => exact ⟨_, visit particle, rfl, [], by simp, .inl ⟨rfl, rfl⟩⟩
    | inside particle inline => exact ⟨_, visit particle, rfl, _, rfl, .inr inline⟩

/-- Reading a complex type comes to all particles of its declaration, however deep they are. -/
theorem checks_readContent (node : Element) (type : ComplexType) :
    Checks context (NestedAt node) (readContent context type node.children).outcome := by
  rw [readContent_eq_foldlM context 0]
  have each (visit : Visit) (among : visit ∈ visits .content 0 node.children)
      (state : ComplexType) :
      Checks context (ParticlesBy visit) (readVisit context state visit).outcome :=
    -- The types inside a particle are smaller than the declaration that the particle is in.
    checks_readVisit (fun child inside type => checks_readContent child type) state
  exact (Checks.foldlM each (pairwise_particlesBy node.children) type).congr fun _ _ =>
    exists_particlesBy_iff
termination_by sizeOf node
decreasing_by
  have outer := (mem_visits_zero_iff.1 among).sizeOf_lt
  have inner := List.sizeOf_lt_of_mem inside
  have spread := sizeOf_children_lt visit.element
  have whole := sizeOf_children_lt node
  omega

theorem checks_readGlobalElement (element : Element) :
    Checks context (InlineAt element) (readGlobalElement context element).outcome :=
  (checks_readInlineTypes fun child _ type => checks_readContent child type).andThen
    fun _ => ⟨_, rfl⟩

theorem checks_readDeclaration (schema : Schema) (declaration : Element) :
    Checks context (DeclaredAt declaration)
      (readDeclaration context schema declaration).outcome := by
  unfold readDeclaration
  split
  · next declares =>
      split
      · next unnamed =>
          refine .of_none ⟨_, rfl⟩ fun address element here => ?_
          cases here with
          | complexType _ named => exact named unnamed
          | element other => cases declares.symm.trans other
      · next name named =>
          refine ((checks_readContent declaration _).andThen fun type => ⟨_, rfl⟩).congr ?_
          intro address element
          constructor
          · exact fun nested => .complexType declares (by simp [named]) nested
          · intro here
            cases here with
            | complexType _ _ nested => exact nested
            | element other => cases declares.symm.trans other
  · next declares =>
      refine .of_none ?_ fun address element here => ?_
      · split
        · exact ⟨_, rfl⟩
        · exact ⟨_, rfl⟩
      · cases here with
        | complexType other => cases declares.symm.trans other
        | element other => cases declares.symm.trans other
  · next declares =>
      refine ((checks_readGlobalElement declaration).andThen fun global => ⟨_, rfl⟩).congr ?_
      intro address element
      constructor
      · exact fun inline => .element declares inline
      · intro here
        cases here with
        | complexType other => cases declares.symm.trans other
        | element _ inline => exact inline
  · next no_complexType _ no_element =>
      refine .of_none ⟨_, rfl⟩ fun address element here => ?_
      cases here with
      | complexType other => exact no_complexType other
      | element other => exact no_element other

def TopLevelAt (child : Element) (address : Address) (element : Element) : Prop :=
  DeclaredAt child address element ∨
    Construct.ofName child.name = .directive .redefining ∧
      ∃ index declaration rest, child.children[index]? = some declaration ∧
        address = index :: rest ∧ DeclaredAt declaration rest element

theorem checks_readTopLevel (schema : Schema) (child : Element) :
    Checks context (TopLevelAt child) (readTopLevel context schema child).outcome := by
  have not_declared {kind : DirectiveKind} {address : Address} {element : Element}
      (directs : Construct.ofName child.name = .directive kind) :
      ¬ DeclaredAt child address element := by
    intro here
    cases here with
    | complexType other => cases directs.symm.trans other
    | element other => cases directs.symm.trans other
  unfold readTopLevel
  split
  · next kind directs =>
      cases kind with
      | redefining =>
          refine (Checks.children DeclaredAt (fun declaration _ schema =>
            checks_readDeclaration schema declaration) _).congr fun address element => ?_
          rw [TopLevelAt, or_iff_right (not_declared directs)]
          exact (and_iff_right directs).symm
      | importing =>
          refine .of_none ⟨_, rfl⟩ fun address element here => ?_
          rcases here with here | ⟨other, _⟩
          · exact not_declared directs here
          · cases directs.symm.trans other
      | including =>
          refine .of_none ⟨_, rfl⟩ fun address element here => ?_
          rcases here with here | ⟨other, _⟩
          · exact not_declared directs here
          · cases directs.symm.trans other
  · next undirected =>
      refine (checks_readDeclaration schema child).congr fun address element => ?_
      exact ⟨.inl, fun here => here.resolve_right fun other => undirected _ other.1⟩

theorem writtenAt_iff {root element : Element} {address : Address} :
    WrittenAt root address element ↔
      ∃ index child rest, root.children[index]? = some child ∧ address = index :: rest ∧
        TopLevelAt child rest element := by
  constructor
  · intro written
    cases written with
    | declared child particle => exact ⟨_, _, _, child, rfl, .inl particle⟩
    | redefined child redefines inside particle =>
        exact ⟨_, _, _, child, rfl, .inr ⟨redefines, _, _, _, inside, rfl, particle⟩⟩
  · rintro ⟨index, child, rest, here, rfl,
      particle | ⟨redefines, inner, _, _, inside, rfl, particle⟩⟩
    · exact .declared here particle
    · exact .redefined here redefines inside particle

end Reading

end SchemaBinding.Schema
