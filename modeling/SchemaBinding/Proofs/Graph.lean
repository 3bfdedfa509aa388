import SchemaBinding.Proofs.Loading

/-!
# Loading graphs of documents

Any number of calls on a fresh loader load exactly the documents that are reached
from what the calls name, each once and in depth-first order.  The calls succeed
unless a reached document refers to a location that is too long to be looked up.
-/

namespace SchemaBinding.Loader

inductive Call where
  | load (root : String) (recurse : Bool)
  | loadFile (path : FilePath)
deriving DecidableEq, Repr

/-- The roots that items have together, if each has its roots. -/
def allRoots? {α : Type} (roots? : α → Option (List FilePath)) : List α → Option (List FilePath)
  | [] => some []
  | item :: rest =>
      (roots? item).bind (fun roots => (allRoots? roots? rest).map (roots ++ ·))

variable (tree : FileTree)

def rootOf? (path : FilePath) : Option (List FilePath) :=
  (tree.resolve path).toOption.map (fun root => [root])

namespace Call

/-- The documents that a call begins with; none at all if it cannot look for them. -/
def roots? : Call → Option (List FilePath)
  | .load root recurse =>
      (discover tree (.ofString root) recurse).toOption.bind (allRoots? (rootOf? tree))
  | .loadFile path => rootOf? tree path

def perform : Call → Action Loader Unit
  | .load root recurse => Functor.discard (Loader.load tree root recurse)
  | .loadFile path => Functor.discard (Loader.loadFile tree path)

end Call

def performAll (calls : List Call) : Action Loader Unit :=
  calls.forM (Call.perform tree)

/-- A document that is reached from the roots of a call. -/
def Reached (calls : List Call) (path : FilePath) : Prop :=
  ∃ call ∈ calls, ∃ roots, call.roots? tree = some roots ∧ Reaches tree roots path

def sources (loader : Loader) : List FilePath :=
  loader.catalog.schemas.map Schema.source

/-- What was loaded is what calls reach, and what was reported goes with it. -/
structure LoadsExactly (calls : List Call) (records : List Record) (loader : Loader) :
    Prop where
  preorder : ∃ roots left, allRoots? (Call.roots? tree) calls = some roots ∧
    Traversal id (documentsOf tree) [] roots loader.sources left
  distinct : loader.sources.Nodup
  read : ∀ schema ∈ loader.catalog.schemas,
    (Schema.ofFile tree schema.source).outcome = .ok schema
  /-- Every way of spelling the place of a loaded document is resolved to the document. -/
  resolved : ∀ source ∈ loader.sources, ∃ location, source = .ofLocation location ∧
    ∀ path, tree.locate path = .ok location → tree.resolve path = .ok source
  reached : ∀ path, path ∈ loader.sources ↔ Reached tree calls path
  visited_eq : loader.visited = loader.sources
  warnings : (records.filter isWarning).Perm (loader.sources.flatMap (warningsOf tree))

/--
An action gathers the roots that it has.  It fails if it has none or if they are
blocked.
-/
def GathersRoots (roots : Option (List FilePath)) (action : Action Loader Unit) : Prop :=
  ∀ before, action.Ensures before
    (fun records _ after => ∃ given entered, roots = some given ∧
      Gathers tree before given [] entered records after)
    (∀ given, roots = some given → Blocked tree given)

variable {tree}

theorem gathersRoots_forM {α : Type} {roots? : α → Option (List FilePath)}
    {action : α → Action Loader Unit} (items : List α)
    (each : ∀ item, GathersRoots tree (roots? item) (action item)) :
    GathersRoots tree (allRoots? roots? items) (items.forM action) := by
  intro before
  induction items generalizing before with
  | nil => exact Action.ensures_pure ⟨[], [], rfl, .nil rfl⟩
  | cons item rest ih =>
      show Action.Ensures (action item >>= fun _ => rest.forM action) before _ _
      refine Action.Ensures.bind ((each item before).mono ?_ ?_)
      · rintro records value middle ⟨first, entered, given, gathers⟩
        refine (ih middle).mono ?_ ?_
        · rintro later value after ⟨others, enteredLater, givenLater, gathersLater⟩
          refine ⟨first ++ others, entered ++ enteredLater, ?_, gathers.append gathersLater⟩
          rw [allRoots?, given, givenLater]
          rfl
        · intro blocked all together
          rw [allRoots?, given] at together
          obtain ⟨others, givenLater, rfl⟩ := Option.map_eq_some_iff.1 together
          exact (blocked others givenLater).mono (List.subset_append_right _ _)
      · intro blocked all together
        rw [allRoots?] at together
        obtain ⟨first, given, more⟩ := Option.bind_eq_some_iff.1 together
        obtain ⟨others, _, rfl⟩ := Option.map_eq_some_iff.1 more
        exact (blocked first given).mono (List.subset_append_left _ _)

theorem gathersRoots_loadFile (path : FilePath) :
    GathersRoots tree (rootOf? tree path) (Functor.discard (loadFile tree path)) := by
  intro before
  unfold rootOf?
  cases given : tree.resolve path with
  | ok resolved =>
      refine ((ensures_loadFile given before).mono ?_ ?_).discard
      · rintro records value after ⟨entered, gathers⟩
        exact ⟨[resolved], entered, rfl, gathers⟩
      · intro blocked roots same
        cases same
        exact blocked
  | error fault =>
      refine Action.Ensures.discard ?_
      rw [loadFile_eq_loadStep]
      refine Action.Ensures.bind (Action.ensures_ofRun (fun resolved same => ?_)
        (fun _ _ roots none => by cases none))
      rw [given] at same
      cases same

theorem gathersRoots_load (root : String) (recurse : Bool) :
    GathersRoots tree ((Call.load root recurse).roots? tree)
      (Functor.discard (load tree root recurse)) := by
  intro before
  refine Action.Ensures.discard ?_
  unfold load
  rw [Call.roots?]
  cases found : discover tree (.ofString root) recurse with
  | error fault =>
      refine Action.Ensures.bind (Action.ensures_ofRun (fun paths same => by cases same)
        (fun _ _ roots none => by cases none))
  | ok paths =>
      refine Action.Ensures.bind (Action.ensures_ofRun (fun other same => ?_)
        (fun failure fails => by cases fails))
      cases same
      refine Action.Ensures.bind (Action.ensures_report ?_)
      have all : GathersRoots tree (allRoots? (rootOf? tree) paths) (paths.forM _) :=
        gathersRoots_forM paths gathersRoots_loadFile
      refine Action.Ensures.bind ((all before).mono ?_ id)
      rintro records value after ⟨roots, entered, given, gathers⟩
      refine Action.Ensures.bind (Action.ensures_state (Action.ensures_pure ?_))
      refine ⟨roots, entered, given, gathers.of_records ?_⟩
      simp [Run.ofExcept, isWarning, Record.info]

theorem gathersRoots_perform (call : Call) :
    GathersRoots tree (call.roots? tree) (call.perform tree) := by
  cases call with
  | loadFile path => exact gathersRoots_loadFile path
  | load root recurse => exact gathersRoots_load root recurse

theorem mem_allRoots? {α : Type} {roots? : α → Option (List FilePath)} {items : List α}
    {all : List FilePath} (given : allRoots? roots? items = some all) (root : FilePath) :
    root ∈ all ↔ ∃ item ∈ items, ∃ roots, roots? item = some roots ∧ root ∈ roots := by
  induction items generalizing all with
  | nil =>
      cases given
      simp
  | cons item rest ih =>
      rw [allRoots?] at given
      obtain ⟨first, here, more⟩ := Option.bind_eq_some_iff.1 given
      obtain ⟨others, later, rfl⟩ := Option.map_eq_some_iff.1 more
      rw [List.mem_append, ih later, List.exists_mem_cons_iff, here]
      simp

theorem allRoots?_isSome {α : Type} {roots? : α → Option (List FilePath)} {items : List α} :
    (allRoots? roots? items).isSome = true ↔ ∀ item ∈ items, (roots? item).isSome = true := by
  induction items with
  | nil => simp [allRoots?]
  | cons item rest ih =>
      rw [allRoots?, List.forall_mem_cons, ← ih]
      cases roots? item <;> simp

/-- The documents that calls reach are those that are reached from all their roots together. -/
theorem reached_iff_reaches {calls : List Call} {roots : List FilePath}
    (given : allRoots? (Call.roots? tree) calls = some roots) (path : FilePath) :
    Reached tree calls path ↔ Reaches tree roots path := by
  constructor
  · rintro ⟨call, member, own, isOwn, start, inOwn, steps⟩
    exact ⟨start, (mem_allRoots? given start).2 ⟨call, member, own, isOwn, inOwn⟩, steps⟩
  · rintro ⟨start, member, steps⟩
    obtain ⟨call, inCalls, own, isOwn, inOwn⟩ := (mem_allRoots? given start).1 member
    exact ⟨call, inCalls, own, isOwn, start, inOwn, steps⟩

/-- A set of documents that refer only to each other holds all that is reached from it. -/
theorem mem_of_reaches {roots closed : List FilePath} {path : FilePath}
    (reaches : Reaches tree roots path) (inside : roots ⊆ closed)
    (closes : ∀ source ∈ closed, documentsOf tree source ⊆ closed) : path ∈ closed := by
  obtain ⟨start, member, steps⟩ := reaches
  induction steps with
  | refl => exact inside member
  | tail _ leads ih => exact closes _ ih leads

theorem map_source_schemas {paths : List FilePath}
    (loadable : ∀ path ∈ paths, IsLoadable tree path) :
    (paths.filterMap (schemaOf? tree)).map Schema.source = paths := by
  induction paths with
  | nil => rfl
  | cons path rest ih =>
      obtain ⟨schema, read, _⟩ := loadable path List.mem_cons_self
      have parsed : schemaOf? tree path = some schema := by
        rw [schemaOf?, read]
        rfl
      rw [List.filterMap_cons_some parsed, List.map_cons,
        ih (fun other member => loadable other (List.mem_cons_of_mem _ member)),
        ((Schema.consistent_ofFile tree path).value schema read).source_eq]

namespace Gathers

variable {roots entered : List FilePath} {records : List Record} {after : Loader}

theorem sources_eq (gathers : Gathers tree .empty roots [] entered records after) :
    after.sources = entered := by
  rw [sources, gathers.schemas_eq]
  exact map_source_schemas gathers.loadable

/-- What a fresh loader enters is what is reached from the roots. -/
theorem mem_entered_iff (gathers : Gathers tree .empty roots [] entered records after)
    (path : FilePath) : path ∈ entered ↔ Reaches tree roots path := by
  obtain ⟨left, traversal⟩ := gathers.traversal
  constructor
  · exact traversal.reaches
  · rintro ⟨start, member, steps⟩
    induction steps with
    | refl => simpa using (traversal.covers member).resolve_left List.not_mem_nil
    | tail _ leads ih => simpa using (traversal.closed ih leads).resolve_left List.not_mem_nil

/-- What a fresh loader gathers from the roots of calls is exactly what the calls reach. -/
theorem loadsExactly (gathers : Gathers tree .empty roots [] entered records after)
    {calls : List Call} (given : allRoots? (Call.roots? tree) calls = some roots) :
    LoadsExactly tree calls records after := by
  obtain ⟨left, traversal⟩ := gathers.traversal
  constructor
  case preorder =>
    rw [gathers.sources_eq]
    exact ⟨roots, left, given, traversal⟩
  case distinct =>
    rw [gathers.sources_eq]
    simpa using traversal.nodup_keys
  case read =>
    intro schema member
    rw [gathers.schemas_eq] at member
    obtain ⟨path, _, parsed⟩ := List.mem_filterMap.1 member
    cases read : (Schema.ofFile tree path).outcome with
    | error failure =>
        rw [schemaOf?, read] at parsed
        cases parsed
    | ok other =>
        rw [schemaOf?, read] at parsed
        cases parsed
        rw [((Schema.consistent_ofFile tree path).value schema read).source_eq]
        exact read
  case resolved =>
    intro source member
    rw [gathers.sources_eq] at member
    obtain ⟨location, rfl⟩ := gathers.places source member
    exact ⟨location, rfl, fun path located => FileTree.resolve_of_locate located⟩
  case reached =>
    intro path
    rw [gathers.sources_eq, gathers.mem_entered_iff, reached_iff_reaches given]
  case visited_eq =>
    rw [gathers.sources_eq, gathers.visited_eq]
    rfl
  case warnings =>
    rw [gathers.sources_eq]
    exact gathers.warnings

end Gathers

/-- Calls that succeed on a fresh loader load exactly what they reach. -/
theorem loadsExactly_of_succeeds {calls : List Call}
    (succeeds : (performAll tree calls .empty).1.outcome = .ok ()) :
    LoadsExactly tree calls (performAll tree calls .empty).1.records
      (performAll tree calls .empty).2 := by
  have performed : GathersRoots tree (allRoots? (Call.roots? tree) calls)
      (performAll tree calls) := gathersRoots_forM calls gathersRoots_perform
  rcases result : performAll tree calls .empty with ⟨⟨records, outcome⟩, after⟩
  rw [result] at succeeds
  obtain rfl : outcome = .ok () := succeeds
  obtain ⟨roots, entered, given, gathers⟩ := (performed .empty).value _ _ _ result
  exact gathers.loadsExactly given

/-- Calls succeed on a fresh loader if they have roots and everything that they reach can be loaded. -/
theorem performAll_succeeds_iff {calls : List Call} :
    (performAll tree calls .empty).1.outcome = .ok () ↔
      (∀ call ∈ calls, (call.roots? tree).isSome = true) ∧
      ∀ path, Reached tree calls path → IsLoadable tree path := by
  have performed : GathersRoots tree (allRoots? (Call.roots? tree) calls)
      (performAll tree calls) := gathersRoots_forM calls gathersRoots_perform
  rcases result : performAll tree calls .empty with ⟨⟨records, outcome⟩, after⟩
  cases outcome with
  | ok value =>
      obtain ⟨roots, entered, given, gathers⟩ := (performed .empty).value _ _ _ result
      refine ⟨fun _ => ⟨?_, fun path reached => ?_⟩, fun _ => rfl⟩
      · rw [← allRoots?_isSome, given]
        rfl
      · exact gathers.loadable path
          ((gathers.mem_entered_iff path).2 ((reached_iff_reaches given path).1 reached))
  | error failure =>
      have blocked := (performed .empty).failure _ _ _ result
      refine ⟨fun succeeds => (by cases succeeds), ?_⟩
      rintro ⟨all, loadable⟩
      obtain ⟨roots, given⟩ := Option.isSome_iff_exists.1 (allRoots?_isSome.2 all)
      obtain ⟨path, reaches, unloadable⟩ := blocked roots given
      exact absurd (loadable path ((reached_iff_reaches given path).2 reaches)) unloadable

/-- A schema that refers to others by locators can be loaded unless a location is too long. -/
theorem isLoadable_iff {path : FilePath} {schema : Schema}
    (read : (Schema.ofFile tree path).outcome = .ok schema)
    (locators : ∀ directive ∈ directivesOf tree path, ∀ location,
      directive.location = some location → ∃ locator, Locator.ofString location = .ok locator) :
    IsLoadable tree path ↔ ∀ directive ∈ directivesOf tree path, ∀ location,
      directive.location = some location → ¬ IsOverlong tree path location := by
  rw [directivesOf_eq read] at locators ⊢
  constructor
  · rintro ⟨other, sameRead, followable⟩ directive member
    rw [read] at sameRead
    obtain rfl := Except.ok.inj sameRead
    exact (isFollowable_iff (locators directive member)).1 (followable directive member)
  · intro short
    exact ⟨schema, read, fun directive member =>
      (isFollowable_iff (locators directive member)).2 (short directive member)⟩

/--
Calls on a fresh loader, where the reached documents are schemas and refer to each
other by locators: loading ends, the calls succeed exactly if they can look for
their roots and no location is too long, and then they load what they reach.
-/
theorem performAll_loadsExactly (tree : FileTree) (calls : List Call)
    (schemas : ∀ path, Reached tree calls path →
      ∃ schema, (Schema.ofFile tree path).outcome = .ok schema)
    (locators : ∀ path, Reached tree calls path → ∀ directive ∈ directivesOf tree path,
      ∀ location, directive.location = some location →
      ∃ locator, Locator.ofString location = .ok locator) :
    (∀ last path before,
      (loadStep tree)^[tree.entries.length + 2] last path before = loadFile tree path before) ∧
    ((performAll tree calls .empty).1.outcome = .ok () ↔
      (∀ call ∈ calls, (call.roots? tree).isSome = true) ∧
      ∀ path, Reached tree calls path → ∀ directive ∈ directivesOf tree path,
        ∀ location, directive.location = some location → ¬ IsOverlong tree path location) ∧
    ((performAll tree calls .empty).1.outcome = .ok () →
      LoadsExactly tree calls (performAll tree calls .empty).1.records
        (performAll tree calls .empty).2) := by
  refine ⟨fun last path before => iterate_loadStep_eq_loadFile last (Nat.le_refl _) path before,
    ?_, loadsExactly_of_succeeds⟩
  rw [performAll_succeeds_iff]
  refine and_congr_right (fun _ => forall_congr' (fun path => ?_))
  refine imp_congr_right (fun reached => ?_)
  obtain ⟨schema, read⟩ := schemas path reached
  exact isLoadable_iff read (locators path reached)

def textFile (text : String) : Entry :=
  .file (Text.Utf8.encode text.toList)

/-- Two documents that refer to each other, in two ways of spelling, and one of them to nothing. -/
def ringTree : FileTree where
  entries := [
    (["a.xsd"], textFile (
      "<schema xmlns='http://www.w3.org/2001/XMLSchema'>" ++
      "<include schemaLocation='./b.xsd'/></schema>")),
    (["b.xsd"], textFile (
      "<schema xmlns='http://www.w3.org/2001/XMLSchema'>" ++
      "<include schemaLocation='/a.xsd'/><include schemaLocation='c'/></schema>"))]
  workingDirectory := []

theorem directives_of_map {path : FilePath} {directives : List Directive}
    (read : (Schema.ofFile tree path).outcome.toOption.map Schema.directives =
      some directives) :
    (∃ schema, (Schema.ofFile tree path).outcome = .ok schema) ∧
      directivesOf tree path = directives := by
  unfold directivesOf
  cases outcome : (Schema.ofFile tree path).outcome with
  | ok schema =>
      rw [outcome] at read
      exact ⟨⟨schema, rfl⟩, Option.some.inj read⟩
  | error failure =>
      rw [outcome] at read
      cases read

theorem directives_ringTree_a :
    (Schema.ofFile ringTree (.ofLocation ["a.xsd"])).outcome.toOption.map Schema.directives =
      some [⟨.including, some "./b.xsd", none⟩] := by
  simp only [ringTree, textFile, String.toList_append, String.reduceToList]
  decide +kernel

theorem directives_ringTree_b :
    (Schema.ofFile ringTree (.ofLocation ["b.xsd"])).outcome.toOption.map Schema.directives =
      some [⟨.including, some "/a.xsd", none⟩, ⟨.including, some "c", none⟩] := by
  simp only [ringTree, textFile, String.toList_append, String.reduceToList]
  decide +kernel

def ringCalls : List Call :=
  [.load "a.xsd" false, .loadFile (.ofString "sub/../b.xsd")]

theorem reached_ringTree {path : FilePath} (reached : Reached ringTree ringCalls path) :
    path ∈ [.ofLocation ["a.xsd"], .ofLocation ["b.xsd"]] := by
  have roots : allRoots? (Call.roots? ringTree) ringCalls =
      some [.ofLocation ["a.xsd"], .ofLocation ["b.xsd"]] := by decide
  refine mem_of_reaches ((reached_iff_reaches roots path).1 reached) (List.Subset.refl _) ?_
  intro source member
  simp only [List.mem_cons, List.not_mem_nil, or_false] at member
  rcases member with rfl | rfl
  · rw [documentsOf, (directives_of_map directives_ringTree_a).2]
    decide +kernel
  · rw [documentsOf, (directives_of_map directives_ringTree_b).2]
    decide +kernel

/-- What a check of the locations of directives assures, if it finds nothing wrong. -/
theorem forall_location_of_all {directives : List Directive} {check : String → Bool}
    {holds : String → Prop} (sound : ∀ location, check location = true → holds location)
    (all : (directives.flatMap (·.location.toList)).all check = true) :
    ∀ directive ∈ directives, ∀ location, directive.location = some location →
      holds location := by
  intro directive member location given
  refine sound location (List.all_eq_true.1 all location ?_)
  exact List.mem_flatMap.2 ⟨directive, member, by simp [given]⟩

theorem exists_locator_of_isSome (location : String)
    (read : (Locator.ofString location).toOption.isSome = true) :
    ∃ locator, Locator.ofString location = .ok locator := by
  cases given : Locator.ofString location with
  | ok locator => exact ⟨locator, rfl⟩
  | error fault =>
      rw [given] at read
      cases read

def isDecided (tree : FileTree) (source : FilePath) (location : String) : Bool :=
  match resolveLocation tree location source with
  | .ok _ | .error (.missingDocument _ _) => true
  | .error _ => false

theorem not_isOverlong_of_isDecided (source : FilePath) (location : String)
    (decided : isDecided tree source location = true) : ¬ IsOverlong tree source location := by
  intro overlong
  rw [isDecided, resolveLocation_of_isOverlong overlong] at decided
  cases decided

theorem performAll_loadsExactly_ringTree :
    (performAll ringTree ringCalls .empty).1.outcome = .ok () ∧
      LoadsExactly ringTree ringCalls (performAll ringTree ringCalls .empty).1.records
        (performAll ringTree ringCalls .empty).2 := by
  have a := directives_of_map directives_ringTree_a
  have b := directives_of_map directives_ringTree_b
  have each : ∀ {holds : FilePath → Prop}, holds (.ofLocation ["a.xsd"]) →
      holds (.ofLocation ["b.xsd"]) → ∀ path, Reached ringTree ringCalls path → holds path := by
    intro holds inA inB path reached
    have member := reached_ringTree reached
    simp only [List.mem_cons, List.not_mem_nil, or_false] at member
    rcases member with rfl | rfl
    · exact inA
    · exact inB
  have locators : ∀ path, Reached ringTree ringCalls path →
      ∀ directive ∈ directivesOf ringTree path, ∀ location,
        directive.location = some location →
        ∃ locator, Locator.ofString location = .ok locator := by
    refine each ?_ ?_
    · rw [a.2]
      exact forall_location_of_all exists_locator_of_isSome (by decide)
    · rw [b.2]
      exact forall_location_of_all exists_locator_of_isSome (by decide)
  have short : ∀ path, Reached ringTree ringCalls path →
      ∀ directive ∈ directivesOf ringTree path, ∀ location,
        directive.location = some location → ¬ IsOverlong ringTree path location := by
    refine each ?_ ?_
    · rw [a.2]
      exact forall_location_of_all (not_isOverlong_of_isDecided _) (by decide +kernel)
    · rw [b.2]
      exact forall_location_of_all (not_isOverlong_of_isDecided _) (by decide +kernel)
  have main := performAll_loadsExactly ringTree ringCalls (each a.1 b.1) locators
  have succeeds := main.2.1.2 ⟨by decide, short⟩
  exact ⟨succeeds, main.2.2 succeeds⟩

/-- The name of a file that no directory can hold: it has 256 bytes. -/
def overlongName : String :=
  String.ofList (List.replicate 64 (Char.ofNat 0x10000))

/-- A document that refers to a file whose name is too long. -/
def overlongTree : FileTree where
  entries := [(["a.xsd"], textFile (
    "<schema xmlns='http://www.w3.org/2001/XMLSchema'>" ++
    "<include schemaLocation='" ++ overlongName ++ "'/></schema>"))]
  workingDirectory := []

theorem toList_overlongName :
    overlongName.toList = List.replicate 64 (Char.ofNat 0x10000) :=
  String.toList_ofList

theorem directives_overlongTree :
    (Schema.ofFile overlongTree (.ofLocation ["a.xsd"])).outcome.toOption.map
      Schema.directives = some [⟨.including, some overlongName, none⟩] := by
  simp only [overlongTree, textFile, String.toList_append, toList_overlongName,
    String.reduceToList]
  decide +kernel

theorem locator_overlongName :
    Locator.ofString overlongName = .ok ⟨"", "", overlongName⟩ := by
  rw [Locator.ofString, toList_overlongName]
  rfl

theorem exists_locator_overlongName :
    ∃ locator, Locator.ofString overlongName = .ok locator :=
  ⟨_, locator_overlongName⟩

theorem ofString_overlongName : FilePath.ofString overlongName = ⟨"", [overlongName]⟩ := by
  rw [FilePath.ofString, toList_overlongName]
  rfl

theorem locate_overlongName :
    overlongTree.locate ⟨"/", [overlongName]⟩ = .error .nameTooLong := by
  rw [FileTree.locate, FilePath.hasNull, List.any_cons, toList_overlongName]
  decide +kernel

theorem isOverlong_overlongName :
    IsOverlong overlongTree (.ofLocation ["a.xsd"]) overlongName := by
  have plain : ¬ overlongName.startsWith "file:" = true := by decide +kernel
  have joined : (FilePath.ofLocation ["a.xsd"]).parent.join ⟨"", [overlongName]⟩ =
      ⟨"/", [overlongName]⟩ := rfl
  refine ⟨_, locator_overlongName, .inl rfl, ?_⟩
  rw [targetPath, if_neg plain, ofString_overlongName, joined, locate_overlongName]

/-- A reference to a file whose name is too long is not passed over: the loading fails. -/
theorem performAll_overlongTree_fails :
    (∀ path, Reached overlongTree [.loadFile (.ofString "/a.xsd")] path →
      (∃ schema, (Schema.ofFile overlongTree path).outcome = .ok schema) ∧
      ∀ directive ∈ directivesOf overlongTree path, ∀ location,
        directive.location = some location →
        ∃ locator, Locator.ofString location = .ok locator) ∧
    (performAll overlongTree [.loadFile (.ofString "/a.xsd")] .empty).1.outcome ≠ .ok () := by
  obtain ⟨read, directives⟩ := directives_of_map directives_overlongTree
  have roots : allRoots? (Call.roots? overlongTree) [.loadFile (.ofString "/a.xsd")] =
      some [.ofLocation ["a.xsd"]] := by rfl
  have nothing : documentsOf overlongTree (.ofLocation ["a.xsd"]) = [] := by
    rw [documentsOf, directives, filterMap_cons_eq_append, documentOf?, Option.bind_some,
      resolveLocation_of_isOverlong isOverlong_overlongName]
    rfl
  have only : ∀ path, Reached overlongTree [.loadFile (.ofString "/a.xsd")] path →
      path = .ofLocation ["a.xsd"] := by
    intro path reached
    refine List.mem_singleton.1 (mem_of_reaches ((reached_iff_reaches roots path).1 reached)
      (List.Subset.refl _) (fun source member => ?_))
    obtain rfl := List.mem_singleton.1 member
    rw [nothing]
    exact List.nil_subset _
  have locators : ∀ directive ∈ directivesOf overlongTree (.ofLocation ["a.xsd"]),
      ∀ location, directive.location = some location →
      ∃ locator, Locator.ofString location = .ok locator := by
    rw [directives]
    intro directive member location given
    obtain rfl := List.mem_singleton.1 member
    obtain rfl := Option.some.inj given
    exact exists_locator_overlongName
  refine ⟨fun path reached => ?_, fun succeeds => ?_⟩
  · obtain rfl := only path reached
    exact ⟨read, locators⟩
  · have loadable := (performAll_succeeds_iff.1 succeeds).2 (.ofLocation ["a.xsd"])
      ((reached_iff_reaches roots _).2 ⟨_, List.mem_singleton_self _, .refl⟩)
    obtain ⟨schema, isRead⟩ := read
    refine (isLoadable_iff isRead locators).1 loadable ⟨.including, some overlongName, none⟩
      ?_ overlongName rfl isOverlong_overlongName
    rw [directives]
    exact List.mem_singleton_self _

end SchemaBinding.Loader
