import SchemaBinding.Proofs.Generation
import SchemaBinding.Proofs.Registration
import SchemaBinding.Proofs.TreeChanges

/-!
# Loading again

A loader whose loading succeeded is determined by the documents that it read and by
where these lead.  In another tree where these documents are read as before, and
lead to the same documents, loading succeeds again and gives the same loader.
-/

namespace SchemaBinding

namespace Loader

variable {tree after : FileTree} {root : String} {recurse : Bool}

/-- The catalogue holds what registering its schemas gives, and nothing else. -/
def IsRegistered (loader : Loader) : Prop :=
  loader.catalog = .ofSchemas loader.catalog.schemas

theorem isRegistered_empty : IsRegistered .empty := rfl

theorem IsRegistered.visit {loader : Loader} (registered : loader.IsRegistered)
    (path : FilePath) : (loader.visit path).IsRegistered :=
  registered

theorem IsRegistered.register {loader : Loader} (registered : loader.IsRegistered)
    (schema : Schema) : (loader.register schema).IsRegistered := by
  show loader.catalog.register schema = .ofSchemas (loader.catalog.schemas ++ [schema])
  rw [Catalog.ofSchemas, List.foldl_append, ← Catalog.ofSchemas, ← registered]
  rfl

def KeepsRegistered {α : Type} (action : Action Loader α) : Prop :=
  ∀ before : Loader, before.IsRegistered →
    action.Ensures before (fun _ _ left => left.IsRegistered) True

theorem keepsRegistered_followDirective {recursion : FilePath → Action Loader (Option Schema)}
    (keeps : ∀ path, KeepsRegistered (recursion path)) (source : FilePath)
    (directive : Directive) :
    KeepsRegistered (followDirective tree recursion source directive) := by
  intro before registered
  refine Action.Ensures.bind (Action.ensures_ofRun (fun found _ => ?_) (fun _ _ => trivial))
  cases found with
  | none => exact Action.ensures_pure registered
  | some target => exact (keeps target before registered).discard

theorem keepsRegistered_forM {α : Type} {action : α → Action Loader Unit} (items : List α)
    (keeps : ∀ item, KeepsRegistered (action item)) : KeepsRegistered (items.forM action) := by
  intro before registered
  induction items generalizing before with
  | nil => exact Action.ensures_pure registered
  | cons item rest ih =>
      show Action.Ensures (action item >>= fun _ => rest.forM action) before _ _
      exact Action.Ensures.bind ((keeps item before registered).mono
        (fun _ _ middle kept => ih middle kept) id)

theorem keepsRegistered_loadStep {recursion : FilePath → Action Loader (Option Schema)}
    (keeps : ∀ path, KeepsRegistered (recursion path)) (path : FilePath) :
    KeepsRegistered (loadStep tree recursion path) := by
  intro before registered
  unfold loadStep
  refine Action.Ensures.bind (Action.ensures_ofRun (fun resolved _ => ?_) (fun _ _ => trivial))
  refine Action.Ensures.bind (Action.ensures_state ?_)
  split
  · exact Action.Ensures.bind (Action.ensures_report (Action.ensures_pure registered))
  · refine Action.Ensures.bind (Action.ensures_change ?_)
    refine Action.Ensures.bind (Action.ensures_report ?_)
    refine Action.Ensures.bind (Action.ensures_ofRun (fun schema _ => ?_) (fun _ _ => trivial))
    refine Action.Ensures.bind (Action.ensures_change ?_)
    have entered := (registered.visit resolved).register schema
    refine Action.Ensures.bind ((keepsRegistered_forM _
      (keepsRegistered_followDirective keeps schema.source) _ entered).mono ?_ id)
    exact fun _ _ _ kept => Action.ensures_pure kept

theorem keepsRegistered_loadWith (bound : Nat) (path : FilePath) :
    KeepsRegistered (loadWith tree bound path) := by
  induction bound generalizing path with
  | zero => exact fun _ registered => Action.ensures_pure registered
  | succ bound ih => exact keepsRegistered_loadStep ih path

/-- Loading registers schemas and does nothing else to a catalogue. -/
theorem keepsRegistered_load : KeepsRegistered (load tree root recurse) := by
  intro before registered
  unfold load
  refine Action.Ensures.bind (Action.ensures_ofRun (fun paths _ => ?_) (fun _ _ => trivial))
  refine Action.Ensures.bind (Action.ensures_report ?_)
  refine Action.Ensures.bind ((keepsRegistered_forM paths (fun path before registered =>
    (keepsRegistered_loadWith _ path before registered).discard) before registered).mono ?_ id)
  exact fun _ _ _ kept => Action.Ensures.bind (Action.ensures_state (Action.ensures_pure kept))

/--
Another tree in which the same documents are found at a root, and documents are read
as before and lead to the same documents.
-/
structure LoadsAlike (tree after : FileTree) (root : String) (recurse : Bool)
    (documents : List FilePath) : Prop where
  discovers : discover after (.ofString root) recurse = discover tree (.ofString root) recurse
  workingDirectory_eq : after.workingDirectory = tree.workingDirectory
  reads : ∀ path ∈ documents, Schema.ofFile after path = Schema.ofFile tree path
  follows : ∀ path ∈ documents, ∀ directive ∈ directivesOf tree path, ∀ location,
    directive.location = some location →
    resolveLocation after location path = resolveLocation tree location path

section Again

variable {documents : List FilePath} (alike : LoadsAlike tree after root recurse documents)
variable {path : FilePath}
include alike

theorem LoadsAlike.roots_eq :
    (Call.load root recurse).roots? after = (Call.load root recurse).roots? tree := by
  have each : rootOf? after = rootOf? tree := by
    funext path
    rw [rootOf?, rootOf?, FileTree.resolve, FileTree.resolve, alike.workingDirectory_eq]
  rw [Call.roots?, Call.roots?, alike.discovers, each]

theorem LoadsAlike.directives_eq (member : path ∈ documents) :
    directivesOf after path = directivesOf tree path := by
  rw [directivesOf, directivesOf, alike.reads path member]

theorem LoadsAlike.documents_eq (member : path ∈ documents) :
    documentsOf after path = documentsOf tree path := by
  rw [documentsOf, documentsOf, alike.directives_eq member]
  refine List.filterMap_congr fun directive inside => ?_
  unfold documentOf?
  cases given : directive.location with
  | none => rw [Option.bind_none, Option.bind_none]
  | some location =>
      rw [Option.bind_some, Option.bind_some,
        alike.follows path member directive inside location given]

theorem LoadsAlike.isLoadable (member : path ∈ documents) (loadable : IsLoadable tree path) :
    IsLoadable after path := by
  obtain ⟨schema, read, followable⟩ := loadable
  refine ⟨schema, by rw [alike.reads path member]; exact read, ?_⟩
  intro directive inside location given failure failed
  refine followable directive inside location given failure ?_
  rw [← directivesOf_eq read] at inside
  rw [← alike.follows path member directive inside location given]
  exact failed

end Again

/-- What a loading that succeeded did. -/
theorem exists_gathers_of_load {records : List Record} {schemas : List Schema} {loader : Loader}
    (loads : load tree root recurse .empty = (⟨records, .ok schemas⟩, loader)) :
    ∃ roots, (Call.load root recurse).roots? tree = some roots ∧
      Gathers tree .empty roots [] loader.visited records loader := by
  have discarded : (load tree root recurse >>= fun _ => pure ()) .empty =
      (⟨records ++ [], .ok ()⟩, loader) := Action.bind_of_ok loads
  obtain ⟨roots, entered, given, gathers⟩ :=
    (gathersRoots_load root recurse .empty).value _ _ _ discarded
  rw [List.append_nil] at gathers
  have visited : loader.visited = entered := gathers.visited_eq
  exact ⟨roots, given, visited ▸ gathers⟩

/-- A loading that succeeded succeeds again in a tree that is alike for what was loaded. -/
theorem load_again {records : List Record} {schemas : List Schema} {loader : Loader}
    (loads : load tree root recurse .empty = (⟨records, .ok schemas⟩, loader))
    (alike : LoadsAlike tree after root recurse loader.visited) :
    ∃ more others, load after root recurse .empty = (⟨more, .ok others⟩, loader) := by
  obtain ⟨roots, given, gathers⟩ := exists_gathers_of_load loads
  obtain ⟨left, traversal⟩ := gathers.traversal
  rcases result : load after root recurse .empty with ⟨⟨more, outcome⟩, other⟩
  cases outcome with
  | ok others =>
      obtain ⟨sameRoots, again, gathersAgain⟩ := exists_gathers_of_load result
      rw [alike.roots_eq, given] at again
      obtain rfl := Option.some.inj again
      obtain ⟨leftAgain, traversalAgain⟩ := gathersAgain.traversal
      have visited : other.visited = loader.visited :=
        ((traversal.congr fun path member => alike.documents_eq member).unique traversalAgain).1
      have schemasOf : other.catalog.schemas = loader.catalog.schemas := by
        rw [gathers.schemas_eq, gathersAgain.schemas_eq, visited]
        congr 1
        refine List.filterMap_congr fun path member => ?_
        rw [schemaOf?, schemaOf?, alike.reads path member]
      have registered := (keepsRegistered_load .empty isRegistered_empty).value _ _ _ loads
      have registeredAgain := (keepsRegistered_load .empty isRegistered_empty).value _ _ _ result
      have catalogs : other.catalog = loader.catalog := by
        rw [registered, registeredAgain, schemasOf]
      obtain ⟨catalog, visitedPaths⟩ := loader
      obtain ⟨otherCatalog, otherVisited⟩ := other
      obtain rfl : otherCatalog = catalog := catalogs
      obtain rfl : otherVisited = visitedPaths := visited
      exact ⟨more, others, rfl⟩
  | error failure =>
      have discarded : (load after root recurse >>= fun _ => pure ()) .empty =
          (⟨more, .error failure⟩, other) := Action.bind_of_error result
      have blocked := (gathersRoots_load root recurse .empty).failure _ _ _ discarded
      obtain ⟨path, reaches, unloadable⟩ := blocked roots (by rw [alike.roots_eq, given])
      have reached : path ∈ loader.visited := by
        refine mem_of_reaches reaches (fun root member => ?_) (fun source member target leads => ?_)
        · simpa using (traversal.covers member).resolve_left List.not_mem_nil
        · rw [alike.documents_eq member] at leads
          simpa using (traversal.closed member leads).resolve_left List.not_mem_nil
      exact absurd (alike.isLoadable reached (gathers.loadable path reached)) unloadable

section Spares

variable {directory place : Location}

/-- A resolved path in a well-formed tree goes down from the top. -/
theorem double_dot_not_mem_of_resolve (sound : tree.WellFormed) {path resolved : FilePath}
    (given : tree.resolve path = .ok resolved) :
    ∃ location, resolved = .ofLocation location ∧ ".." ∉ location := by
  unfold FileTree.resolve at given
  split at given
  · cases given
  · exact ⟨_, (Except.ok.inj given).symm, sound.double_dot_not_mem_resolveFrom path⟩

variable {records : List Record} {schemas : List Schema} {loader : Loader}

/-- The path of a document that was loaded goes down from the top. -/
theorem double_dot_not_mem_of_load (sound : tree.WellFormed)
    (loads : load tree root recurse .empty = (⟨records, .ok schemas⟩, loader)) {path : FilePath}
    (member : path ∈ loader.visited) :
    ∃ location, path = .ofLocation location ∧ ".." ∉ location := by
  obtain ⟨roots, given, gathers⟩ := exists_gathers_of_load loads
  obtain ⟨left, traversal⟩ := gathers.traversal
  rcases traversal.requested member with isRoot | ⟨owner, _, leads⟩
  · obtain ⟨paths, _, all⟩ := Option.bind_eq_some_iff.1 given
    obtain ⟨item, _, own, rooted, inside⟩ := (mem_allRoots? all path).1 isRoot
    obtain ⟨resolved, settles, rfl⟩ := Option.map_eq_some_iff.1 rooted
    obtain rfl := List.mem_singleton.1 inside
    cases result : tree.resolve item with
    | error fault =>
        rw [result] at settles
        cases settles
    | ok other =>
        rw [result] at settles
        cases settles
        exact double_dot_not_mem_of_resolve sound result
  · obtain ⟨directive, _, found⟩ := List.mem_filterMap.1 leads
    obtain ⟨location, _, resolves⟩ := Option.bind_eq_some_iff.1 found
    cases result : resolveLocation tree location owner with
    | error failure =>
        rw [result] at resolves
        cases resolves
    | ok target =>
        rw [result] at resolves
        cases resolves
        obtain ⟨locator, place, bytes, _, _, entry, rfl⟩ := resolveLocation_eq_ok result
        refine ⟨place, rfl, fun above => ?_⟩
        exact (sound.names_of_entry? (by rw [entry]; rfl) ".." above).not_above rfl

/-- A file at the root is among the documents that were loaded. -/
theorem mem_visited_of_file
    (loads : load tree root recurse .empty = (⟨records, .ok schemas⟩, loader))
    (located : tree.locate (.ofString root) = .ok place) {bytes : List UInt8}
    (found : tree.entry? place = some (.file bytes)) :
    FilePath.ofLocation place ∈ loader.visited := by
  obtain ⟨roots, given, gathers⟩ := exists_gathers_of_load loads
  obtain ⟨left, traversal⟩ := gathers.traversal
  have first : (Call.load root recurse).roots? tree = some [.ofLocation place] := by
    have only : discover tree (.ofString root) recurse = .ok [.ofString root] := by
      unfold discover
      rw [FileTree.isFile_of_locate located, found]
      rfl
    rw [Call.roots?, only]
    simp [allRoots?, rootOf?, FileTree.resolve_of_locate located, Except.toOption]
  rw [first] at given
  obtain rfl := Option.some.inj given
  simpa using (traversal.covers (List.mem_singleton_self _)).resolve_left List.not_mem_nil

variable (sound : tree.WellFormed) (spares : FileTree.Spares directory tree after)
variable (loads : load tree root recurse .empty = (⟨records, .ok schemas⟩, loader))
variable (apart : ∀ path ∈ loader.visited, ¬ directory <+: path.parts)
include spares loads apart

/-- The same documents are found at a root that is not above the changes. -/
theorem discover_eq (located : tree.locate (.ofString root) = .ok place)
    (stands : (tree.entry? place).isSome = true) (outside : ¬ place <+: directory) :
    discover after (.ofString root) recurse = discover tree (.ofString root) recurse := by
  have locatedAfter := spares.keepsDirectories.locate located
  obtain ⟨entry, found⟩ := Option.isSome_iff_exists.1 stands
  unfold discover
  rw [FileTree.isFile_of_locate located, FileTree.isFile_of_locate locatedAfter, found]
  cases entry with
  | directory =>
      rw [spares.keepsDirectories.directory place found]
      have contents := spares.contents located found outside
      have below : schemasBelow after (.ofString root) recurse =
          schemasBelow tree (.ofString root) recurse := by rw [schemasBelow, contents]; rfl
      have overlong : hasOverlongEntry after (.ofString root) recurse =
          hasOverlongEntry tree (.ofString root) recurse := by
        rw [hasOverlongEntry, contents]
        rfl
      rw [below, overlong]
  | file bytes =>
      rw [spares.file place bytes (apart _ (mem_visited_of_file loads located found)) found]
      rfl

include sound in
/-- A document that was loaded is read as before. -/
theorem ofFile_eq {path : FilePath} (member : path ∈ loader.visited) :
    Schema.ofFile after path = Schema.ofFile tree path := by
  obtain ⟨roots, -, gathers⟩ := exists_gathers_of_load loads
  obtain ⟨location, rfl, plain⟩ := double_dot_not_mem_of_load sound loads member
  obtain ⟨schema, read, -⟩ := gathers.loadable _ member
  unfold Schema.ofFile at read ⊢
  cases given : tree.read (.ofLocation location) with
  | error fault =>
      rw [given] at read
      cases read
  | ok bytes =>
      have again : after.read (.ofLocation location) = .ok bytes := by
        refine spares.read (fun place located => ?_) given
        rw [(FileTree.locate_eq_ok located).2]
        have leads : (FilePath.ofLocation location).resolveFrom tree.workingDirectory = location :=
          FilePath.foldl_enter_plain [] plain
        rw [leads]
        exact apart _ member
      rw [again]

/-- A directive that leads to a document leads there still. -/
theorem resolveLocation_eq {path target : FilePath} (member : path ∈ loader.visited)
    {directive : Directive} (inside : directive ∈ directivesOf tree path) {location : String}
    (given : directive.location = some location)
    (found : resolveLocation tree location path = .ok target) :
    resolveLocation after location path = .ok target := by
  obtain ⟨roots, -, gathers⟩ := exists_gathers_of_load loads
  obtain ⟨left, traversal⟩ := gathers.traversal
  have leads : target ∈ documentsOf tree path :=
    List.mem_filterMap.2 ⟨directive, inside, by
      rw [documentOf?, given, Option.bind_some, found]
      rfl⟩
  have loaded : target ∈ loader.visited := by
    simpa using (traversal.closed member leads).resolve_left List.not_mem_nil
  obtain ⟨locator, place, bytes, isLocator, located, entry, rfl⟩ := resolveLocation_eq_ok found
  have locatedAfter := spares.keepsDirectories.locate located
  have entryAfter := spares.file place bytes (apart _ loaded) entry
  rw [resolveLocation_of_locator isLocator] at found ⊢
  split at found
  · cases found
  · next near =>
      rw [if_neg near, FileTree.isFile_of_locate locatedAfter, entryAfter]
      exact congrArg (Except.mapError Failure.file) (FileTree.resolve_of_locate locatedAfter)

include sound in
/--
Changes around a directory that no loaded document is in let the loading succeed
again, unless a reference that was passed over leads somewhere after them.
-/
theorem loadsAlike_of_spares (located : tree.locate (.ofString root) = .ok place)
    (stands : (tree.entry? place).isSome = true) (outside : ¬ place <+: directory)
    (passedOver : ∀ path ∈ loader.visited, ∀ directive ∈ directivesOf tree path, ∀ location,
      directive.location = some location →
      resolveLocation tree location path = .error (.missingDocument location path) →
      resolveLocation after location path = .error (.missingDocument location path)) :
    LoadsAlike tree after root recurse loader.visited where
  discovers := discover_eq spares loads apart located stands outside
  workingDirectory_eq := spares.keepsDirectories.workingDirectory_eq
  reads _ member := ofFile_eq sound spares loads apart member
  follows path member directive inside location given := by
    obtain ⟨roots, -, gathers⟩ := exists_gathers_of_load loads
    obtain ⟨schema, read, followable⟩ := gathers.loadable path member
    cases found : resolveLocation tree location path with
    | ok target => exact resolveLocation_eq spares loads apart member inside given found
    | error failure =>
        have follows := followable directive (directivesOf_eq read ▸ inside)
        obtain rfl := follows location given failure found
        exact passedOver path member directive inside location given found

end Spares

end Loader

end SchemaBinding
