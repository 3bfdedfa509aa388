import SchemaBinding.Proofs.Graph
import SchemaBinding.Proofs.Histories

/-!
# Attempts at loading

A loader notes a document before it reads it.  Where calls fail and others follow,
each document that was noted is registered, but for those that could not be read:
they remain noted, and no later call reads them, even if they can be read by then.
-/

namespace SchemaBinding.Loader

variable {tree : FileTree} {pending more : List FilePath}

/--
How a loader differs after an action with an outcome: schemas were added, and
perhaps a document was noted that could not be read, with which the action failed.
-/
structure Adds {α : Type} (tree : FileTree) (pending : List FilePath) (before : Loader)
    (outcome : Except Failure α) (after : Loader) (schemas : List Schema)
    (torn : Option FilePath) : Prop where
  schemas_eq : after.catalog.schemas = before.catalog.schemas ++ schemas
  visited_eq : after.visited = before.visited ++ (schemas.map Schema.source ++ torn.toList)
  distinct : before.visited.Nodup → after.visited.Nodup
  unread : ∀ path, torn = some path → Reaches tree pending path ∧
    ∃ failure, outcome = .error failure ∧ (Schema.ofFile tree path).outcome = .error failure

namespace Adds

variable {α β : Type} {before middle after : Loader} {outcome : Except Failure α}
variable {schemas others : List Schema} {torn : Option FilePath}

theorem nothing (outcome : Except Failure α) (before : Loader) :
    Adds tree pending before outcome before [] none where
  schemas_eq := (List.append_nil _).symm
  visited_eq := (List.append_nil _).symm
  distinct := id
  unread path same := by cases same

theorem mono (adds : Adds tree pending before outcome after schemas torn)
    (wider : ∀ path, Reaches tree pending path → Reaches tree more path) :
    Adds tree more before outcome after schemas torn where
  schemas_eq := adds.schemas_eq
  visited_eq := adds.visited_eq
  distinct := adds.distinct
  unread path same := by
    obtain ⟨reaches, fails⟩ := adds.unread path same
    exact ⟨wider path reaches, fails⟩

/-- An action that succeeds has read whatever it noted, and another one may go on. -/
theorem append {value : β}
    (first : Adds tree pending before (.ok value) middle schemas none)
    (second : Adds tree pending middle outcome after others torn) :
    Adds tree pending before outcome after (schemas ++ others) torn where
  schemas_eq := by rw [second.schemas_eq, first.schemas_eq, List.append_assoc]
  visited_eq := by
    rw [second.visited_eq, first.visited_eq, List.map_append]
    simp
  distinct unique := second.distinct (first.distinct unique)
  unread := second.unread

variable {path : FilePath} (fresh : path ∉ before.visited)

include fresh

theorem nodup_visit (unique : before.visited.Nodup) : (before.visit path).visited.Nodup :=
  List.nodup_append'.2 ⟨unique, List.nodup_singleton path, by simpa using fresh⟩

/-- A document that is read is registered, and its directives are followed. -/
theorem enter {schema : Schema} (source : schema.source = path)
    (inside : Adds tree pending ((before.visit path).register schema) outcome after schemas torn) :
    Adds tree pending before outcome after (schema :: schemas) torn where
  schemas_eq := by
    rw [inside.schemas_eq]
    show (before.catalog.schemas ++ [schema]) ++ schemas = _
    rw [List.append_assoc, List.singleton_append]
  visited_eq := by
    rw [inside.visited_eq, List.map_cons, source]
    show (before.visited ++ [path]) ++ _ = _
    simp
  distinct unique := inside.distinct (nodup_visit fresh unique)
  unread := inside.unread

/-- A document that cannot be read remains noted. -/
theorem of_unread {failure : Failure} (inside : path ∈ pending)
    (fails : (Schema.ofFile tree path).outcome = .error failure) :
    Adds tree pending before (.error failure : Except Failure α) (before.visit path) []
      (some path) where
  schemas_eq := (List.append_nil _).symm
  visited_eq := rfl
  distinct := nodup_visit fresh
  unread other same := by
    cases same
    exact ⟨⟨path, inside, .refl⟩, failure, rfl, fails⟩

end Adds

/-- An action adds what it can to a loader, whether it succeeds or fails. -/
def Attempts {α : Type} (tree : FileTree) (pending : List FilePath) (action : Action Loader α)
    (before : Loader) : Prop :=
  ∃ schemas torn,
    Adds tree pending before (action before).1.outcome (action before).2 schemas torn

namespace Attempts

variable {α β : Type} {before : Loader} {first : Action Loader α} {next : α → Action Loader β}

theorem of_unchanged {action : Action Loader α} (same : (action before).2 = before) :
    Attempts tree pending action before := by
  refine ⟨[], none, ?_⟩
  rw [same]
  exact .nothing _ before

theorem mono {action : Action Loader α} (attempts : Attempts tree pending action before)
    (wider : ∀ path, Reaches tree pending path → Reaches tree more path) :
    Attempts tree more action before := by
  obtain ⟨schemas, torn, adds⟩ := attempts
  exact ⟨schemas, torn, adds.mono wider⟩

/-- Only the last action that is done can have failed. -/
theorem bind (start : Attempts tree pending first before)
    (step : ∀ value, (first before).1.outcome = .ok value →
      Attempts tree pending (next value) (first before).2) :
    Attempts tree pending (first >>= next) before := by
  obtain ⟨schemas, torn, adds⟩ := start
  rcases result : first before with ⟨⟨records, outcome⟩, middle⟩
  rw [result] at adds step
  cases outcome with
  | error failure =>
      refine ⟨schemas, torn, ?_⟩
      rw [Action.bind_of_error result]
      refine ⟨adds.schemas_eq, adds.visited_eq, adds.distinct, fun path same => ?_⟩
      obtain ⟨reaches, other, equal, fails⟩ := adds.unread path same
      cases equal
      exact ⟨reaches, failure, rfl, fails⟩
  | ok value =>
      -- A document that could not be read would have made the first action fail.
      have whole : torn = none := by
        cases torn with
        | none => rfl
        | some path =>
            obtain ⟨-, failure, equal, -⟩ := adds.unread path rfl
            cases equal
      subst whole
      obtain ⟨others, left, more⟩ := step value rfl
      refine ⟨schemas ++ others, left, ?_⟩
      rw [Action.bind_of_ok result]
      exact adds.append more

theorem discard {action : Action Loader α} (attempts : Attempts tree pending action before) :
    Attempts tree pending (Functor.discard action) before := by
  show Attempts tree pending (action >>= fun _ => pure ()) before
  exact attempts.bind (fun _ _ => of_unchanged rfl)

theorem forM {action : α → Action Loader Unit} (items : List α)
    (each : ∀ item ∈ items, ∀ before, Attempts tree pending (action item) before)
    (before : Loader) : Attempts tree pending (items.forM action) before := by
  induction items generalizing before with
  | nil => exact of_unchanged rfl
  | cons item rest ih =>
      show Attempts tree pending (action item >>= fun _ => rest.forM action) before
      exact (each item List.mem_cons_self before).bind (fun _ _ =>
        ih (fun other member => each other (List.mem_cons_of_mem item member)) _)

end Attempts

section Recursion

variable {recurse : FilePath → Action Loader (Option Schema)}

def documentAt (tree : FileTree) (path : FilePath) : List FilePath :=
  (tree.resolve path).toOption.toList

variable (attempts : ∀ path before, Attempts tree (documentAt tree path) (recurse path) before)

include attempts

theorem attempts_followDirective {source : FilePath} (absolute : source.isAbsolute = true)
    {directive : Directive} (inside : (documentOf? tree source directive).toList ⊆ pending)
    (before : Loader) :
    Attempts tree pending (followDirective tree recurse source directive) before := by
  refine Attempts.bind (.of_unchanged rfl) (fun found follows => ?_)
  have leads := (directiveTarget_eq_ok follows).2.1
  cases found with
  | none => exact .of_unchanged rfl
  | some target =>
      have settled := resolve_documentOf absolute leads.symm
      have own : documentAt tree target ⊆ pending := by
        rw [documentAt, settled]
        rw [← leads] at inside
        exact inside
      exact ((attempts target _).mono (fun path reaches => reaches.mono own)).discard

/-- What a step does with a document that was not noted before. -/
theorem attempts_enter {path : FilePath} (absolute : path.isAbsolute = true)
    {before : Loader} (fresh : path ∉ before.visited) :
    Attempts tree [path] (do
      Action.change (fun loader : Loader => loader.visit path)
      Action.report (.info s!"Loading schema {path.toString}")
      let schema ← Action.ofRun (Schema.ofFile tree path)
      Action.change (fun loader => loader.register schema)
      schema.directives.forM (followDirective tree recurse schema.source)
      return some schema) before := by
  rcases reading : Schema.ofFile tree path with ⟨records, outcome⟩
  have read : (Schema.ofFile tree path).outcome = outcome := by rw [reading]
  cases outcome with
  | error failure =>
      -- The document was noted before it was read, and nothing takes it back.
      refine ⟨[], some path, ?_⟩
      simp only [bind, Action.bind, Action.change, Run.pure, Action.report, Action.ofRun,
        Run.report]
      exact .of_unread fresh (List.mem_singleton_self path) read
  | ok schema =>
      have source := ((Schema.consistent_ofFile tree path).value schema read).source_eq
      have rest : Attempts tree [path] (do
          schema.directives.forM (followDirective tree recurse schema.source)
          return some schema) ((before.visit path).register schema) := by
        refine Attempts.bind (Attempts.forM _ (fun directive member loader => ?_) _)
          (fun _ _ => .of_unchanged rfl)
        rw [source]
        refine (attempts_followDirective attempts absolute ?_ loader).mono
          (fun _ reaches => Reaches.step reaches)
        intro target leads
        rw [documentsOf, directivesOf_eq read]
        exact List.mem_filterMap.2 ⟨directive, member, Option.mem_toList.1 leads⟩
      obtain ⟨schemas, torn, adds⟩ := rest
      refine ⟨schema :: schemas, torn, ?_⟩
      simp only [bind, Action.bind, Action.change, Run.pure, Action.report, Action.ofRun,
        Run.report]
      exact adds.enter fresh source

theorem attempts_loadStep (path : FilePath) (before : Loader) :
    Attempts tree (documentAt tree path) (loadStep tree recurse path) before := by
  unfold loadStep
  refine Attempts.bind (.of_unchanged rfl) (fun resolved given => ?_)
  have settled : tree.resolve path = .ok resolved := eq_ok_of_mapError given
  rw [documentAt, settled]
  refine Attempts.bind (.of_unchanged rfl) (fun loader same => ?_)
  obtain rfl : before = loader := Except.ok.inj same
  show Attempts tree [resolved] _ before
  by_cases known : resolved ∈ before.visited
  · rw [if_pos (by simpa using known)]
    exact Attempts.bind (.of_unchanged rfl) (fun _ _ => .of_unchanged rfl)
  · rw [if_neg (by simpa using known)]
    obtain ⟨location, rfl⟩ := FileTree.resolve_eq_ok settled
    exact attempts_enter attempts (FilePath.isAbsolute_ofLocation location) known

end Recursion

theorem attempts_loadWith (bound : Nat) (path : FilePath) (before : Loader) :
    Attempts tree (documentAt tree path) (loadWith tree bound path) before := by
  induction bound generalizing path before with
  | zero => exact .of_unchanged rfl
  | succ bound ih => exact attempts_loadStep ih path before

/-- The documents that a call begins with, as far as it can look for them. -/
def Call.starts (tree : FileTree) : Call → List FilePath
  | .load root recurse =>
      ((discover tree (.ofString root) recurse).toOption.getD []).flatMap (documentAt tree)
  | .loadFile path => documentAt tree path

theorem attempts_perform (tree : FileTree) (call : Call) (before : Loader) :
    Attempts tree (call.starts tree) (call.perform tree) before := by
  cases call with
  | loadFile path => exact (attempts_loadWith _ path before).discard
  | load root recurse =>
      refine Attempts.discard ?_
      unfold load
      refine Attempts.bind (.of_unchanged rfl) (fun paths given => ?_)
      have found : discover tree (.ofString root) recurse = .ok paths := eq_ok_of_mapError given
      refine Attempts.bind (.of_unchanged rfl) (fun _ _ => ?_)
      refine Attempts.bind (Attempts.forM paths (fun path member loader => ?_) _) (fun _ _ =>
        Attempts.bind (.of_unchanged rfl) (fun _ _ => .of_unchanged rfl))
      refine (Attempts.mono (attempts_loadWith _ path loader) (fun _ reaches => ?_)).discard
      refine reaches.mono (fun document own => ?_)
      rw [Call.starts, found]
      exact List.mem_flatMap.2 ⟨path, member, own⟩

section Skipping

variable {path resolved : FilePath} (settled : tree.resolve path = .ok resolved)

include settled

/-- A document that was noted before is passed over. -/
theorem loadFile_of_visited {before : Loader} (known : resolved ∈ before.visited) :
    (loadFile tree path before).1.outcome = .ok none ∧ (loadFile tree path before).2 = before := by
  have given : (Action.ofRun (.ofExcept ((tree.resolve path).mapError Failure.file)) :
      Action Loader FilePath) before = (⟨[], .ok resolved⟩, before) := by
    rw [settled]
    rfl
  have held : (Action.state : Action Loader Loader) before = (⟨[], .ok before⟩, before) := rfl
  rw [loadFile_eq_loadStep, loadStep, Action.bind_of_ok given, Action.bind_of_ok held,
    if_pos (by simpa using known)]
  exact ⟨rfl, rfl⟩

theorem ensures_known_of_none (before : Loader) :
    (loadFile tree path).Ensures before
      (fun _ found _ => found = none → resolved ∈ before.visited) True := by
  rw [loadFile_eq_loadStep]
  unfold loadStep
  refine Action.Ensures.bind (Action.ensures_ofRun (fun other same => ?_) (fun _ _ => trivial))
  obtain rfl : resolved = other := by
    rw [settled] at same
    exact Except.ok.inj same
  refine Action.Ensures.bind (Action.ensures_state ?_)
  by_cases known : resolved ∈ before.visited
  · rw [if_pos (by simpa using known)]
    exact Action.Ensures.bind (Action.ensures_report (Action.ensures_pure fun _ => known))
  · rw [if_neg (by simpa using known)]
    refine Action.Ensures.bind (Action.ensures_change ?_)
    refine Action.Ensures.bind (Action.ensures_report ?_)
    refine Action.Ensures.bind (Action.ensures_ofRun (fun schema _ => ?_) (fun _ _ => trivial))
    refine Action.Ensures.bind (Action.ensures_change ?_)
    refine Action.Ensures.bind ⟨fun _ _ _ _ => Action.ensures_pure ?_, fun _ _ _ _ => trivial⟩
    intro missing
    cases missing

/-- No schema is returned exactly for a document that was noted before. -/
theorem loadFile_eq_none_iff (before : Loader) :
    (loadFile tree path before).1.outcome = .ok none ↔ resolved ∈ before.visited := by
  refine ⟨fun ends => ?_, fun known => (loadFile_of_visited settled known).1⟩
  rcases result : loadFile tree path before with ⟨⟨records, outcome⟩, after⟩
  rw [result] at ends
  obtain rfl : outcome = .ok none := ends
  exact (ensures_known_of_none settled before).value _ _ _ result rfl

end Skipping

/--
The loader after calls, each with the files that there are then.  What a call did
before it failed remains done.
-/
def afterCalls (history : List (FileTree × Call)) : Loader :=
  history.foldl (fun loader event => (event.2.perform event.1 loader).2) .empty

/-- A call failed because it could not read a document that it had come to. -/
def Unread (history : List (FileTree × Call)) (path : FilePath) : Prop :=
  ∃ earlier tree call later failure, history = earlier ++ (tree, call) :: later ∧
    (call.perform tree (afterCalls earlier)).1.outcome = .error failure ∧
    Reaches tree (call.starts tree) path ∧ (Schema.ofFile tree path).outcome = .error failure

section History

variable (history : List (FileTree × Call))

theorem afterCalls_concat (event : FileTree × Call) :
    afterCalls (history ++ [event]) = (event.2.perform event.1 (afterCalls history)).2 := by
  rw [afterCalls, List.foldl_append]
  rfl

variable {history}

theorem not_unread_nil (path : FilePath) : ¬ Unread [] path := by
  rintro ⟨earlier, tree, call, later, failure, split, -⟩
  simp at split

/-- Either the last call could not read a document, or an earlier one could not. -/
theorem unread_concat {tree : FileTree} {call : Call} {path : FilePath} :
    Unread (history ++ [(tree, call)]) path ↔ Unread history path ∨
      ∃ failure, (call.perform tree (afterCalls history)).1.outcome = .error failure ∧
        Reaches tree (call.starts tree) path ∧
        (Schema.ofFile tree path).outcome = .error failure := by
  constructor
  · rintro ⟨earlier, other, last, later, failure, split, fails⟩
    rcases concat_eq_append_cons_iff.1 split with ⟨-, rfl, equal⟩ | ⟨rest, -, inside⟩
    · cases equal
      exact .inr ⟨failure, fails⟩
    · exact .inl ⟨earlier, other, last, rest, failure, inside, fails⟩
  · rintro (⟨earlier, other, last, later, failure, split, fails⟩ | ⟨failure, fails⟩)
    · exact ⟨earlier, other, last, later ++ [(tree, call)], failure,
        concat_eq_append_cons_iff.2 (.inr ⟨later, rfl, split⟩), fails⟩
    · exact ⟨history, tree, call, [], failure, rfl, fails⟩

variable (history)

theorem sublist_afterCalls : (afterCalls history).sources.Sublist (afterCalls history).visited := by
  induction history using List.reverseRecOn with
  | nil => exact List.Sublist.slnil
  | append_singleton history event ih =>
      obtain ⟨schemas, torn, adds⟩ := attempts_perform event.1 event.2 (afterCalls history)
      rw [afterCalls_concat, sources, adds.schemas_eq, List.map_append, adds.visited_eq]
      exact ih.append (List.sublist_append_left _ _)

theorem nodup_visited_afterCalls : (afterCalls history).visited.Nodup := by
  induction history using List.reverseRecOn with
  | nil => exact List.nodup_nil
  | append_singleton history event ih =>
      obtain ⟨schemas, torn, adds⟩ := attempts_perform event.1 event.2 (afterCalls history)
      rw [afterCalls_concat]
      exact adds.distinct ih

/-- Whatever was noted is registered, or it could not be read. -/
theorem source_or_unread {path : FilePath} (noted : path ∈ (afterCalls history).visited) :
    path ∈ (afterCalls history).sources ∨ Unread history path := by
  induction history using List.reverseRecOn with
  | nil => exact absurd noted List.not_mem_nil
  | append_singleton history event ih =>
      obtain ⟨schemas, torn, adds⟩ := attempts_perform event.1 event.2 (afterCalls history)
      rw [unread_concat]
      rw [afterCalls_concat] at noted ⊢
      rw [adds.visited_eq] at noted
      rw [sources, adds.schemas_eq, List.map_append, List.mem_append]
      rcases List.mem_append.1 noted with before | new
      · rcases ih before with known | unread
        · exact .inl (.inl known)
        · exact .inr (.inl unread)
      · rcases List.mem_append.1 new with added | left
        · exact .inl (.inr added)
        · obtain ⟨reaches, failure, ends, fails⟩ := adds.unread path (Option.mem_toList.1 left)
          exact .inr (.inr ⟨failure, ends, reaches, fails⟩)

/-- Later calls note more documents, and register only such as were not noted before. -/
theorem exists_afterCalls_append (more : List (FileTree × Call)) :
    ∃ schemas begun, (afterCalls (history ++ more)).catalog.schemas =
        (afterCalls history).catalog.schemas ++ schemas ∧
      (afterCalls (history ++ more)).visited = (afterCalls history).visited ++ begun ∧
      schemas.map Schema.source ⊆ begun := by
  induction more using List.reverseRecOn with
  | nil => exact ⟨[], [], by simp, by simp, List.nil_subset _⟩
  | append_singleton more event ih =>
      obtain ⟨schemas, begun, registered, noted, inside⟩ := ih
      obtain ⟨others, torn, adds⟩ :=
        attempts_perform event.1 event.2 (afterCalls (history ++ more))
      rw [← List.append_assoc, afterCalls_concat]
      refine ⟨schemas ++ others, begun ++ (others.map Schema.source ++ torn.toList), ?_, ?_, ?_⟩
      · rw [adds.schemas_eq, registered, List.append_assoc]
      · rw [adds.visited_eq, noted, List.append_assoc]
      · rw [List.map_append]
        exact List.append_subset.2 ⟨List.subset_append_of_subset_left _ inside,
          List.subset_append_of_subset_right _ (List.subset_append_left _ _)⟩

/-- A document that was noted and is not registered stays so. -/
theorem not_source_append {path : FilePath} (noted : path ∈ (afterCalls history).visited)
    (absent : path ∉ (afterCalls history).sources) (more : List (FileTree × Call)) :
    path ∉ (afterCalls (history ++ more)).sources := by
  obtain ⟨schemas, begun, registered, visited, inside⟩ := exists_afterCalls_append history more
  have distinct := nodup_visited_afterCalls (history ++ more)
  rw [visited] at distinct
  rw [sources, registered, List.map_append]
  intro member
  rcases List.mem_append.1 member with before | later
  · exact absent before
  · exact (List.nodup_append'.1 distinct).2.2 noted (inside later)

/-- What a loader has noted after calls of which some may have failed. -/
structure IsAccounted : Prop where
  sublist : (afterCalls history).sources.Sublist (afterCalls history).visited
  distinct : (afterCalls history).visited.Nodup
  source_or_unread : ∀ path ∈ (afterCalls history).visited,
    path ∈ (afterCalls history).sources ∨ Unread history path
  visited_eq : (∀ path, ¬ Unread history path) →
    (afterCalls history).visited = (afterCalls history).sources
  none_iff : ∀ tree path resolved, tree.resolve path = .ok resolved →
    ((loadFile tree path (afterCalls history)).1.outcome = .ok none ↔
      resolved ∈ (afterCalls history).visited)
  stays : ∀ path ∈ (afterCalls history).visited, path ∉ (afterCalls history).sources →
    ∀ more, path ∉ (afterCalls (history ++ more)).sources

/--
As long as no call has failed because of a document that it could not read, the
noted documents are the registered ones, so no schema is returned only for a
registered document.  A document that could not be read is noted as well, and it
is never registered.
-/
theorem isAccounted : IsAccounted history where
  sublist := sublist_afterCalls history
  distinct := nodup_visited_afterCalls history
  source_or_unread _ := Loader.source_or_unread history
  visited_eq read := by
    refine ((sublist_afterCalls history).eq_of_length_le ?_).symm
    refine (nodup_visited_afterCalls history).length_le_of_subset (fun path noted => ?_)
    exact (Loader.source_or_unread history noted).resolve_right (read path)
  none_iff _ _ _ settled := loadFile_eq_none_iff settled (afterCalls history)
  stays _ := not_source_append history

end History

def loneTree (text : String) : FileTree where
  entries := [(["a.xsd"], textFile text)]
  workingDirectory := []

def repairedTree : FileTree :=
  loneTree "<schema xmlns='http://www.w3.org/2001/XMLSchema'/>"

/-- A call that fails before it comes to a document, and one that loads a document. -/
def mixedHistory : List (FileTree × Call) :=
  [(repairedTree, .loadFile (.ofString "\x00"))] ++
    [(repairedTree, .loadFile (.ofString "a.xsd"))]

theorem isAccounted_mixedHistory :
    (afterCalls mixedHistory).visited = (afterCalls mixedHistory).sources := by
  refine (isAccounted mixedHistory).visited_eq (fun path unread => ?_)
  rcases unread_concat.1 unread with early | ⟨failure, fails, -⟩
  · rw [← List.nil_append [_]] at early
    rcases unread_concat.1 early with before | ⟨failure, -, ⟨start, member, -⟩, -⟩
    · exact not_unread_nil path before
    · have nowhere : (Call.loadFile (.ofString "\x00")).starts repairedTree = [] := by
        decide
      rw [nowhere] at member
      exact List.not_mem_nil member
  · have succeeds : ((Call.loadFile (.ofString "a.xsd")).perform repairedTree
        (afterCalls [(repairedTree, .loadFile (.ofString "\x00"))])).1.outcome = .ok () := by
      decide +kernel
    rw [succeeds] at fails
    cases fails

def tornHistory : List (FileTree × Call) :=
  [(loneTree "<schema", .loadFile (.ofString "a.xsd"))]

/-- The document is noted although nothing is registered, and passed over when it is repaired. -/
theorem not_visited_iff_source_tornHistory :
    (¬ ∀ path, path ∈ (afterCalls tornHistory).visited ↔
      path ∈ (afterCalls tornHistory).sources) ∧
    (∃ schema, (Schema.ofFile repairedTree (.ofLocation ["a.xsd"])).outcome = .ok schema) ∧
    (loadFile repairedTree (.ofString "a.xsd") (afterCalls tornHistory)).1.outcome = .ok none := by
  have visited : (afterCalls tornHistory).visited = [.ofLocation ["a.xsd"]] := by decide +kernel
  have sources : (afterCalls tornHistory).sources = [] := by decide +kernel
  have noted : FilePath.ofLocation ["a.xsd"] ∈ (afterCalls tornHistory).visited := by
    rw [visited]
    exact List.mem_singleton_self _
  have read : (Schema.ofFile repairedTree (.ofLocation ["a.xsd"])).outcome.toOption.map
      Schema.directives = some [] := by decide +kernel
  have settled : repairedTree.resolve (.ofString "a.xsd") = .ok (.ofLocation ["a.xsd"]) := by
    decide
  refine ⟨fun same => ?_, (directives_of_map read).1, (loadFile_of_visited settled noted).1⟩
  have member := (same _).1 noted
  rw [sources] at member
  exact List.not_mem_nil member

end SchemaBinding.Loader
