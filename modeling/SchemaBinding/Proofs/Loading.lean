import Mathlib.Logic.Function.Iterate
import SchemaBinding.Proofs.References
import SchemaBinding.Proofs.Traversal

/-!
# Loading is a traversal

Loading a document enters it and everything that it leads to, depth first, as
long as nothing on the way fails.  A document is entered at most once and it is
a file of the tree, so the number of files that were not visited bounds the
recursion.
-/

namespace SchemaBinding.Loader

variable (tree : FileTree)

def schemaOf? (path : FilePath) : Option Schema :=
  (Schema.ofFile tree path).outcome.toOption

/--
What loading pending documents does to a loader and what is reported then, with
warnings of its own besides those for the documents that are entered.
-/
structure Gathers (before : Loader) (pending : List FilePath) (own : List Record)
    (entered : List FilePath) (records : List Record) (after : Loader) : Prop where
  traversal : ∃ left, Traversal id (documentsOf tree) before.visited pending entered left
  visited_eq : after.visited = before.visited ++ entered
  schemas_eq : after.catalog.schemas =
    before.catalog.schemas ++ entered.filterMap (schemaOf? tree)
  loadable : ∀ path ∈ entered, IsLoadable tree path
  places : ∀ path ∈ entered, ∃ location, path = .ofLocation location
  warnings : (records.filter isWarning).Perm (own ++ entered.flatMap (warningsOf tree))

/-- Among the documents that pending ones lead to, one cannot be loaded. -/
def Blocked (pending : List FilePath) : Prop :=
  ∃ path, Reaches tree pending path ∧ ¬ IsLoadable tree path

def unvisited (visited : List FilePath) : Nat :=
  (tree.entries.filter (fun entry => !visited.contains (.ofLocation entry.1))).length

/--
A way of loading gathers a resolved document, unless the document is blocked, as
long as fewer files than a bound were not visited.
-/
def Delivers (bound : Nat) (recurse : FilePath → Action Loader (Option Schema)) : Prop :=
  ∀ target before, tree.resolve target = .ok target →
    unvisited tree before.visited < bound →
    (recurse target).Ensures before
      (fun records _ after => ∃ entered, Gathers tree before [target] [] entered records after)
      (Blocked tree [target])

variable {tree}

theorem unvisited_le {visited more : List FilePath} (inside : visited ⊆ more) :
    unvisited tree more ≤ unvisited tree visited := by
  refine (List.monotone_filter_right _ (fun entry fresh => ?_)).length_le
  simp only [Bool.not_eq_true', List.contains_eq_mem, decide_eq_false_iff_not] at fresh ⊢
  exact fun known => fresh (inside known)

theorem unvisited_lt {visited : List FilePath} {entry : Location × Entry}
    (member : entry ∈ tree.entries) (fresh : FilePath.ofLocation entry.1 ∉ visited) :
    unvisited tree (visited ++ [.ofLocation entry.1]) < unvisited tree visited := by
  have shorter : tree.entries.filter (fun other =>
      !(visited ++ [FilePath.ofLocation entry.1]).contains (.ofLocation other.1)) =
      (tree.entries.filter (fun other => !visited.contains (.ofLocation other.1))).filter
        (fun other => FilePath.ofLocation other.1 ≠ .ofLocation entry.1) := by
    rw [List.filter_filter]
    refine List.filter_congr (fun other _ => ?_)
    simp [List.contains_eq_mem, Bool.and_comm]
  rw [unvisited, shorter]
  refine List.length_filter_lt_length_iff_exists.2 ⟨entry, ?_, by simp⟩
  simp [member, fresh]

/-- The document at a resolved path is a file of the tree, at the place that the path spells. -/
theorem exists_entry_of_ofFile {path : FilePath} {schema : Schema}
    (resolved : tree.resolve path = .ok path)
    (read : (Schema.ofFile tree path).outcome = .ok schema) :
    ∃ entry ∈ tree.entries, path = .ofLocation entry.1 := by
  unfold Schema.ofFile at read
  split at read
  · next bytes given =>
      obtain ⟨location, located, entry⟩ := FileTree.read_eq_ok given
      have place := FileTree.resolve_of_locate located
      rw [resolved] at place
      exact ⟨_, FileTree.mem_entries_of_entry? entry, Except.ok.inj place⟩
  · cases read

namespace Gathers

variable {before middle after : Loader} {pending others entered enteredLater : List FilePath}
variable {own ownLater records later : List Record}

theorem nil {records : List Record} (quiet : records.filter isWarning = []) :
    Gathers tree before [] [] [] records before where
  traversal := ⟨[], .done _⟩
  visited_eq := (List.append_nil _).symm
  schemas_eq := (List.append_nil _).symm
  loadable path member := by simp at member
  places path member := by simp at member
  warnings := by simp [quiet]

theorem append (first : Gathers tree before pending own entered records middle)
    (second : Gathers tree middle others ownLater enteredLater later after) :
    Gathers tree before (pending ++ others) (own ++ ownLater) (entered ++ enteredLater)
      (records ++ later) after where
  traversal := by
    obtain ⟨left, early⟩ := first.traversal
    obtain ⟨leftLater, late⟩ := second.traversal
    refine ⟨left ++ leftLater, early.append (late.of_seen_iff ?_)⟩
    intro path
    rw [first.visited_eq, List.map_id, List.mem_append, List.mem_append, or_comm]
  visited_eq := by rw [second.visited_eq, first.visited_eq, List.append_assoc]
  schemas_eq := by
    rw [second.schemas_eq, first.schemas_eq, List.filterMap_append, List.append_assoc]
  loadable path member := by
    rcases List.mem_append.1 member with early | late
    · exact first.loadable path early
    · exact second.loadable path late
  places path member := by
    rcases List.mem_append.1 member with early | late
    · exact first.places path early
    · exact second.places path late
  warnings := by
    rw [List.filter_append, List.flatMap_append]
    refine (first.warnings.append second.warnings).trans ?_
    rw [List.append_assoc, List.append_assoc]
    refine List.Perm.append_left own ?_
    rw [← List.append_assoc, ← List.append_assoc]
    exact List.perm_append_comm.append_right _

/-- Only the warnings matter among the reported records. -/
theorem of_records (gathers : Gathers tree before pending own entered records after)
    (same : later.filter isWarning = records.filter isWarning) :
    Gathers tree before pending own entered later after where
  traversal := gathers.traversal
  visited_eq := gathers.visited_eq
  schemas_eq := gathers.schemas_eq
  loadable := gathers.loadable
  places := gathers.places
  warnings := by
    rw [same]
    exact gathers.warnings

/-- A document that was visited is passed over. -/
theorem pass {path : FilePath} (known : path ∈ before.visited)
    (quiet : records.filter isWarning = []) :
    Gathers tree before [path] [] [] records before where
  traversal := ⟨[], .pass known (.done _)⟩
  visited_eq := (List.append_nil _).symm
  schemas_eq := (List.append_nil _).symm
  loadable path member := by simp at member
  places path member := by simp at member
  warnings := by simp [quiet]

/-- A new document is entered, and then everything that it leads to. -/
theorem enter {path : FilePath} {schema : Schema} (fresh : path ∉ before.visited)
    (place : ∃ location, path = .ofLocation location)
    (read : (Schema.ofFile tree path).outcome = .ok schema)
    (followable : ∀ directive ∈ schema.directives, IsFollowable tree path directive)
    (inside : Gathers tree ((before.visit path).register schema) (documentsOf tree path)
      (warningsOf tree path) entered records after) :
    Gathers tree before [path] [] (path :: entered) records after where
  traversal := by
    obtain ⟨left, below⟩ := inside.traversal
    have seen : ∀ name, name ∈ path :: before.visited ↔
        name ∈ ((before.visit path).register schema).visited := by
      intro name
      simp [register, visit, or_comm]
    refine ⟨left ++ [path], ?_⟩
    have entersOnly := Traversal.enter fresh (below.of_seen_iff seen) (.done _)
    rw [List.append_nil] at entersOnly
    exact entersOnly
  visited_eq := by
    rw [inside.visited_eq, register, visit, List.append_assoc]
    rfl
  schemas_eq := by
    have parsed : schemaOf? tree path = some schema := by
      rw [schemaOf?, read]
      rfl
    rw [inside.schemas_eq, List.filterMap_cons_some parsed]
    show (before.catalog.schemas ++ [schema]) ++ _ = _
    rw [List.append_assoc, List.singleton_append]
  loadable other member := by
    rcases List.mem_cons.1 member with rfl | below
    · exact ⟨schema, read, followable⟩
    · exact inside.loadable other below
  places other member := by
    rcases List.mem_cons.1 member with rfl | below
    · exact place
    · exact inside.places other below
  warnings := by
    rw [List.flatMap_cons, List.nil_append]
    exact inside.warnings

end Gathers

theorem Blocked.mono {pending more : List FilePath} (blocked : Blocked tree pending)
    (inside : pending ⊆ more) : Blocked tree more := by
  obtain ⟨path, reaches, unloadable⟩ := blocked
  exact ⟨path, reaches.mono inside, unloadable⟩

/-- What blocks the documents that a document leads to blocks the document. -/
theorem Blocked.step {path : FilePath} (blocked : Blocked tree (documentsOf tree path)) :
    Blocked tree [path] := by
  obtain ⟨other, reaches, unloadable⟩ := blocked
  exact ⟨other, reaches.step, unloadable⟩

theorem blocked_of_not_isLoadable {path : FilePath} (unloadable : ¬ IsLoadable tree path) :
    Blocked tree [path] :=
  ⟨path, ⟨path, List.mem_singleton_self path, .refl⟩, unloadable⟩

theorem filterMap_cons_eq_append {α β : Type} (f : α → Option β) (item : α) (rest : List α) :
    (item :: rest).filterMap f = (f item).toList ++ rest.filterMap f := by
  rw [List.filterMap_cons]
  cases f item <;> rfl

section Directives

variable {bound : Nat} {recurse : FilePath → Action Loader (Option Schema)}
variable {source : FilePath}

/-- Following a directive gathers its document, if the directive has one. -/
theorem ensures_followDirective (delivers : Delivers tree bound recurse)
    (absolute : source.isAbsolute = true) (directive : Directive) (before : Loader)
    (enough : unvisited tree before.visited < bound) :
    (followDirective tree recurse source directive).Ensures before
      (fun records _ after => IsFollowable tree source directive ∧ ∃ entered,
        Gathers tree before (documentOf? tree source directive).toList
          (warningOf? tree source directive).toList entered records after)
      (¬ IsFollowable tree source directive ∨
        Blocked tree (documentOf? tree source directive).toList) := by
  refine Action.Ensures.bind (Action.ensures_ofRun (fun found follows => ?_)
    (fun failure fails => .inl (directiveTarget_eq_error fails)))
  obtain ⟨followable, rfl, warned⟩ := directiveTarget_eq_ok follows
  cases leads : documentOf? tree source directive with
  | none =>
      refine Action.ensures_pure ⟨followable, [], ?_⟩
      have nothing : Gathers tree before [] [] [] [] before := .nil rfl
      exact {
        nothing with
        warnings := by simp [warned] }
  | some target =>
      have settled := resolve_documentOf absolute leads
      refine (delivers target before settled enough).mono ?_ .inr |>.discard
      rintro records value after ⟨entered, gathers⟩
      refine ⟨followable, entered, { gathers with warnings := ?_ }⟩
      rw [List.filter_append, warned]
      exact gathers.warnings.append_left _

/-- Following all directives gathers their documents one after the other. -/
theorem ensures_followAll (delivers : Delivers tree bound recurse)
    (absolute : source.isAbsolute = true) (directives : List Directive) (before : Loader)
    (enough : unvisited tree before.visited < bound) :
    (directives.forM (followDirective tree recurse source)).Ensures before
      (fun records _ after => (∀ directive ∈ directives, IsFollowable tree source directive) ∧
        ∃ entered, Gathers tree before (directives.filterMap (documentOf? tree source))
          (directives.filterMap (warningOf? tree source)) entered records after)
      ((∃ directive ∈ directives, ¬ IsFollowable tree source directive) ∨
        Blocked tree (directives.filterMap (documentOf? tree source))) := by
  induction directives generalizing before with
  | nil => exact Action.ensures_pure ⟨by simp, [], .nil rfl⟩
  | cons directive rest ih =>
      rw [filterMap_cons_eq_append, filterMap_cons_eq_append]
      show Action.Ensures (followDirective tree recurse source directive >>= fun _ =>
        rest.forM (followDirective tree recurse source)) before _ _
      refine Action.Ensures.bind
        ((ensures_followDirective delivers absolute directive before enough).mono ?_ ?_)
      · rintro records value middle ⟨followable, entered, first⟩
        have fewer : unvisited tree middle.visited < bound := by
          refine Nat.lt_of_le_of_lt (unvisited_le ?_) enough
          rw [first.visited_eq]
          exact List.subset_append_left _ _
        refine (ih middle fewer).mono ?_ ?_
        · rintro later value after ⟨others, enteredLater, second⟩
          refine ⟨List.forall_mem_cons.2 ⟨followable, others⟩, entered ++ enteredLater, ?_⟩
          exact first.append second
        · rintro (⟨other, member, stuck⟩ | blocked)
          · exact .inl ⟨other, List.mem_cons_of_mem _ member, stuck⟩
          · exact .inr (blocked.mono (List.subset_append_right _ _))
      · rintro (stuck | blocked)
        · exact .inl ⟨directive, List.mem_cons_self, stuck⟩
        · exact .inr (blocked.mono (List.subset_append_left _ _))

/-- Following the directives of a document gathers all that the document leads to. -/
theorem ensures_followDocument (delivers : Delivers tree bound recurse)
    (absolute : source.isAbsolute = true) {schema : Schema}
    (read : (Schema.ofFile tree source).outcome = .ok schema) (before : Loader)
    (enough : unvisited tree before.visited < bound) :
    (schema.directives.forM (followDirective tree recurse source)).Ensures before
      (fun records _ after =>
        (∀ directive ∈ schema.directives, IsFollowable tree source directive) ∧
        ∃ entered, Gathers tree before (documentsOf tree source) (warningsOf tree source)
          entered records after)
      (Blocked tree [source]) := by
  rw [documentsOf, warningsOf, directivesOf_eq read]
  refine (ensures_followAll delivers absolute schema.directives before enough).mono
    (fun _ _ _ gathered => gathered) ?_
  rintro (⟨directive, member, stuck⟩ | blocked)
  · refine blocked_of_not_isLoadable ?_
    rintro ⟨other, sameRead, followable⟩
    rw [read] at sameRead
    obtain rfl := Except.ok.inj sameRead
    exact stuck (followable directive member)
  · rw [← directivesOf_eq read, ← documentsOf] at blocked
    exact blocked.step

/-- No warning is reported while a document is read. -/
theorem filter_isWarning_ofFile (path : FilePath) :
    (Schema.ofFile tree path).records.filter isWarning = [] := by
  rw [List.filter_eq_nil_iff]
  intro record member
  have detail : record.severity = .debug :=
    (Schema.consistent_ofFile tree path).records record member
  rw [isWarning, detail]
  decide

/-- Loading a document gathers it, if what it leads to is loaded within the bound. -/
theorem ensures_loadStep (delivers : Delivers tree bound recurse) {path resolved : FilePath}
    (given : tree.resolve path = .ok resolved) (before : Loader)
    (enough : ∀ schema, (Schema.ofFile tree resolved).outcome = .ok schema →
      resolved ∉ before.visited → unvisited tree (before.visited ++ [resolved]) < bound) :
    (loadStep tree recurse path).Ensures before
      (fun records _ after => ∃ entered,
        Gathers tree before [resolved] [] entered records after)
      (Blocked tree [resolved]) := by
  unfold loadStep
  refine Action.Ensures.bind (Action.ensures_ofRun (fun other same => ?_) (fun failure fails => ?_))
  case refine_2 =>
    rw [given] at fails
    cases fails
  rw [given] at same
  obtain rfl := Except.ok.inj same
  refine Action.Ensures.bind (Action.ensures_state ?_)
  by_cases known : resolved ∈ before.visited
  · rw [if_pos (by simpa using known)]
    refine Action.Ensures.bind (Action.ensures_report (Action.ensures_pure ?_))
    exact ⟨[], .pass known rfl⟩
  · rw [if_neg (by simpa using known)]
    refine Action.Ensures.bind (Action.ensures_change ?_)
    refine Action.Ensures.bind (Action.ensures_report ?_)
    refine Action.Ensures.bind (Action.ensures_ofRun (fun schema read => ?_)
      (fun failure fails => ?_))
    · refine Action.Ensures.bind (Action.ensures_change ?_)
      rw [((Schema.consistent_ofFile tree resolved).value schema read).source_eq]
      obtain ⟨location, rfl⟩ := FileTree.resolve_eq_ok given
      have gathered := ensures_followDocument delivers (FilePath.isAbsolute_ofLocation location)
        read ((before.visit (.ofLocation location)).register schema) (enough schema read known)
      refine Action.Ensures.bind (gathered.mono ?_ id)
      rintro records value after ⟨followable, entered, inside⟩
      refine Action.ensures_pure ⟨.ofLocation location :: entered, ?_⟩
      refine Gathers.enter known ⟨location, rfl⟩ read followable (inside.of_records ?_)
      simp [Run.ofExcept, filter_isWarning_ofFile, isWarning, Record.info]
    · refine blocked_of_not_isLoadable ?_
      rintro ⟨schema, read, _⟩
      rw [fails] at read
      cases read

end Directives

section Bound

variable {bound : Nat} {recurse other last : FilePath → Action Loader (Option Schema)}
variable {source : FilePath}

/-- Every step of the recursion visits a file that was not visited before. -/
theorem Delivers.step (delivers : Delivers tree bound recurse) :
    Delivers tree (bound + 1) (loadStep tree recurse) := by
  intro target before settled enough
  refine ensures_loadStep delivers settled before (fun schema read fresh => ?_)
  obtain ⟨entry, member, rfl⟩ := exists_entry_of_ofFile settled read
  have fewer := unvisited_lt member fresh
  omega

/-- As many steps deliver as there are files, whatever stands at the end of the recursion. -/
theorem delivers_iterate (last : FilePath → Action Loader (Option Schema)) (bound : Nat) :
    Delivers tree bound ((loadStep tree)^[bound] last) := by
  induction bound with
  | zero => exact fun target before _ enough => absurd enough (Nat.not_lt_zero _)
  | succ bound ih =>
      rw [Function.iterate_succ_apply']
      exact ih.step

variable (tree) in
/-- Two ways of loading do the same with resolved documents, within a bound. -/
def Agree (bound : Nat) (recurse other : FilePath → Action Loader (Option Schema)) : Prop :=
  ∀ target before, tree.resolve target = .ok target →
    unvisited tree before.visited < bound → recurse target before = other target before

theorem followDirective_congr (agree : Agree tree bound recurse other)
    (absolute : source.isAbsolute = true) (directive : Directive) (before : Loader)
    (enough : unvisited tree before.visited < bound) :
    followDirective tree recurse source directive before =
      followDirective tree other source directive before := by
  refine Action.bind_congr_at rfl (fun records found after equal => ?_)
  obtain ⟨follows, rfl⟩ := Prod.mk.inj equal
  have given : (directiveTarget tree source directive).outcome = .ok found := by rw [follows]
  cases found with
  | none => rfl
  | some target =>
      have leads := (directiveTarget_eq_ok given).2.1
      have settled := resolve_documentOf absolute leads.symm
      show (recurse target >>= fun _ => pure ()) before = (other target >>= fun _ => pure ()) before
      exact Action.bind_congr_at (agree target before settled enough) (fun _ _ _ _ => rfl)

theorem followAll_congr (delivers : Delivers tree bound recurse)
    (agree : Agree tree bound recurse other) (absolute : source.isAbsolute = true)
    (directives : List Directive) (before : Loader)
    (enough : unvisited tree before.visited < bound) :
    directives.forM (followDirective tree recurse source) before =
      directives.forM (followDirective tree other source) before := by
  induction directives generalizing before with
  | nil => rfl
  | cons directive rest ih =>
      refine Action.bind_congr_at
        (followDirective_congr agree absolute directive before enough)
        (fun records value middle result => ih middle ?_)
      obtain ⟨_, entered, gathers⟩ :=
        (ensures_followDirective delivers absolute directive before enough).value _ _ _ result
      refine Nat.lt_of_le_of_lt (unvisited_le ?_) enough
      rw [gathers.visited_eq]
      exact List.subset_append_left _ _

/-- What loading does depends on the rest of the recursion only within the bound. -/
theorem loadStep_congr (delivers : Delivers tree bound recurse)
    (agree : Agree tree bound recurse other) {path : FilePath} (before : Loader)
    (enough : ∀ resolved schema, tree.resolve path = .ok resolved →
      (Schema.ofFile tree resolved).outcome = .ok schema → resolved ∉ before.visited →
      unvisited tree (before.visited ++ [resolved]) < bound) :
    loadStep tree recurse path before = loadStep tree other path before := by
  refine Action.bind_congr_at rfl (fun records resolved loader equal => ?_)
  obtain ⟨ran, rfl⟩ := Prod.mk.inj equal
  have given : tree.resolve path = .ok resolved := eq_ok_of_mapError (congrArg Run.outcome ran)
  obtain ⟨location, rfl⟩ := FileTree.resolve_eq_ok given
  refine Action.bind_congr_at rfl (fun records loader after equal => ?_)
  cases equal
  by_cases known : FilePath.ofLocation location ∈ before.visited
  · rw [if_pos (by simpa using known), if_pos (by simpa using known)]
  · rw [if_neg (by simpa using known), if_neg (by simpa using known)]
    refine Action.bind_congr_at rfl (fun records value after equal => ?_)
    cases equal
    refine Action.bind_congr_at rfl (fun records value after equal => ?_)
    cases equal
    refine Action.bind_congr_at rfl (fun records schema after equal => ?_)
    obtain ⟨ran, rfl⟩ := Prod.mk.inj equal
    have read : (Schema.ofFile tree (.ofLocation location)).outcome = .ok schema := by rw [ran]
    refine Action.bind_congr_at rfl (fun records value after equal => ?_)
    cases equal
    refine Action.bind_congr_at ?_ (fun _ _ _ _ => rfl)
    rw [((Schema.consistent_ofFile tree _).value schema read).source_eq]
    exact followAll_congr delivers agree (FilePath.isAbsolute_ofLocation location)
      schema.directives _ (enough _ schema given read known)

/-- What stands at the end of the recursion is never reached. -/
theorem agree_iterate (last other : FilePath → Action Loader (Option Schema)) (bound : Nat) :
    Agree tree bound ((loadStep tree)^[bound] last) ((loadStep tree)^[bound] other) := by
  induction bound with
  | zero => exact fun target before _ enough => absurd enough (Nat.not_lt_zero _)
  | succ bound ih =>
      intro target before settled enough
      rw [Function.iterate_succ_apply', Function.iterate_succ_apply']
      refine loadStep_congr (delivers_iterate last bound) ih before ?_
      intro resolved schema given read fresh
      rw [settled] at given
      obtain rfl := Except.ok.inj given
      obtain ⟨entry, member, rfl⟩ := exists_entry_of_ofFile settled read
      have fewer := unvisited_lt member fresh
      omega

theorem loadWith_eq_iterate (bound : Nat) :
    loadWith tree bound = (loadStep tree)^[bound] (fun _ => pure none) := by
  induction bound with
  | zero => rfl
  | succ bound ih => rw [Function.iterate_succ_apply', ← ih, loadWith]

theorem unvisited_lt_bound (visited : List FilePath) :
    unvisited tree visited < tree.entries.length + 1 :=
  Nat.lt_succ_of_le (List.length_filter_le _ _)

end Bound

/--
Loading ends: with as many steps as the tree has entries and two more, the end of
the recursion is out of reach, so nothing depends on what would be done there.
-/
theorem iterate_loadStep_eq_loadFile (last : FilePath → Action Loader (Option Schema))
    {steps : Nat} (enough : tree.entries.length + 2 ≤ steps) (path : FilePath)
    (before : Loader) :
    (loadStep tree)^[steps] last path before = loadFile tree path before := by
  obtain ⟨more, rfl⟩ := Nat.exists_eq_add_of_le enough
  have outermost : ∀ inner, (loadStep tree)^[tree.entries.length + 2] inner =
      loadStep tree ((loadStep tree)^[tree.entries.length + 1] inner) :=
    fun inner => Function.iterate_succ_apply' _ _ inner
  rw [Function.iterate_add_apply, loadFile, loadWith_eq_iterate, outermost, outermost]
  exact loadStep_congr (delivers_iterate _ _) (agree_iterate _ _ _) before
    (fun _ _ _ _ _ => unvisited_lt_bound _)

/-- Loading a document is one step whose recursion is loading again. -/
theorem loadFile_eq_loadStep : loadFile tree = loadStep tree (loadFile tree) := by
  have enough : (loadStep tree)^[tree.entries.length + 2] (fun _ => pure none) = loadFile tree :=
    funext (fun path => funext (iterate_loadStep_eq_loadFile _ (Nat.le_refl _) path))
  have more : (loadStep tree)^[tree.entries.length + 3] (fun _ => pure none) = loadFile tree :=
    funext (fun path => funext (iterate_loadStep_eq_loadFile _ (Nat.le_succ _) path))
  rw [Function.iterate_succ_apply', enough] at more
  exact more.symm

/-- Loading a document gathers it and everything that it leads to. -/
theorem ensures_loadFile {path resolved : FilePath} (given : tree.resolve path = .ok resolved)
    (before : Loader) :
    (loadFile tree path).Ensures before
      (fun records _ after => ∃ entered,
        Gathers tree before [resolved] [] entered records after)
      (Blocked tree [resolved]) := by
  rw [loadFile, loadWith_eq_iterate, Function.iterate_succ_apply']
  exact ensures_loadStep (delivers_iterate _ _) given before
    (fun _ _ _ => unvisited_lt_bound _)

end SchemaBinding.Loader
