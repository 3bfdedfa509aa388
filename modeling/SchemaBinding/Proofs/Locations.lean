import SchemaBinding.Proofs.Graph

/-!
# Locations of documents

Looking for the document at a location ends in one of two ways, with the document
or with the report that it is missing, exactly if the location can be looked up: it
is a locator, and the path that it spells is not too long.  A missing document is
warned of and passed over; a location that cannot be looked up stops the loading.
-/

namespace SchemaBinding.Loader

variable (tree : FileTree)

/-- A location that is a locator and spells a path that is not too long. -/
structure IsSearchable (source : FilePath) (location : String) : Prop where
  locator : ∃ locator, Locator.ofString location = .ok locator
  short : ¬ IsOverlong tree source location

/-- A file of the tree, under its absolute path without double dots. -/
def IsDocument (target : FilePath) : Prop :=
  ∃ place bytes, target = .ofLocation place ∧ tree.entry? place = some (.file bytes) ∧
    (".." ∉ tree.workingDirectory → ".." ∉ place)

def LeadsToFile (source : FilePath) (location : String) (place : Location) : Prop :=
  ∃ locator bytes, Locator.ofString location = .ok locator ∧
    (locator.scheme = "" ∨ locator.scheme = "file") ∧
    tree.locate (source.parent.join (targetPath location locator)) = .ok place ∧
    tree.entry? place = some (.file bytes)

variable {tree} {source : FilePath} {location : String}

theorem resolveLocation_eq_ok_iff {target : FilePath} :
    resolveLocation tree location source = .ok target ↔
      ∃ place, LeadsToFile tree source location place ∧ target = .ofLocation place := by
  constructor
  · intro found
    obtain ⟨locator, place, bytes, given, located, entry, rfl⟩ := resolveLocation_eq_ok found
    refine ⟨place, ⟨locator, bytes, given, ?_, located, entry⟩, rfl⟩
    rw [resolveLocation_of_locator given] at found
    by_contra remote
    rw [if_pos (by simpa [not_or] using remote)] at found
    cases found
  · rintro ⟨place, ⟨locator, bytes, given, scheme, located, entry⟩, rfl⟩
    have isFile : tree.isFile (source.parent.join (targetPath location locator)) = .ok true := by
      rw [FileTree.isFile, FileTree.probe, located]
      dsimp only
      rw [entry]
      rfl
    have near : ¬ (locator.scheme ≠ "" && locator.scheme ≠ "file") = true := by
      rcases scheme with plain | file
      · simp [plain]
      · simp [file]
    rw [resolveLocation_of_locator given, if_neg near, isFile]
    dsimp only
    rw [FileTree.resolve_of_locate located]
    rfl

theorem isDocument_of_resolveLocation {target : FilePath}
    (found : resolveLocation tree location source = .ok target) : IsDocument tree target := by
  obtain ⟨locator, place, bytes, _, located, entry, rfl⟩ := resolveLocation_eq_ok found
  refine ⟨place, bytes, rfl, entry, fun plain => ?_⟩
  rw [(FileTree.locate_eq_ok located).2, FilePath.resolveFrom]
  refine FilePath.double_dot_not_mem_foldl_enter ?_
  split
  · exact List.not_mem_nil
  · exact plain

/-- What cannot be looked up is neither found nor found to be missing. -/
theorem resolveLocation_of_not_isSearchable (unsearchable : ¬ IsSearchable tree source location) :
    ∃ failure, resolveLocation tree location source = .error failure ∧
      ((∃ fault, Locator.ofString location = .error fault ∧ failure = .locator fault) ∨
        (IsOverlong tree source location ∧ failure = .file .nameTooLong)) := by
  cases given : Locator.ofString location with
  | error fault =>
      refine ⟨.locator fault, ?_, .inl ⟨fault, rfl, rfl⟩⟩
      rw [resolveLocation, given]
  | ok locator =>
      have overlong : IsOverlong tree source location := by
        by_contra short
        exact unsearchable ⟨⟨locator, given⟩, short⟩
      exact ⟨_, resolveLocation_of_isOverlong overlong, .inr ⟨overlong, rfl⟩⟩

/-- A location has one of the two endings exactly if it can be looked up. -/
theorem found_or_missing_iff :
    ((∃ target, resolveLocation tree location source = .ok target) ∨
        resolveLocation tree location source = .error (.missingDocument location source)) ↔
      IsSearchable tree source location := by
  constructor
  · intro ending
    by_contra unsearchable
    obtain ⟨failure, failed, why⟩ := resolveLocation_of_not_isSearchable unsearchable
    rw [failed] at ending
    rcases ending with ⟨target, found⟩ | missing
    · cases found
    · obtain rfl := Except.error.inj missing
      rcases why with ⟨fault, _, equal⟩ | ⟨_, equal⟩
      · cases equal
      · cases equal
  · rintro ⟨⟨locator, given⟩, short⟩
    cases ending : resolveLocation tree location source with
    | ok target => exact .inl ⟨target, rfl⟩
    | error failure =>
        rcases resolveLocation_eq_error ending with ⟨fault, notLocator, _⟩ | rfl | ⟨overlong, _⟩
        · rw [given] at notLocator
          cases notLocator
        · exact .inr rfl
        · exact absurd overlong short

section Directives

variable {recurse : FilePath → Action Loader (Option Schema)} {directive : Directive}

/-- A directive with a missing document is warned of once, and nothing else happens. -/
theorem followDirective_of_missing (given : directive.location = some location)
    (missing : resolveLocation tree location source = .error (.missingDocument location source))
    (before : Loader) :
    followDirective tree recurse source directive before =
      (⟨[skippedRecord location source], .ok ()⟩, before) := by
  have reported : directiveTarget tree source directive =
      ⟨[skippedRecord location source], .ok none⟩ := by
    unfold directiveTarget
    rw [given]
    dsimp only
    rw [missing]
    rfl
  unfold followDirective
  rw [reported]
  rfl

/-- A directive whose location cannot be looked up fails, and nothing else happens. -/
theorem followDirective_of_not_isSearchable (given : directive.location = some location)
    (unsearchable : ¬ IsSearchable tree source location) (before : Loader) :
    ∃ failure, followDirective tree recurse source directive before =
      (⟨[], .error failure⟩, before) := by
  obtain ⟨failure, failed, why⟩ := resolveLocation_of_not_isSearchable unsearchable
  have fails : directiveTarget tree source directive = ⟨[], .error failure⟩ := by
    unfold directiveTarget
    rw [given]
    dsimp only
    rw [failed]
    rcases why with ⟨fault, _, rfl⟩ | ⟨_, rfl⟩
    · rfl
    · rfl
  refine ⟨failure, ?_⟩
  unfold followDirective
  rw [fails]
  rfl

/-- A missing document is warned of before the rest of the directives is followed. -/
theorem followAll_of_missing (given : directive.location = some location)
    (missing : resolveLocation tree location source = .error (.missingDocument location source))
    (rest : List Directive) (before : Loader) :
    (directive :: rest).forM (followDirective tree recurse source) before =
      (⟨skippedRecord location source ::
          (rest.forM (followDirective tree recurse source) before).1.records,
        (rest.forM (followDirective tree recurse source) before).1.outcome⟩,
      (rest.forM (followDirective tree recurse source) before).2) := by
  change Action.bind (followDirective tree recurse source directive)
    (fun _ => rest.forM (followDirective tree recurse source)) before = _
  rw [Action.bind, followDirective_of_missing given missing before]
  rfl

/-- Where a location cannot be looked up, the rest of the directives is not followed. -/
theorem followAll_of_not_isSearchable (given : directive.location = some location)
    (unsearchable : ¬ IsSearchable tree source location) (rest : List Directive)
    (before : Loader) :
    ∃ failure, (directive :: rest).forM (followDirective tree recurse source) before =
      (⟨[], .error failure⟩, before) := by
  have fails : ∃ failure, followDirective tree recurse source directive before =
      (⟨[], .error failure⟩, before) :=
    followDirective_of_not_isSearchable given unsearchable before
  obtain ⟨failure, fails⟩ := fails
  refine ⟨failure, ?_⟩
  change Action.bind (followDirective tree recurse source directive)
    (fun _ => rest.forM (followDirective tree recurse source)) before = _
  rw [Action.bind, fails]

end Directives

theorem isFollowable_iff_isSearchable {directive : Directive} :
    IsFollowable tree source directive ↔
      ∀ location, directive.location = some location → IsSearchable tree source location := by
  refine forall_congr' (fun location => imp_congr_right (fun _ => ?_))
  rw [← found_or_missing_iff]
  cases resolveLocation tree location source with
  | ok target => simp
  | error failure => simp

theorem isLoadable_iff_isSearchable {path : FilePath} :
    IsLoadable tree path ↔ (∃ schema, (Schema.ofFile tree path).outcome = .ok schema) ∧
      ∀ directive ∈ directivesOf tree path, ∀ location, directive.location = some location →
        IsSearchable tree path location := by
  constructor
  · rintro ⟨schema, read, followable⟩
    rw [directivesOf_eq read]
    exact ⟨⟨schema, read⟩, fun directive member =>
      isFollowable_iff_isSearchable.1 (followable directive member)⟩
  · rintro ⟨⟨schema, read⟩, searchable⟩
    rw [directivesOf_eq read] at searchable
    exact ⟨schema, read, fun directive member =>
      isFollowable_iff_isSearchable.2 (searchable directive member)⟩

/-- What the locations of directives lead to, and what that means for the loading. -/
structure LocationsSettle (tree : FileTree) : Prop where
  /-- A file is found exactly if a local location leads to it. -/
  found_iff : ∀ location source target, resolveLocation tree location source = .ok target ↔
    ∃ place, LeadsToFile tree source location place ∧ target = .ofLocation place
  /-- What is found is a file, under its absolute path. -/
  documents : ∀ location source target,
    resolveLocation tree location source = .ok target → IsDocument tree target
  /-- The document is found or reported as missing, if the location can be looked up. -/
  endings_iff : ∀ location source,
    ((∃ target, resolveLocation tree location source = .ok target) ∨
        resolveLocation tree location source = .error (.missingDocument location source)) ↔
      IsSearchable tree source location
  /-- A missing document is warned of once, and the other directives are followed. -/
  skipped : ∀ recurse source (directive : Directive) location rest before,
    directive.location = some location →
    resolveLocation tree location source = .error (.missingDocument location source) →
    (directive :: rest).forM (followDirective tree recurse source) before =
      (⟨skippedRecord location source ::
          (rest.forM (followDirective tree recurse source) before).1.records,
        (rest.forM (followDirective tree recurse source) before).1.outcome⟩,
      (rest.forM (followDirective tree recurse source) before).2)
  /-- A location that cannot be looked up stops the loading. -/
  stopped : ∀ recurse source (directive : Directive) location rest before,
    directive.location = some location → ¬ IsSearchable tree source location →
    ∃ failure, (directive :: rest).forM (followDirective tree recurse source) before =
      (⟨[], .error failure⟩, before)
  /-- The loading succeeds where all that is reached is a schema with searchable locations. -/
  succeeds_iff : ∀ calls, (performAll tree calls .empty).1.outcome = .ok () ↔
    (∀ call ∈ calls, (call.roots? tree).isSome = true) ∧
    ∀ path, Reached tree calls path →
      (∃ schema, (Schema.ofFile tree path).outcome = .ok schema) ∧
      ∀ directive ∈ directivesOf tree path, ∀ location, directive.location = some location →
        IsSearchable tree path location

/--
A location leads to a file or to the report that it is missing exactly if it is a
locator for a path that is not too long.  Then a directive never stops the loading,
and otherwise it does.
-/
theorem locationsSettle (tree : FileTree) : LocationsSettle tree where
  found_iff _ _ _ := resolveLocation_eq_ok_iff
  documents _ _ _ found := isDocument_of_resolveLocation found
  endings_iff _ _ := found_or_missing_iff
  skipped _ _ _ _ rest before given missing := followAll_of_missing given missing rest before
  stopped _ _ _ _ rest before given unsearchable :=
    followAll_of_not_isSearchable given unsearchable rest before
  succeeds_iff calls := by
    rw [performAll_succeeds_iff]
    simp only [isLoadable_iff_isSearchable]

/-- A document that refers to a text with a single bracket, and then to another document. -/
def bracketTree : FileTree where
  entries := [
    (["a.xsd"], textFile (
      "<schema xmlns='http://www.w3.org/2001/XMLSchema'>" ++
      "<include schemaLocation='http://['/><include schemaLocation='b.xsd'/></schema>")),
    (["b.xsd"], textFile "<schema xmlns='http://www.w3.org/2001/XMLSchema'/>")]
  workingDirectory := []

theorem resolveLocation_bracket :
    resolveLocation bracketTree "http://[" (.ofLocation ["a.xsd"]) =
      .error (.locator .brackets) := by
  have given : Locator.ofString "http://[" = .error .brackets := by decide
  rw [resolveLocation, given]

/-- A text that is no locator is not found to be missing: the loading fails at once. -/
theorem found_or_missing_bracketTree_fails :
    (¬ ∀ tree location source, (∃ target, resolveLocation tree location source = .ok target) ∨
      resolveLocation tree location source = .error (.missingDocument location source)) ∧
    (performAll bracketTree [.loadFile (.ofString "/a.xsd")] .empty).1.outcome ≠ .ok () ∧
    (performAll bracketTree [.loadFile (.ofString "/a.xsd")] .empty).2.visited =
      [.ofLocation ["a.xsd"]] := by
  refine ⟨fun always => ?_, ?_, ?_⟩
  · rcases always bracketTree "http://[" (.ofLocation ["a.xsd"]) with ⟨target, found⟩ | missing
    · rw [resolveLocation_bracket] at found
      cases found
    · rw [resolveLocation_bracket] at missing
      cases missing
  · simp only [bracketTree, textFile, String.toList_append, String.reduceToList]
    decide +kernel
  · simp only [bracketTree, textFile, String.toList_append, String.reduceToList]
    decide +kernel

end SchemaBinding.Loader
