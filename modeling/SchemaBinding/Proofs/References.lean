import Mathlib.Logic.Relation
import SchemaBinding.Loader
import SchemaBinding.Proofs.Paths
import SchemaBinding.Proofs.Reading

/-!
# What documents refer to

A directive of a document leads to another document, or it is reported because
it leads to none.  Only a location that is no locator or too long to be looked
up stops the loading.
-/

namespace SchemaBinding.Loader

variable (tree : FileTree)

def documentOf? (source : FilePath) (directive : Directive) : Option FilePath :=
  directive.location.bind (fun location => (resolveLocation tree location source).toOption)

/-- What is reported of a location at which no document is. -/
def skippedRecord (location : String) (source : FilePath) : Record :=
  .warning ((Failure.missingDocument location source).message ++ ", skipped")

def warningOf? (source : FilePath) (directive : Directive) : Option Record :=
  directive.location.bind (fun location =>
    match resolveLocation tree location source with
    | .ok _ => none
    | .error _ => some (skippedRecord location source))

def directivesOf (path : FilePath) : List Directive :=
  match (Schema.ofFile tree path).outcome with
  | .ok schema => schema.directives
  | .error _ => []

def documentsOf (path : FilePath) : List FilePath :=
  (directivesOf tree path).filterMap (documentOf? tree path)

def warningsOf (path : FilePath) : List Record :=
  (directivesOf tree path).filterMap (warningOf? tree path)

/-- The documents that pending ones lead to over any number of references. -/
def Reaches (pending : List FilePath) (path : FilePath) : Prop :=
  ∃ start ∈ pending, Relation.ReflTransGen (fun a b => b ∈ documentsOf tree a) start path

/-- The location of a directive, if it has one, leads to a document or is found to lead to none. -/
def IsFollowable (source : FilePath) (directive : Directive) : Prop :=
  ∀ location, directive.location = some location →
    ∀ failure, resolveLocation tree location source = .error failure →
      failure = .missingDocument location source

/-- The document at a path is a schema, and all its directives can be followed. -/
def IsLoadable (path : FilePath) : Prop :=
  ∃ schema, (Schema.ofFile tree path).outcome = .ok schema ∧
    ∀ directive ∈ schema.directives, IsFollowable tree path directive

/-- A location spells a path that is too long to be looked up. -/
def IsOverlong (source : FilePath) (location : String) : Prop :=
  ∃ locator, Locator.ofString location = .ok locator ∧
    (locator.scheme = "" ∨ locator.scheme = "file") ∧
    tree.locate (source.parent.join (targetPath location locator)) = .error .nameTooLong

variable {tree} {source : FilePath} {location : String}

theorem directivesOf_eq {path : FilePath} {schema : Schema}
    (read : (Schema.ofFile tree path).outcome = .ok schema) :
    directivesOf tree path = schema.directives := by
  rw [directivesOf, read]

theorem Reaches.mono {pending more : List FilePath} {path : FilePath}
    (reaches : Reaches tree pending path) (inside : pending ⊆ more) : Reaches tree more path := by
  obtain ⟨start, member, steps⟩ := reaches
  exact ⟨start, inside member, steps⟩

/-- What the documents lead to that a document leads to, the document leads to. -/
theorem Reaches.step {path other : FilePath}
    (reaches : Reaches tree (documentsOf tree path) other) : Reaches tree [path] other := by
  obtain ⟨start, leads, steps⟩ := reaches
  exact ⟨path, List.mem_singleton_self path, .head leads steps⟩

/-- What finding the document at a location takes, where the location is a locator. -/
theorem resolveLocation_of_locator {locator : Locator}
    (given : Locator.ofString location = .ok locator) :
    resolveLocation tree location source =
      if locator.scheme ≠ "" && locator.scheme ≠ "file" then
        .error (.missingDocument location source)
      else
        match tree.isFile (source.parent.join (targetPath location locator)) with
        | .error fault => .error (.file fault)
        | .ok true =>
            (tree.resolve (source.parent.join (targetPath location locator))).mapError .file
        | .ok false => .error (.missingDocument location source) := by
  unfold resolveLocation
  rw [given]
  dsimp only
  split
  · rfl
  · cases tree.isFile (source.parent.join (targetPath location locator)) with
    | error fault => rfl
    | ok found => cases found <;> rfl

/-- The document at a location is the file to which the path leads that the location spells. -/
theorem resolveLocation_eq_ok {target : FilePath}
    (found : resolveLocation tree location source = .ok target) :
    ∃ locator place bytes, Locator.ofString location = .ok locator ∧
      tree.locate (source.parent.join (targetPath location locator)) = .ok place ∧
      tree.entry? place = some (.file bytes) ∧ target = .ofLocation place := by
  cases given : Locator.ofString location with
  | error fault =>
      rw [resolveLocation, given] at found
      cases found
  | ok locator =>
      rw [resolveLocation_of_locator given] at found
      split at found
      · cases found
      · split at found
        · cases found
        · next isFile =>
            obtain ⟨place, bytes, located, entry⟩ := FileTree.isFile_eq_true isFile
            rw [FileTree.resolve_of_locate located] at found
            exact ⟨locator, place, bytes, rfl, located, entry, (Except.ok.inj found).symm⟩
        · cases found

/-- There are three reasons why no document is at a location. -/
theorem resolveLocation_eq_error {failure : Failure}
    (failed : resolveLocation tree location source = .error failure) :
    (∃ fault, Locator.ofString location = .error fault ∧ failure = .locator fault) ∨
      failure = .missingDocument location source ∨
      (IsOverlong tree source location ∧ failure = .file .nameTooLong) := by
  cases given : Locator.ofString location with
  | error fault =>
      rw [resolveLocation, given] at failed
      exact .inl ⟨fault, rfl, (Except.error.inj failed).symm⟩
  | ok locator =>
      rw [resolveLocation_of_locator given] at failed
      split at failed
      · exact .inr (.inl (Except.error.inj failed).symm)
      · next near =>
          split at failed
          · next fault isFile =>
              obtain ⟨rfl, overlong⟩ := FileTree.isFile_eq_error isFile
              refine .inr (.inr ⟨⟨locator, given, ?_, overlong⟩, (Except.error.inj failed).symm⟩)
              by_cases plain : locator.scheme = ""
              · exact .inl plain
              · exact .inr (by simpa [plain] using near)
          · next isFile =>
              obtain ⟨place, bytes, located, entry⟩ := FileTree.isFile_eq_true isFile
              rw [FileTree.resolve_of_locate located] at failed
              cases failed
          · exact .inr (.inl (Except.error.inj failed).symm)

theorem resolveLocation_of_isOverlong (overlong : IsOverlong tree source location) :
    resolveLocation tree location source = .error (.file .nameTooLong) := by
  obtain ⟨locator, given, scheme, located⟩ := overlong
  rw [resolveLocation_of_locator given, FileTree.isFile, FileTree.probe, located]
  rcases scheme with plain | file
  · simp [plain, Except.map]
  · simp [file, Except.map]

/-- A directive can be followed unless its location is too long, if the location is a locator. -/
theorem isFollowable_iff {directive : Directive}
    (locators : ∀ location, directive.location = some location →
      ∃ locator, Locator.ofString location = .ok locator) :
    IsFollowable tree source directive ↔
      ∀ location, directive.location = some location → ¬ IsOverlong tree source location := by
  constructor
  · intro followable location given overlong
    cases followable location given _ (resolveLocation_of_isOverlong overlong)
  · intro short location given failure failed
    obtain ⟨locator, isLocator⟩ := locators location given
    rcases resolveLocation_eq_error failed with ⟨fault, noLocator, _⟩ | missing | ⟨overlong, _⟩
    · rw [isLocator] at noLocator
      cases noLocator
    · exact missing
    · exact absurd overlong (short location given)

/-- The document at a location, as seen from an absolute path, is resolved already. -/
theorem resolve_documentOf {directive : Directive} {target : FilePath}
    (absolute : source.isAbsolute = true)
    (found : documentOf? tree source directive = some target) :
    tree.resolve target = .ok target := by
  obtain ⟨location, _, leads⟩ := Option.bind_eq_some_iff.1 found
  cases resolved : resolveLocation tree location source with
  | error failure =>
      rw [resolved] at leads
      cases leads
  | ok other =>
      rw [resolved] at leads
      obtain rfl := Option.some.inj leads
      obtain ⟨locator, place, bytes, _, located, _, rfl⟩ := resolveLocation_eq_ok resolved
      exact FileTree.resolve_place located (FilePath.isAbsolute_join absolute)

def isWarning (record : Record) : Bool :=
  record.severity == .warning

/-- A directive that is followed leads to its document, or it is warned that there is none. -/
theorem directiveTarget_eq_ok {directive : Directive} {found : Option FilePath}
    (follows : (directiveTarget tree source directive).outcome = .ok found) :
    IsFollowable tree source directive ∧ found = documentOf? tree source directive ∧
      (directiveTarget tree source directive).records.filter isWarning =
        (warningOf? tree source directive).toList := by
  obtain ⟨kind, location, uri⟩ := directive
  unfold directiveTarget at follows ⊢
  unfold IsFollowable documentOf? warningOf?
  cases location with
  | none =>
      cases follows
      refine ⟨fun location given => ?_, rfl, rfl⟩
      cases given
  | some location =>
      dsimp only [Option.bind_some] at follows ⊢
      cases resolved : resolveLocation tree location source with
      | ok target =>
          rw [resolved] at follows
          cases follows
          refine ⟨fun other given failure failed => ?_, rfl, rfl⟩
          cases given
          rw [resolved] at failed
          cases failed
      | error failure =>
          rcases resolveLocation_eq_error resolved with ⟨fault, _, rfl⟩ | rfl | ⟨_, rfl⟩
          · rw [resolved] at follows
            cases follows
          · rw [resolved] at follows
            cases follows
            refine ⟨fun other given failure failed => ?_, rfl, rfl⟩
            cases given
            rw [resolved] at failed
            exact (Except.error.inj failed).symm
          · rw [resolved] at follows
            cases follows

theorem directiveTarget_eq_error {directive : Directive} {failure : Failure}
    (fails : (directiveTarget tree source directive).outcome = .error failure) :
    ¬ IsFollowable tree source directive := by
  intro followable
  obtain ⟨kind, location, uri⟩ := directive
  unfold directiveTarget at fails
  cases location with
  | none => cases fails
  | some location =>
      dsimp only at fails
      cases resolved : resolveLocation tree location source with
      | ok target =>
          rw [resolved] at fails
          cases fails
      | error other =>
          obtain rfl := followable location rfl other resolved
          rw [resolved] at fails
          cases fails

end SchemaBinding.Loader
