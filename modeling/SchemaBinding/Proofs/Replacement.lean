import Mathlib.Data.Fintype.EquivFin
import Mathlib.Data.Set.Finite.Basic
import SchemaBinding.Proofs.Writing

/-!
# Replacing a file as a whole

A text is written to a temporary file first, under a free name beside its target,
and the temporary file is then moved to the place of the target.  Whatever fails on
the way, the temporary file is deleted.  So the target is replaced as a whole or not
at all, and nothing but missing directories above it is ever left behind.
-/

namespace SchemaBinding

namespace FileTree

def unlink (tree : FileTree) (place : Location) : FileTree :=
  { tree with entries := tree.entries.filter (fun item => item.1 ≠ place) }

/-- The name of a temporary file beside a target; a part of it is drawn. -/
def besideName (path : FilePath) (draw : String) : String :=
  "." ++ path.name ++ "." ++ draw ++ ".tmp"

def besideOf (tree : FileTree) (path : FilePath) (draw : String) : Location :=
  path.parent.resolveFrom tree.workingDirectory ++ [besideName path draw]

/-- An empty file is made beside a target, under the first one of the drawn names that is free. -/
def openTemporary (tree : FileTree) (path : FilePath) (draws : List String) :
    Except FileFault (Location × FileTree) := do
  tree.openBeside path
  match (draws.map (tree.besideOf path)).find? (fun place => (tree.entry? place).isNone) with
  | some place => return (place, tree.set place (.file []))
  | none => throw .exists

/-- The entry at a place is moved to the end of a path, where it takes the place of a file. -/
def rename (tree : FileTree) (place : Location) (path : FilePath) :
    Except FileFault FileTree := do
  if path.parts.isEmpty || path.name = ".." then throw .busy
  let location ← tree.locate path
  match tree.entry? place, tree.entry? location with
  | none, _ => throw .notFound
  | some _, some .directory => throw .isDirectory
  | some entry, _ => return (tree.unlink place).set location entry

end FileTree

namespace FileAction

def cleaningUp (cleanup : FileTree → FileTree) (action : FileAction Unit) : FileAction Unit :=
  fun tree =>
    match action tree with
    | (⟨records, .error failure⟩, after) => (⟨records, .error failure⟩, cleanup after)
    | done => done

def openTemporary (path : FilePath) (draws : List String) : FileAction Location :=
  fun tree =>
    match tree.openTemporary path draws with
    | .ok (place, opened) => (Run.pure place, opened)
    | .error fault => (Run.fail (.file fault), tree)

def fill (place : Location) : Content → FileAction Unit
  | .text text => Action.change (fun tree => tree.set place (fileOf text))
  | .absent => Action.fail .notText
  | .unpaired | .misnamed | .misplaced => Action.fail .unencodable

/-- The content is written to an open temporary file, which then takes the place of the target. -/
def finish (place : Location) (path : FilePath) (content : Content) : FileAction Unit :=
  cleaningUp (fun tree => tree.unlink place) (do
    fill place content
    attempt (fun tree => tree.rename place path))

/-- The content takes the place of the file by way of a temporary file. -/
def replaceThrough (draws : List String) (path : FilePath) (content : Content) :
    FileAction Unit := do
  if content = .misplaced then Action.fail .unencodable
  ensureDirectory path.parent
  if content = .misnamed then Action.fail .unencodable
  let place ← openTemporary path draws
  finish place path content

/-- What is done in a directory that is there, without a temporary file. -/
def settle (path : FilePath) : Content → FileAction Unit
  | .text text => attempt (fun tree => tree.moveIntoPlace path text)
  | .absent => Action.fail .notText
  | .unpaired | .misnamed | .misplaced => Action.fail .unencodable

end FileAction

namespace FileTree

variable {tree after : FileTree} {path : FilePath} {place location : Location} {entry : Entry}

theorem ne_of_mem_entries (free : tree.entry? place = none) {item : Location × Entry}
    (member : item ∈ tree.entries) : item.1 ≠ place := by
  have below := ne_nil_of_ne_directory (by rw [free]; simp)
  rw [entry?_of_ne_nil _ below, Option.map_eq_none_iff, List.find?_eq_none] at free
  exact fun same => free item member (by simpa using same)

theorem set_of_none (free : tree.entry? place = none) :
    tree.set place entry = { tree with entries := tree.entries ++ [(place, entry)] } := by
  rw [set, if_neg (by simp [free])]

/-- A file that was made where nothing stood is deleted without a trace. -/
theorem unlink_set (free : tree.entry? place = none) :
    (tree.set place entry).unlink place = tree := by
  have kept : tree.entries.filter (fun item => item.1 ≠ place) = tree.entries :=
    List.filter_eq_self.2 fun item member => by simpa using ne_of_mem_entries free member
  rw [set_of_none free, unlink]
  dsimp only
  rw [List.filter_append, kept]
  simp

theorem set_set (free : tree.entry? place = none) (first : Entry) :
    (tree.set place first).set place entry = tree.set place entry := by
  have below := ne_nil_of_ne_directory (by rw [free]; simp)
  have kept : tree.entries.map (fun item => if item.1 = place then (place, entry) else item) =
      tree.entries := by
    refine (List.map_congr_left fun item member => ?_).trans (List.map_id tree.entries)
    exact if_neg (ne_of_mem_entries free member)
  rw [set, if_pos (by simp [entry?_set below]), set_of_none free, set_of_none free]
  dsimp only
  rw [List.map_append, kept]
  simp

/-- The target of a path that ends in the name of an entry stands in the directory of the path. -/
theorem resolveFrom_eq_concat (below : path.parts ≠ []) (named : path.name ≠ "..")
    (directory : Location) :
    path.resolveFrom directory = path.parent.resolveFrom directory ++ [path.name] := by
  obtain ⟨front, last, whole⟩ : ∃ front last, path.parts = front ++ [last] :=
    ⟨_, _, (List.dropLast_concat_getLast below).symm⟩
  have name_eq : path.name = last := by simp [FilePath.name, whole]
  have parent_eq : path.parent.parts = front := by simp [FilePath.parent, whole]
  rw [FilePath.resolveFrom, whole, List.foldl_append, FilePath.resolveFrom, parent_eq, name_eq]
  rw [name_eq] at named
  simp [FilePath.enter, named, FilePath.isAbsolute, FilePath.parent]

/-- A temporary file never has the name of its target. -/
theorem resolveFrom_ne_besideOf (below : path.parts ≠ []) (named : path.name ≠ "..")
    (draw : String) : path.resolveFrom tree.workingDirectory ≠ tree.besideOf path draw := by
  rw [resolveFrom_eq_concat below named, besideOf]
  intro same
  have names := List.singleton_inj.1 (List.append_cancel_left same)
  have sizes := congrArg String.length names
  have dot : ".".length = 1 := rfl
  simp only [besideName, String.length_append] at sizes
  omega

/-- A file made where nothing stood does not change where a path leads whose directory is there. -/
theorem locate_set (here : tree.isDirectory path.parent = true)
    (free : tree.entry? place = none) (below : path.parts ≠ []) :
    (tree.set place entry).locate path = tree.locate path := by
  obtain ⟨directory, located, found⟩ := isDirectory_iff.1 here
  have keeps : tree.KeepsDirectories (tree.set place entry) :=
    (extends_set_of_none free).keepsDirectories
  have followed : tree.follow (if path.isAbsolute then [] else tree.workingDirectory)
      path.parent.parts = .ok directory := follow_of_locate located
  have whole : path.parts = path.parent.parts ++ [path.parts.getLast below] :=
    (List.dropLast_concat_getLast below).symm
  unfold locate
  -- Up to its last name the path leads to a directory, which is there in both trees.
  rw [workingDirectory_set, whole, follow_append, follow_append, followed, keeps.follow followed]
  simp only [Except.bind, follow, found, keeps.directory directory found]

/-- Moving a temporary file comes to the same as writing its text in the place of the target. -/
theorem rename_set (here : tree.isDirectory path.parent = true) {draw text : String}
    (free : tree.entry? (tree.besideOf path draw) = none) :
    (tree.set (tree.besideOf path draw) (fileOf text)).rename (tree.besideOf path draw) path =
      tree.moveIntoPlace path text := by
  have apart : tree.besideOf path draw ≠ [] := ne_nil_of_ne_directory (by rw [free]; simp)
  unfold rename moveIntoPlace
  by_cases busy : (path.parts.isEmpty || decide (path.name = "..")) = true
  · rw [if_pos busy, if_pos busy]
    rfl
  · rw [if_neg busy, if_neg busy]
    simp only [Bool.or_eq_true, List.isEmpty_iff, decide_eq_true_eq, not_or] at busy
    rw [locate_set here free busy.1, writeInPlace, writeBytes, entry?_set apart, if_pos rfl]
    cases located : tree.locate path with
    | error fault => rfl
    | ok location =>
        -- The target is not the temporary file itself, so both trees have the same in its place.
        have elsewhere : location ≠ tree.besideOf path draw := by
          rw [(locate_eq_ok located).2]
          exact resolveFrom_ne_besideOf busy.1 busy.2 draw
        simp only [bind, Except.bind, pure, Except.pure, entry?_set apart, if_neg elsewhere,
          unlink_set free]
        cases tree.entry? location with
        | none => rfl
        | some entry => cases entry <;> rfl

end FileTree

namespace FileTree

variable {tree middle after : FileTree} {path : FilePath} {place : Location}

/-- A directory that was made where nothing stood, at the end of a path or on the way to it. -/
structure IsNewDirectory (tree after : FileTree) (path : FilePath) (place : Location) : Prop where
  was_free : tree.entry? place = none
  made : after.entry? place = some .directory
  on_way : ∃ parts, parts <+: path.parts ∧
    place = FilePath.resolveFrom tree.workingDirectory ⟨path.anchor, parts⟩

/-- Everything stays as it is, except for new directories at the end of a path or on the way. -/
structure MakesWay (path : FilePath) (tree after : FileTree) : Prop where
  workingDirectory_eq : after.workingDirectory = tree.workingDirectory
  entry : ∀ place, after.entry? place = tree.entry? place ∨ IsNewDirectory tree after path place

namespace MakesWay

theorem refl (path : FilePath) (tree : FileTree) : MakesWay path tree tree :=
  ⟨rfl, fun _ => .inl rfl⟩

theorem trans (first : MakesWay path tree middle) (second : MakesWay path middle after) :
    MakesWay path tree after where
  workingDirectory_eq := second.workingDirectory_eq.trans first.workingDirectory_eq
  entry place := by
    rcases second.entry place with same | ⟨was_free, made, on_way⟩
    · rcases first.entry place with unchanged | new
      · exact .inl (same.trans unchanged)
      · exact .inr ⟨new.was_free, same.trans new.made, new.on_way⟩
    · rcases first.entry place with unchanged | new
      · rw [first.workingDirectory_eq] at on_way
        exact .inr ⟨unchanged.symm.trans was_free, made, on_way⟩
      · rw [new.made] at was_free
        cases was_free

end MakesWay

theorem makesWay_of_makeDirectory {parts : List String} (above : parts <+: path.parts)
    (makes : tree.makeDirectory ⟨path.anchor, parts⟩ = .ok after) : MakesWay path tree after := by
  obtain ⟨location, located, free, rfl⟩ := makeDirectory_eq_ok makes
  have below := ne_nil_of_ne_directory (by rw [free]; simp)
  refine ⟨workingDirectory_set _ _ _, fun place => ?_⟩
  by_cases here : place = location
  · refine .inr ⟨here ▸ free, by rw [entry?_set below, if_pos here], parts, above, ?_⟩
    rw [here]
    exact (locate_eq_ok located).2
  · exact .inl (by rw [entry?_set below, if_neg here])

theorem makesWay_ensureDirectory (tree : FileTree) (path : FilePath) :
    MakesWay path tree (tree.ensureDirectory path).2 := by
  refine relates_ensureDirectoryWith
    (fun other => ∃ parts, parts <+: path.parts ∧ other = ⟨path.anchor, parts⟩)
    (MakesWay.refl path) (fun _ _ _ => MakesWay.trans) ?parent ?step _ _
    ⟨path.parts, List.prefix_refl _, rfl⟩ tree
  case parent =>
    rintro _ ⟨parts, above, rfl⟩
    exact ⟨parts.dropLast, (List.dropLast_prefix parts).trans above, rfl⟩
  case step =>
    rintro _ tree made ⟨parts, above, rfl⟩ makes
    exact makesWay_of_makeDirectory above makes

/-- Everything on the way to a directory is one. -/
theorem entry?_of_prefix {parts : List String} (here : tree.isDirectory path = true)
    (above : parts <+: path.parts) :
    tree.entry? (FilePath.resolveFrom tree.workingDirectory ⟨path.anchor, parts⟩) =
      some .directory := by
  obtain ⟨location, located, found⟩ := isDirectory_iff.1 here
  obtain ⟨rest, whole⟩ := above
  have followed := follow_of_locate located
  rw [← whole, follow_append] at followed
  obtain ⟨passed, early, late⟩ := except_bind_eq_ok.1 followed
  have place : passed = FilePath.resolveFrom tree.workingDirectory ⟨path.anchor, parts⟩ :=
    follow_eq_ok early
  rw [← place]
  cases rest with
  | nil =>
      obtain rfl := Except.ok.inj late
      exact found
  | cons part more =>
      unfold follow at late
      split at late
      · next directory => exact directory
      · cases late
      · cases late

end FileTree

namespace FileAction

variable {tree : FileTree} {path : FilePath} {content : Content}

/-- Where a temporary file was made, finishing comes to the same as writing without one. -/
theorem finish_eq_settle (here : tree.isDirectory path.parent = true) {draw : String}
    (free : tree.entry? (tree.besideOf path draw) = none) (content : Content) :
    finish (tree.besideOf path draw) path content
        (tree.set (tree.besideOf path draw) (.file [])) =
      settle path content tree := by
  have cleaned : (tree.set (tree.besideOf path draw) (.file [])).unlink
      (tree.besideOf path draw) = tree := FileTree.unlink_set free
  unfold finish cleaningUp
  cases content with
  | text text =>
      have filled : fill (tree.besideOf path draw) (.text text)
          (tree.set (tree.besideOf path draw) (.file [])) =
            (⟨[], .ok ()⟩, tree.set (tree.besideOf path draw) (fileOf text)) :=
        congrArg (Prod.mk _) (FileTree.set_set free _)
      rw [Action.bind_of_ok filled]
      unfold settle attempt
      dsimp only
      rw [FileTree.rename_set here free]
      cases tree.moveIntoPlace path text with
      | ok moved => rfl
      | error fault => exact congrArg (Prod.mk _) (FileTree.unlink_set free)
  | absent => exact congrArg (Prod.mk _) cleaned
  | unpaired => exact congrArg (Prod.mk _) cleaned
  | misnamed => exact congrArg (Prod.mk _) cleaned
  | misplaced => exact congrArg (Prod.mk _) cleaned

/-- One of the drawn names is free beside a target, once its directory was made. -/
def HasDraw (tree : FileTree) (path : FilePath) (draws : List String) : Prop :=
  ∃ draw ∈ draws,
    FileTree.entry? (tree.ensureDirectory path.parent).2
      ((tree.ensureDirectory path.parent).2.besideOf path draw) = none

theorem openTemporary_cases (tree : FileTree) (path : FilePath) (draws : List String) :
    (∃ draw, tree.entry? (tree.besideOf path draw) = none ∧ tree.openBeside path = .ok () ∧
      openTemporary path draws tree =
        (⟨[], .ok (tree.besideOf path draw)⟩, tree.set (tree.besideOf path draw) (.file []))) ∨
    ∃ fault, openTemporary path draws tree = (⟨[], .error (.file fault)⟩, tree) ∧
      (tree.openBeside path = .error fault ∨
        ∀ draw ∈ draws, tree.entry? (tree.besideOf path draw) ≠ none) := by
  unfold openTemporary FileTree.openTemporary
  cases opens : tree.openBeside path with
  | error fault => exact .inr ⟨fault, rfl, .inl rfl⟩
  | ok value =>
      simp only [bind, Except.bind]
      cases first : (draws.map (tree.besideOf path)).find?
          (fun place => (tree.entry? place).isNone) with
      | none =>
          refine .inr ⟨.exists, rfl, .inr fun draw drawn => ?_⟩
          have taken := List.find?_eq_none.1 first _ (List.mem_map_of_mem drawn)
          simpa using taken
      | some place =>
          obtain ⟨draw, _, rfl⟩ := List.mem_map.1 (List.mem_of_find?_eq_some first)
          exact .inl ⟨draw, by simpa using List.find?_some first, trivial, rfl⟩

theorem replaceFile_eq (placed : content ≠ .misplaced) (named : content ≠ .misnamed) :
    replaceFile path content = (do
      ensureDirectory path.parent
      attempt (fun tree => (fun _ => tree) <$> tree.openBeside path)
      settle path content) := by
  cases content with
  | text text => rfl
  | absent => rfl
  | unpaired => rfl
  | misnamed => exact absurd rfl named
  | misplaced => exact absurd rfl placed

/-- With a free name for the temporary file, replacing a file goes as it does without one. -/
theorem replaceThrough_eq_replaceFile {draws : List String} (drawn : HasDraw tree path draws) :
    replaceThrough draws path content tree = replaceFile path content tree := by
  by_cases misplaced : content = .misplaced
  · subst misplaced
    rfl
  by_cases misnamed : content = .misnamed
  · subst misnamed
    rfl
  rw [replaceFile_eq misplaced misnamed, replaceThrough, if_neg misplaced]
  refine Action.bind_congr_at rfl fun _ _ made makes => ?_
  obtain ⟨_, ensured⟩ := ensureDirectory_eq_ok makes
  have here := (FileTree.houses_ensureDirectory tree path.parent).2
  unfold HasDraw at drawn
  rw [ensured] at here drawn
  dsimp only
  rw [if_neg misnamed]
  rcases openTemporary_cases made path draws with ⟨draw, free, opens, given⟩ | ⟨fault, given, why⟩
  · rw [Action.bind_of_ok given, Action.bind_of_ok (attempt_openBeside_of_ok opens),
      finish_eq_settle (here rfl) free]
  · have failed : made.openBeside path = .error fault := by
      refine why.resolve_right fun taken => ?_
      obtain ⟨draw, member, free⟩ := drawn
      exact taken draw member free
    have unopened : attempt (fun tree => (fun _ => tree) <$> tree.openBeside path) made =
        (⟨[], .error (.file fault)⟩, made) := attempt_of_error (by rw [failed]; rfl)
    rw [Action.bind_of_error given, Action.bind_of_error unopened]

theorem settle_cases (path : FilePath) (content : Content) (tree : FileTree) :
    (∃ failure, settle path content tree = (⟨[], .error failure⟩, tree)) ∨
    ∃ text location, content = .text text ∧ tree.locate path = .ok location ∧
      tree.entry? location ≠ some .directory ∧
      settle path content tree = (⟨[], .ok ()⟩, tree.set location (fileOf text)) := by
  cases content with
  | text text =>
      have attempted : settle path (.text text) tree =
        attempt (fun tree => tree.moveIntoPlace path text) tree := rfl
      rw [attempted]
      cases moves : tree.moveIntoPlace path text with
      | error fault => exact .inl ⟨.file fault, attempt_of_error moves⟩
      | ok after =>
          obtain ⟨location, located, free, rfl⟩ :=
            writeInPlace_eq_ok.1 (moveIntoPlace_eq_ok.1 moves).2
          exact .inr ⟨text, location, rfl, located, free, attempt_eq_ok.2 ⟨rfl, moves⟩⟩
  | absent => exact .inl ⟨_, rfl⟩
  | unpaired => exact .inl ⟨_, rfl⟩
  | misnamed => exact .inl ⟨_, rfl⟩
  | misplaced => exact .inl ⟨_, rfl⟩

inductive Ends (tree : FileTree) (path : FilePath) (content : Content) :
    Run Unit × FileTree → Prop where
  | failed {failure : Failure} {after : FileTree}
      (way : FileTree.MakesWay path.parent tree after) :
      Ends tree path content (⟨[], .error failure⟩, after)
  | replaced {text : String} {made : FileTree} {location : Location}
      (isText : content = .text text) (ensured : tree.ensureDirectory path.parent = (.ok (), made))
      (located : made.locate path = .ok location)
      (free : made.entry? location ≠ some .directory) :
      Ends tree path content (⟨[], .ok ()⟩, made.set location (fileOf text))

/-- However names are drawn, a file is replaced as a whole or nothing but directories is made. -/
theorem ends_replaceThrough (draws : List String) (path : FilePath) (content : Content)
    (tree : FileTree) : Ends tree path content (replaceThrough draws path content tree) := by
  have way := FileTree.makesWay_ensureDirectory tree path.parent
  have here := (FileTree.houses_ensureDirectory tree path.parent).2
  by_cases misplaced : content = .misplaced
  · subst misplaced
    exact .failed (.refl _ tree)
  rw [replaceThrough, if_neg misplaced]
  dsimp only
  rcases ensured : tree.ensureDirectory path.parent with ⟨outcome, made⟩
  rw [ensured] at way here
  cases outcome with
  | error fault =>
      rw [Action.bind_of_error (ensureDirectory_of_error ensured)]
      exact .failed way
  | ok value =>
      rw [Action.bind_of_ok (ensureDirectory_of_ok ensured)]
      by_cases misnamed : content = .misnamed
      · subst misnamed
        exact .failed way
      rw [if_neg misnamed]
      rcases openTemporary_cases made path draws with ⟨draw, free, _, given⟩ | ⟨fault, given, _⟩
      · rw [Action.bind_of_ok given, finish_eq_settle (here rfl) free]
        rcases settle_cases path content made with
          ⟨failure, settled⟩ | ⟨text, location, isText, located, free, settled⟩
        · rw [settled]
          exact .failed way
        · rw [settled]
          exact .replaced isText ensured located free
      · rw [Action.bind_of_error given]
        exact .failed way

/-- Among the names of temporary files beside a target, one is free. -/
theorem exists_hasDraw (tree : FileTree) (path : FilePath) : ∃ draw, HasDraw tree path [draw] := by
  generalize made_eq : (tree.ensureDirectory path.parent).2 = made
  have different : Function.Injective (made.besideOf path ∘ String.ofList) := by
    intro first second same
    have names := List.singleton_inj.1 (List.append_cancel_left same)
    have lists := congrArg String.toList names
    simp only [FileTree.besideName, String.toList_append, String.toList_ofList] at lists
    exact List.append_cancel_left (List.append_cancel_right lists)
  obtain ⟨_, ⟨draw, rfl⟩, free⟩ := (Set.infinite_range_of_injective different).exists_notMem_finite
    (List.finite_toSet (made.entries.map Prod.fst))
  refine ⟨String.ofList draw, _, List.mem_singleton_self _, ?_⟩
  have below : made.besideOf path (String.ofList draw) ≠ [] :=
    List.append_ne_nil_of_right_ne_nil _ (by simp)
  rw [made_eq, FileTree.entry?_of_ne_nil _ below, Option.map_eq_none_iff, List.find?_eq_none]
  intro item member same
  refine free (List.mem_map.2 ⟨item, member, ?_⟩)
  simpa using same

end FileAction

/-- A file is replaced as a whole by a text, or else nothing but missing directories is made. -/
structure ReplacesWhole (tree : FileTree) (path : FilePath) (content : Content)
    (result : Run Unit × FileTree) : Prop where
  workingDirectory_eq : result.2.workingDirectory = tree.workingDirectory
  /-- The target holds the text; everything else stays, besides new directories above it. -/
  succeeds : ∀ value, result.1.outcome = .ok value → ∃ text, content = .text text ∧
    result.2.read path = .ok (Text.Utf8.encode text.toList) ∧
    FileTree.entry? result.2 (path.resolveFrom tree.workingDirectory) = some (fileOf text) ∧
    ∀ place, place ≠ path.resolveFrom tree.workingDirectory →
      FileTree.entry? result.2 place = tree.entry? place ∨
        FileTree.IsNewDirectory tree result.2 path.parent place
  /-- Everything stays, the target included, besides new directories above it. -/
  fails : ∀ failure, result.1.outcome = .error failure → ∀ place,
    FileTree.entry? result.2 place = tree.entry? place ∨
      FileTree.IsNewDirectory tree result.2 path.parent place
  /-- Without a text, for a target that is a directory, and below a file, there is no success. -/
  fails_of : (content = .absent ∨ tree.isDirectory path = true ∨
      ∃ parts bytes, parts <+: path.parent.parts ∧
        tree.entry? (FilePath.resolveFrom tree.workingDirectory ⟨path.anchor, parts⟩) =
          some (.file bytes)) →
    ∃ failure, result.1.outcome = .error failure

namespace FileAction

variable {tree : FileTree} {path : FilePath} {content : Content}

theorem Ends.replacesWhole {result : Run Unit × FileTree} (ends : Ends tree path content result) :
    ReplacesWhole tree path content result := by
  cases ends with
  | failed way =>
      refine ⟨way.workingDirectory_eq, fun value impossible => ?_, fun _ _ => way.entry,
        fun _ => ⟨_, rfl⟩⟩
      cases impossible
  | @replaced text made location isText ensured located free =>
      have way := FileTree.makesWay_ensureDirectory tree path.parent
      have houses := FileTree.houses_ensureDirectory tree path.parent
      rw [ensured] at way houses
      have below := FileTree.ne_nil_of_ne_directory free
      have target : location = path.resolveFrom tree.workingDirectory := by
        rw [← way.workingDirectory_eq]
        exact (FileTree.locate_eq_ok located).2
      have puts : tree.Puts path text (made.set location (fileOf text)) := by
        refine .put made location houses.1 (fun here => ?_) located free
        rw [FileTree.ensureDirectory_of_isDirectory here] at ensured
        exact (congrArg Prod.snd ensured).symm
      refine ⟨puts.workingDirectory_eq, fun value _ => ⟨text, isText, puts.read, ?_, ?_⟩,
        fun failure impossible => ?_, fun reason => ?_⟩
      · rw [← target]
        simp [FileTree.entry?_set below]
      · intro place elsewhere
        rw [← target] at elsewhere
        rcases way.entry place with same | new
        · refine .inl ?_
          rw [FileTree.entry?_set below, if_neg elsewhere]
          exact same
        · refine .inr ⟨new.was_free, ?_, new.on_way⟩
          rw [FileTree.entry?_set below, if_neg elsewhere]
          exact new.made
      · cases impossible
      · exfalso
        rcases reason with absent | directory | ⟨parts, bytes, above, file⟩
        · cases isText.symm.trans absent
        · obtain ⟨place, led, found⟩ := FileTree.isDirectory_iff.1 directory
          obtain rfl := Except.ok.inj ((houses.1.keepsDirectories.locate led).symm.trans located)
          exact free (houses.1.entry place _ found)
        · have passed := FileTree.entry?_of_prefix (houses.2 rfl) above
          rw [way.workingDirectory_eq] at passed
          cases (houses.1.entry _ _ file).symm.trans passed

theorem ends_replaceFile (path : FilePath) (content : Content) (tree : FileTree) :
    Ends tree path content (replaceFile path content tree) := by
  obtain ⟨draw, free⟩ := exists_hasDraw tree path
  rw [← replaceThrough_eq_replaceFile free]
  exact ends_replaceThrough [draw] path content tree

theorem replaceFile_text_of_free {text : String} {made : FileTree} {location : Location}
    (ensured : tree.ensureDirectory path.parent = (.ok (), made))
    (opens : made.openBeside path = .ok ()) (below : path.parts ≠ []) (named : path.name ≠ "..")
    (located : made.locate path = .ok location) (free : made.entry? location ≠ some .directory) :
    (replaceFile path (.text text) tree).1.outcome = .ok () := by
  have moved : attempt (fun tree => tree.moveIntoPlace path text) made =
      (⟨[], .ok ()⟩, made.set location (fileOf text)) :=
    attempt_eq_ok.2 ⟨rfl, moveIntoPlace_eq_ok.2
      ⟨⟨below, named⟩, writeInPlace_eq_ok.2 ⟨location, located, free, rfl⟩⟩⟩
  rw [replaceFile_text, Action.bind_of_ok (ensureDirectory_of_ok ensured),
    Action.bind_of_ok (attempt_openBeside_of_ok opens), moved]

end FileAction

/-- Replacing a file leaves no trace of the temporary file by way of which it is done. -/
structure ReplacesSafely (draws : List String) (tree : FileTree) (path : FilePath)
    (content : Content) : Prop where
  through : ReplacesWhole tree path content (FileAction.replaceThrough draws path content tree)
  whole : ReplacesWhole tree path content (FileAction.replaceFile path content tree)
  agrees : FileAction.HasDraw tree path draws →
    FileAction.replaceThrough draws path content tree = FileAction.replaceFile path content tree
  /-- A text is written where its directory can be made and no directory is in its place. -/
  writes : ∀ text made location, content = .text text →
    tree.ensureDirectory path.parent = (.ok (), made) → made.openBeside path = .ok () →
    path.parts ≠ [] → path.name ≠ ".." → made.locate path = .ok location →
    made.entry? location ≠ some .directory →
    (FileAction.replaceFile path content tree).1.outcome = .ok ()

/--
In every tree, for every path, every content and all names that are drawn for the
temporary file, a file is replaced as a whole or not at all.
-/
theorem FileAction.replacesSafely (draws : List String) (tree : FileTree) (path : FilePath)
    (content : Content) : ReplacesSafely draws tree path content where
  through := (ends_replaceThrough draws path content tree).replacesWhole
  whole := (ends_replaceFile path content tree).replacesWhole
  agrees := replaceThrough_eq_replaceFile
  writes := by
    rintro text made location rfl ensured opens below named located free
    exact replaceFile_text_of_free ensured opens below named located free

end SchemaBinding
