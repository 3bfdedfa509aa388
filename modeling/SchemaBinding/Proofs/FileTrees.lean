import SchemaBinding.Output
import SchemaBinding.Proofs.Paths

/-!
# Changes of file trees

What stands where after a change of a file tree.  A path that could be followed
can still be followed, to the same place, as long as no directory is lost.
-/

namespace SchemaBinding.FileTree

variable {tree made after : FileTree} {path : FilePath} {location other : Location}
variable {entry : Entry}

@[simp]
theorem entry?_nil (tree : FileTree) : tree.entry? [] = some .directory := rfl

theorem entry?_of_ne_nil (tree : FileTree) (below : location ≠ []) :
    tree.entry? location =
      (tree.entries.find? (fun item => item.1 == location)).map Prod.snd := by
  rw [FileTree.entry?, if_neg below]

/-- A path that leads to a place is that of a file if one stands there. -/
theorem isFile_of_locate (located : tree.locate path = .ok location) :
    tree.isFile path = .ok (match tree.entry? location with
      | some (.file _) => true
      | _ => false) := by
  rw [isFile, probe, located]
  rfl

@[simp]
theorem workingDirectory_set (tree : FileTree) (location : Location) (entry : Entry) :
    (tree.set location entry).workingDirectory = tree.workingDirectory := by
  unfold set
  split <;> rfl

theorem find?_map_key {items : List (Location × Entry)} (location other : Location)
    (entry : Entry) :
    ((items.map (fun item => if item.1 = location then (location, entry) else item)).find?
        (fun item => item.1 == other)).map Prod.snd =
      if other = location then
        ((items.find? (fun item => item.1 == location)).map (fun _ => entry))
      else (items.find? (fun item => item.1 == other)).map Prod.snd := by
  induction items with
  | nil => simp
  | cons item rest ih =>
      rw [List.map_cons, List.find?_cons, List.find?_cons, List.find?_cons]
      by_cases here : item.1 = location
      · rw [if_pos here]
        by_cases same : other = location
        · simp [same, here]
        · have different : (location == other) = false := by simpa using Ne.symm same
          rw [if_neg same] at ih ⊢
          rw [different, here, different]
          exact ih
      · rw [if_neg here]
        by_cases same : item.1 = other
        · have apart : other ≠ location := fun equal => here (same.trans equal)
          simp [same, apart]
        · simp only [beq_eq_false_iff_ne.2 same, beq_eq_false_iff_ne.2 here]
          exact ih

/-- An entry that is put somewhere stands there, and nothing else has changed. -/
theorem entry?_set (below : location ≠ []) (other : Location) :
    FileTree.entry? (tree.set location entry) other =
      if other = location then some entry else tree.entry? other := by
  by_cases top : other = []
  · rw [top, entry?_nil, entry?_nil, if_neg (Ne.symm below)]
  rw [entry?_of_ne_nil _ top, entry?_of_ne_nil _ top]
  unfold set
  by_cases known : (tree.entry? location).isSome = true
  · rw [if_pos known]
    rw [entry?_of_ne_nil _ below, Option.isSome_map] at known
    refine (find?_map_key location other entry).trans ?_
    split
    · obtain ⟨item, found⟩ := Option.isSome_iff_exists.1 known
      rw [found]
      rfl
    · rfl
  · rw [if_neg known]
    rw [entry?_of_ne_nil _ below, Option.isSome_map, Option.not_isSome_iff_eq_none] at known
    rw [List.find?_append]
    by_cases same : other = location
    · rw [same, known, if_pos rfl]
      simp
    · have different : (location == other) = false := by simpa using Ne.symm same
      simp [same, different]

/-- Nothing stands at and below a location that is erased. -/
theorem entry?_erase (tree : FileTree) (location other : Location) :
    FileTree.entry? (tree.erase location) other =
      if other ≠ [] ∧ location <+: other then none else tree.entry? other := by
  by_cases top : other = []
  · simp [top]
  rw [entry?_of_ne_nil _ top, entry?_of_ne_nil _ top, erase, List.find?_filter]
  by_cases inside : location <+: other
  · rw [if_pos ⟨top, inside⟩, List.find?_eq_none.2]
    · rfl
    · intro item _ found
      simp only [Bool.not_eq_true', beq_iff_eq, decide_eq_true_eq] at found
      obtain ⟨apart, rfl⟩ := found
      rw [← List.isPrefixOf_iff_prefix, apart] at inside
      cases inside
  · rw [if_neg (fun both => inside both.2)]
    congr 2
    funext item
    by_cases same : item.1 = other
    · simp [same, inside, ← Bool.not_eq_true]
    · simp [same]

theorem follow_append (start : Location) (first second : List String) :
    tree.follow start (first ++ second) =
      (tree.follow start first).bind (fun middle => tree.follow middle second) := by
  induction first generalizing start with
  | nil => rfl
  | cons part rest ih =>
      rw [List.cons_append, follow, follow]
      split
      · split
        · rfl
        · exact ih _
      · rfl
      · rfl

/-- Every directory is still there, and relative paths are followed from the same place. -/
structure KeepsDirectories (tree after : FileTree) : Prop where
  workingDirectory_eq : after.workingDirectory = tree.workingDirectory
  directory : ∀ location, tree.entry? location = some .directory →
    after.entry? location = some .directory

/-- Whatever stood somewhere still stands there. -/
structure Extends (tree after : FileTree) : Prop where
  workingDirectory_eq : after.workingDirectory = tree.workingDirectory
  entry : ∀ location entry, tree.entry? location = some entry →
    after.entry? location = some entry

namespace KeepsDirectories

theorem trans (first : tree.KeepsDirectories made) (second : made.KeepsDirectories after) :
    tree.KeepsDirectories after where
  workingDirectory_eq := second.workingDirectory_eq.trans first.workingDirectory_eq
  directory location given := second.directory location (first.directory location given)

theorem follow (keeps : tree.KeepsDirectories after) {parts : List String} {start : Location}
    (led : tree.follow start parts = .ok location) : after.follow start parts = .ok location := by
  induction parts generalizing start with
  | nil => exact led
  | cons part rest ih =>
      unfold FileTree.follow at led ⊢
      split at led
      · next isDirectory =>
          rw [keeps.directory start isDirectory]
          split at led
          · cases led
          · next short =>
              rw [if_neg short]
              exact ih led
      · cases led
      · cases led

theorem locate (keeps : tree.KeepsDirectories after) (located : tree.locate path = .ok location) :
    after.locate path = .ok location := by
  unfold FileTree.locate at located ⊢
  split at located
  · cases located
  · next free =>
      rw [if_neg free]
      split at located
      · cases located
      · next short =>
          rw [if_neg short, keeps.workingDirectory_eq]
          exact keeps.follow located

end KeepsDirectories

namespace Extends

theorem refl (tree : FileTree) : tree.Extends tree := ⟨rfl, fun _ _ given => given⟩

theorem trans (first : tree.Extends made) (second : made.Extends after) :
    tree.Extends after where
  workingDirectory_eq := second.workingDirectory_eq.trans first.workingDirectory_eq
  entry location entry given := second.entry location entry (first.entry location entry given)

theorem keepsDirectories (grows : tree.Extends after) : tree.KeepsDirectories after where
  workingDirectory_eq := grows.workingDirectory_eq
  directory location given := grows.entry location .directory given

end Extends

theorem isDirectory_iff :
    tree.isDirectory path = true ↔
      ∃ location, tree.locate path = .ok location ∧ tree.entry? location = some .directory := by
  unfold isDirectory lookup?
  cases located : tree.locate path with
  | error fault => simp
  | ok location => simp

theorem makeDirectory_eq_ok (makes : tree.makeDirectory path = .ok made) :
    ∃ location, tree.locate path = .ok location ∧ tree.entry? location = none ∧
      made = tree.set location .directory := by
  unfold makeDirectory at makes
  cases located : tree.locate path with
  | error fault =>
      rw [located] at makes
      cases makes
  | ok location =>
      simp only [located, bind, Except.bind] at makes
      split at makes
      · cases makes
      · next free => exact ⟨location, rfl, free, (Except.ok.inj makes).symm⟩

theorem extends_set_of_none (free : tree.entry? location = none) :
    tree.Extends (tree.set location entry) where
  workingDirectory_eq := workingDirectory_set tree location entry
  entry other given present := by
    have below : location ≠ [] := by
      rintro rfl
      cases free
    rw [entry?_set below]
    split
    · next same =>
        rw [same, free] at present
        cases present
    · exact present

theorem ne_nil_of_ne_directory (free : tree.entry? location ≠ some .directory) :
    location ≠ [] := by
  rintro rfl
  exact free rfl

/-- A made directory is where its path leads. -/
theorem isDirectory_of_makeDirectory (makes : tree.makeDirectory path = .ok made) :
    made.isDirectory path = true := by
  obtain ⟨location, located, free, rfl⟩ := makeDirectory_eq_ok makes
  have below := ne_nil_of_ne_directory (by rw [free]; simp)
  refine isDirectory_iff.2 ⟨location, ?_, by rw [entry?_set below, if_pos rfl]⟩
  exact (extends_set_of_none free).keepsDirectories.locate located

theorem extends_makeDirectory (makes : tree.makeDirectory path = .ok made) :
    tree.Extends made := by
  obtain ⟨location, _, free, rfl⟩ := makeDirectory_eq_ok makes
  exact extends_set_of_none free

/-- A result of making a directory: nothing is taken away, and a success is a directory. -/
def Houses (tree : FileTree) (path : FilePath) (result : Except FileFault Unit × FileTree) :
    Prop :=
  tree.Extends result.2 ∧ (result.1 = .ok () → result.2.isDirectory path = true)

theorem houses_made (makes : tree.makeDirectory path = .ok made) :
    tree.Houses path (.ok (), made) :=
  ⟨extends_makeDirectory makes, fun _ => isDirectory_of_makeDirectory makes⟩

theorem houses_kept (grows : tree.Extends made) (fault : FileFault) :
    tree.Houses path (if made.isDirectory path then .ok () else .error fault, made) := by
  refine ⟨grows, fun succeeds => ?_⟩
  by_cases here : made.isDirectory path = true
  · exact here
  · simp [here] at succeeds

inductive Ensures : FilePath → FileTree → Except FileFault Unit × FileTree → Prop where
  | made {path : FilePath} {tree made : FileTree} (makes : tree.makeDirectory path = .ok made) :
      Ensures path tree (.ok (), made)
  /-- It cannot be made, which is a success only if it is there. -/
  | kept {path : FilePath} {tree : FileTree} (fault : FileFault) :
      Ensures path tree (if tree.isDirectory path then .ok () else .error fault, tree)
  /-- No directory above it is tried any more. -/
  | lost {path : FilePath} {tree : FileTree} : Ensures path tree (.error .notFound, tree)
  | stopped {path : FilePath} {tree middle : FileTree} {fault : FileFault}
      (above : Ensures path.parent tree (.error fault, middle)) :
      Ensures path tree (.error fault, middle)
  | andThen {path : FilePath} {tree middle : FileTree} {result : Except FileFault Unit × FileTree}
      (above : Ensures path.parent tree (.ok (), middle)) (next : Ensures path middle result) :
      Ensures path tree result

theorem ensures_ensureDirectoryWith (fuel : Nat) (path : FilePath) (tree : FileTree) :
    Ensures path tree (ensureDirectoryWith fuel path tree) := by
  unfold ensureDirectoryWith
  cases makes : tree.makeDirectory path with
  | ok made => exact .made makes
  | error fault =>
      cases fault with
      | notFound =>
          cases fuel with
          | zero => exact .lost
          | succ fuel =>
              have above := ensures_ensureDirectoryWith fuel path.parent tree
              dsimp only
              rcases result : ensureDirectoryWith fuel path.parent tree with ⟨outcome, middle⟩
              rw [result] at above
              cases outcome with
              | error other => exact .stopped above
              | ok value =>
                  dsimp only
                  cases again : middle.makeDirectory path with
                  | ok made => exact above.andThen (.made again)
                  | error other => exact above.andThen (.kept other)
      | _ => exact .kept _

theorem Ensures.houses {result : Except FileFault Unit × FileTree}
    (ensures : Ensures path tree result) : tree.Houses path result := by
  induction ensures with
  | made makes => exact houses_made makes
  | kept fault => exact houses_kept (.refl _) fault
  | lost => exact ⟨.refl _, fun succeeds => by cases succeeds⟩
  | stopped _ above => exact ⟨above.1, fun succeeds => by cases succeeds⟩
  | andThen _ _ above next => exact ⟨above.1.trans next.1, next.2⟩

theorem houses_ensureDirectory (tree : FileTree) (path : FilePath) :
    tree.Houses path (tree.ensureDirectory path) :=
  (ensures_ensureDirectoryWith path.parts.length path tree).houses

/--
Making directories is one step after the other, each of them for the path or one above
it, also where not all of them can be made.
-/
theorem relates_ensureDirectoryWith {related : FileTree → FileTree → Prop}
    (allowed : FilePath → Prop) (refl : ∀ tree, related tree tree)
    (trans : ∀ tree middle after, related tree middle → related middle after → related tree after)
    (parent : ∀ path, allowed path → allowed path.parent)
    (step : ∀ path tree made, allowed path → tree.makeDirectory path = .ok made → related tree made)
    (fuel : Nat) (path : FilePath) (here : allowed path) (tree : FileTree) :
    related tree (ensureDirectoryWith fuel path tree).2 := by
  have ensures := ensures_ensureDirectoryWith fuel path tree
  generalize ensureDirectoryWith fuel path tree = result at ensures
  induction ensures with
  | made makes => exact step _ _ _ here makes
  | kept => exact refl _
  | lost => exact refl _
  | stopped _ above => exact above (parent _ here)
  | andThen _ _ above next => exact trans _ _ _ (above (parent _ here)) (next here)

/-- A directory that is there is not made again. -/
theorem ensureDirectory_of_isDirectory (here : tree.isDirectory path = true) :
    tree.ensureDirectory path = (.ok (), tree) := by
  obtain ⟨location, located, standing⟩ := isDirectory_iff.1 here
  have present : tree.makeDirectory path = .error .exists := by
    unfold makeDirectory
    simp only [located, bind, Except.bind, standing]
    rfl
  unfold ensureDirectory ensureDirectoryWith
  rw [present]
  simp [here]

/-- Bytes are written to a place where no directory stands. -/
theorem writeBytes_eq_ok {bytes : List UInt8} :
    tree.writeBytes path bytes = .ok after ↔
      ∃ location, tree.locate path = .ok location ∧
        tree.entry? location ≠ some .directory ∧ after = tree.set location (.file bytes) := by
  unfold writeBytes
  cases located : tree.locate path with
  | error fault => simp [bind, Except.bind]
  | ok location =>
      simp only [bind, Except.bind, Except.ok.injEq, exists_eq_left']
      split
      · next directory => simp [directory, throw, throwThe, MonadExceptOf.throw]
      · next free =>
          exact ⟨fun same => ⟨free, (Except.ok.inj same).symm⟩, fun ⟨_, same⟩ => by rw [same]; rfl⟩

theorem keepsDirectories_set (free : tree.entry? location ≠ some .directory) :
    tree.KeepsDirectories (tree.set location entry) where
  workingDirectory_eq := workingDirectory_set tree location entry
  directory other given := by
    rw [entry?_set (ne_nil_of_ne_directory free), if_neg]
    · exact given
    · rintro rfl
      exact free given

end SchemaBinding.FileTree
