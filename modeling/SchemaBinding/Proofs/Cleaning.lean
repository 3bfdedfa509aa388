import SchemaBinding.Proofs.Deleting

/-!
# Preparing a directory

A directory is prepared for output by making it and, if that is asked for, deleting
the files in it.  Whether their paths are too long to be looked up depends on the
directory and their names alone.
-/

namespace SchemaBinding

open FileTree (Change Changes)
open FilePath (IsEntryName IsFileName)

namespace FileTree

variable {tree : FileTree} {directory : Location} {name : String}

/-- The place of a name in a directory, unless the name or the path to it is too long. -/
def placeIn (directory : Location) (name : String) : Except FileFault Location :=
  if maxPathSize < (FilePath.ofLocation (directory ++ [name])).toString.utf8ByteSize then
    .error .nameTooLong
  else if maxNameSize < name.utf8ByteSize then .error .nameTooLong
  else .ok (directory ++ [name])

theorem placeIn_cases (directory : Location) (name : String) :
    placeIn directory name = .ok (directory ++ [name]) ∨
      placeIn directory name = .error .nameTooLong := by
  unfold placeIn
  split
  · exact .inr rfl
  · split
    · exact .inr rfl
    · exact .inl rfl

/-- The absolute path of a directory that is there leads to its place. -/
theorem locate_of_isDirectory (plain : ∀ name ∈ directory, IsEntryName name)
    (here : tree.isDirectory (.ofLocation directory) = true) :
    tree.LeadsToDirectory (.ofLocation directory) directory := by
  obtain ⟨location, leads⟩ := isDirectory_iff_leads.1 here
  obtain rfl := eq_of_locate_ofLocation plain leads.located
  exact leads

/-- A path into a directory that is there leads to its place in any tree. -/
theorem locate_inside (plain : ∀ name ∈ directory, IsEntryName name) (named : IsEntryName name)
    (here : tree.isDirectory (.ofLocation directory) = true) :
    tree.locate (.ofLocation (directory ++ [name])) = placeIn directory name :=
  (locate_of_isDirectory plain here).locate_entry named

/-- A path into a directory that is there leads to its place, exactly if it can be looked up. -/
theorem locate_inside_eq_ok (plain : ∀ name ∈ directory, IsEntryName name)
    (named : IsFileName name) (here : tree.isDirectory (.ofLocation directory) = true)
    {location : Location} :
    tree.locate (.ofLocation (directory ++ [name])) = .ok location ↔
      location = directory ++ [name] ∧ IsEntryName name ∧
        placeIn directory name = .ok (directory ++ [name]) := by
  constructor
  · intro located
    have isNamed : IsEntryName name := by
      refine ⟨named, fun null => ?_⟩
      have free := (locate_eq_ok located).1
      rw [FilePath.hasNull, List.any_eq_false] at free
      exact free name (by simp [FilePath.ofLocation]) (by simpa using null)
    rw [locate_inside plain isNamed here] at located
    rcases placeIn_cases directory name with fits | long
    · rw [fits] at located
      exact ⟨(Except.ok.inj located).symm, isNamed, fits⟩
    · rw [long] at located
      cases located
  · rintro ⟨rfl, isNamed, fits⟩
    exact (locate_inside plain isNamed here).trans fits

/-- Deleting files of a directory changes nothing but the directory. -/
theorem changes_withoutFiles (sound : tree.WellFormed)
    (plain : ∀ name ∈ directory, IsEntryName name) (names : List String) :
    Changes directory tree (tree.withoutFiles (names.map fun name => directory ++ [name])) := by
  induction names generalizing tree with
  | nil => exact .refl
  | cons name rest ih =>
      have first : Changes directory tree (tree.withoutFile (directory ++ [name])) := by
        unfold withoutFile
        cases found : tree.entry? (directory ++ [name]) with
        | none =>
            rw [if_neg (by simp), sound.erase_of_none found]
        | some kind =>
            cases kind with
            | directory => rw [if_pos rfl]
            | file bytes =>
                rw [if_neg (by simp)]
                exact .single (.delete found)
      exact first.trans (ih (sound.changes plain first))

end FileTree

namespace Output

open FileTree

variable {output : Output} {tree after : FileTree} {directory : Location}
variable {records : List Record}

def preparedAt (directory : Location) (isCleaned : Bool) (tree : FileTree) (place : Location) :
    Option Entry :=
  if place <+: directory then some .directory
  else if isCleaned ∧ place.dropLast = directory then directoryOnly (tree.entry? place)
  else tree.entry? place

/-- The directory is there, without its files if it is cleaned, and nothing else has changed. -/
theorem prepare_inside (sound : tree.WellFormed) (plain : ∀ name ∈ directory, IsEntryName name)
    (leads : output.directory = .ofLocation directory) {deleted : List FilePath}
    (prepares : output.prepare tree = (⟨records, .ok deleted⟩, after)) :
    Changes directory tree after ∧ after.isDirectory (.ofLocation directory) = true ∧
      (∀ place, after.entry? place = preparedAt directory output.isCleaned tree place) ∧
      (output.isCleaned = true → ∀ name, (tree.entry? (directory ++ [name])).isSome = true →
        placeIn directory name = .ok (directory ++ [name])) := by
  obtain ⟨made, ensures, cleans⟩ := prepare_eq_ok prepares
  rw [leads] at ensures
  obtain ⟨changes, here, entry⟩ := sound.ensureDirectory plain ensures
  have outside : ∀ name, ¬ directory ++ [name] <+: directory := fun name inside =>
    absurd inside.length_le (by simp)
  cases isCleaned : output.isCleaned with
  | false =>
      rw [isCleaned, if_neg Bool.false_ne_true] at cleans
      obtain ⟨-, rfl⟩ := cleans
      refine ⟨changes, here, fun place => ?_, fun impossible => by cases impossible⟩
      rw [entry, preparedAt]
      simp
  | true =>
      rw [isCleaned, if_pos rfl] at cleans
      have leadsMade := locate_of_isDirectory plain here
      have soundMade := sound.changes plain changes
      have deletes : FileAction.deleteFiles ((made.namesIn (.ofLocation directory)).map
          (FilePath.ofLocation directory).entry) made = (⟨[], .ok deleted⟩, after) := by
        rw [entriesIn, leads] at cleans
        exact cleans.2
      obtain ⟨rfl, fits⟩ := FileAction.deleteFiles_eq_ok soundMade leadsMade
        (fun _ => leadsMade.isEntryName soundMade) deletes
      have more := changes_withoutFiles soundMade plain (made.namesIn (.ofLocation directory))
      refine ⟨changes.trans more, isDirectory_of_changes soundMade plain more here,
        fun place => ?entry, fun _ name stands => fits name (leadsMade.mem_namesIn.2 ?stands)⟩
      case entry =>
        rw [leadsMade.entry?_withoutFiles soundMade, entry, preparedAt]
        by_cases above : place <+: directory
        · rw [if_pos above, if_pos above]
          exact ite_self _
        · rw [if_neg above, if_neg above]
          simp only [true_and]
      case stands =>
        rw [entry, if_neg (outside name)]
        exact stands

/-- A directory that is there is prepared with success if no path to be deleted is too long. -/
theorem exists_prepare (sound : tree.WellFormed) (plain : ∀ name ∈ directory, IsEntryName name)
    (leads : output.directory = .ofLocation directory)
    (here : tree.isDirectory (.ofLocation directory) = true)
    (listed : output.isCleaned = true → ∀ name,
      (tree.entry? (directory ++ [name])).isSome = true →
      placeIn directory name = .ok (directory ++ [name])) :
    ∃ records deleted after, output.prepare tree = (⟨records, .ok deleted⟩, after) := by
  have ensured : FileAction.ensureDirectory output.directory tree = (⟨[], .ok ()⟩, tree) := by
    rw [leads]
    exact FileAction.ensureDirectory_of_isDirectory here
  unfold prepare
  rw [Action.bind_of_ok ensured]
  cases isCleaned : output.isCleaned with
  | false => exact ⟨_, _, _, rfl⟩
  | true =>
      have leadsHere := locate_of_isDirectory plain here
      obtain ⟨deleted, after, deletes⟩ : ∃ deleted after,
          FileAction.deleteFiles ((tree.namesIn (.ofLocation directory)).map
            (FilePath.ofLocation directory).entry) tree = (⟨[], .ok deleted⟩, after) := by
        rcases FileAction.deleteFiles_cases sound leadsHere _
            (fun _ => leadsHere.isEntryName sound) with
          ⟨deleted, done, -⟩ | ⟨passed, name, rest, names, -, long, -⟩
        · exact ⟨deleted, _, done⟩
        · have member : name ∈ tree.namesIn (.ofLocation directory) := by simp [names]
          have fits : placeOf (.ofLocation directory) directory name = _ :=
            listed isCleaned name (leadsHere.mem_namesIn.1 member)
          rw [fits] at long
          cases long
      have looked : (Action.state : FileAction FileTree) tree = (⟨[], .ok tree⟩, tree) := rfl
      have paths : (tree.namesIn output.directory).map
          (fun name => output.directory.join ⟨"", [name]⟩) =
          (tree.namesIn (.ofLocation directory)).map (FilePath.ofLocation directory).entry := by
        rw [leads]
        rfl
      rw [if_neg (by decide), Action.bind_of_ok looked, paths, Action.bind_of_ok deletes]
      exact ⟨_, _, _, rfl⟩

end Output

end SchemaBinding
