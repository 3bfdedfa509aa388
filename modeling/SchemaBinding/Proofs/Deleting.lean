import SchemaBinding.Proofs.TreeChanges
import SchemaBinding.Proofs.Writing

/-!
# Deleting the files of a directory

The entries of a directory are reached by the path of the directory and their names,
however that path is spelled.  Files are deleted one after the other, up to the first
one whose path is too long to be looked up; directories stay.
-/

namespace SchemaBinding

open FilePath (IsEntryName)

/-- What is left of an entry where files are deleted. -/
def directoryOnly : Option Entry → Option Entry
  | some .directory => some .directory
  | _ => none

theorem directoryOnly_of_ne {entry : Option Entry} (free : entry ≠ some .directory) :
    directoryOnly entry = none := by
  unfold directoryOnly
  split
  · exact absurd rfl free
  · rfl

theorem directoryOnly_directoryOnly (entry : Option Entry) :
    directoryOnly (directoryOnly entry) = directoryOnly entry := by
  by_cases here : entry = some .directory
  · rw [here]
    rfl
  · rw [directoryOnly_of_ne here]
    rfl

def FilePath.entry (directory : FilePath) (name : String) : FilePath :=
  directory.join ⟨"", [name]⟩

namespace FilePath

theorem parts_entry (directory : FilePath) (name : String) :
    (directory.entry name).parts = directory.parts ++ [name] := rfl

/-- A null character in a path into a directory is in the directory's path or in the name. -/
theorem hasNull_entry (directory : FilePath) (name : String) :
    (directory.entry name).hasNull = (directory.hasNull || name.toList.contains '\x00') := by
  rw [hasNull, parts_entry, List.any_append, ← hasNull, List.any_cons, List.any_nil, Bool.or_false]

theorem parent_entry (directory : FilePath) (name : String) :
    (directory.entry name).parent = directory := by
  show (⟨directory.anchor, (directory.parts ++ [name]).dropLast⟩ : FilePath) = directory
  rw [List.dropLast_concat]

theorem name_entry (directory : FilePath) (name : String) :
    (directory.entry name).name = name := by
  rw [FilePath.name, parts_entry, List.getLast?_concat]
  rfl

end FilePath

namespace FileTree

structure LeadsToDirectory (tree : FileTree) (path : FilePath) (place : Location) : Prop where
  located : tree.locate path = .ok place
  isDirectory : tree.entry? place = some .directory

/-- The place of an entry of a directory, unless its name or the path to it is too long. -/
def placeOf (directory : FilePath) (place : Location) (name : String) :
    Except FileFault Location :=
  if maxPathSize < (directory.entry name).toString.utf8ByteSize then .error .nameTooLong
  else if maxNameSize < name.utf8ByteSize then .error .nameTooLong
  else .ok (place ++ [name])

theorem placeOf_cases (directory : FilePath) (place : Location) (name : String) :
    placeOf directory place name = .ok (place ++ [name]) ∨
      placeOf directory place name = .error .nameTooLong := by
  unfold placeOf
  split
  · exact .inr rfl
  · split
    · exact .inr rfl
    · exact .inl rfl

variable {tree after : FileTree} {path directory : FilePath} {place other : Location}
variable {name : String}

theorem isDirectory_iff_leads :
    tree.isDirectory path = true ↔ ∃ place, tree.LeadsToDirectory path place := by
  rw [isDirectory_iff]
  exact exists_congr fun place => ⟨fun ⟨located, found⟩ => ⟨located, found⟩,
    fun leads => ⟨leads.located, leads.isDirectory⟩⟩

/-- What is listed below a place stands there, under its name from there. -/
theorem mem_below {location : Location} {entry : Entry} : (location, entry) ∈ tree.below place ↔
    location ≠ [] ∧ (place ++ location, entry) ∈ tree.entries := by
  unfold below
  rw [List.mem_filterMap]
  constructor
  · rintro ⟨⟨whole, kind⟩, member, given⟩
    split at given
    · next inside =>
        rw [Bool.and_eq_true, List.isPrefixOf_iff_prefix] at inside
        obtain ⟨⟨rest, rfl⟩, longer⟩ := inside
        obtain ⟨rfl, rfl⟩ := Prod.mk.inj (Option.some.inj given)
        rw [List.drop_left]
        refine ⟨?_, member⟩
        rintro rfl
        simp at longer
    · cases given
  · rintro ⟨filled, member⟩
    refine ⟨_, member, ?_⟩
    rw [if_pos, List.drop_left]
    rw [Bool.and_eq_true, List.isPrefixOf_iff_prefix]
    exact ⟨List.prefix_append place location, by simpa using filled⟩

namespace LeadsToDirectory

theorem place_eq (leads : tree.LeadsToDirectory path place) :
    place = path.resolveFrom tree.workingDirectory :=
  (locate_eq_ok leads.located).2

theorem kept (leads : tree.LeadsToDirectory path place) (keeps : tree.KeepsDirectories after) :
    after.LeadsToDirectory path place :=
  ⟨keeps.locate leads.located, keeps.directory place leads.isDirectory⟩

/-- The path of an entry of a directory leads to its place in any tree. -/
theorem locate_entry (leads : tree.LeadsToDirectory directory place) (named : IsEntryName name) :
    tree.locate (directory.entry name) = placeOf directory place name := by
  obtain ⟨noNull, -⟩ := locate_eq_ok leads.located
  have followed := follow_of_locate leads.located
  have free : (directory.entry name).hasNull = false := by
    rw [FilePath.hasNull, List.any_eq_false] at noNull ⊢
    intro part member
    rw [FilePath.parts_entry] at member
    rcases List.mem_append.1 member with inside | last
    · exact noNull part inside
    · obtain rfl := List.mem_singleton.1 last
      simpa using named.noNull
  have entered : FilePath.enter place name = place ++ [name] := if_neg named.not_above
  unfold locate placeOf
  rw [free, if_neg Bool.false_ne_true]
  split
  · rfl
  · show tree.follow (if directory.isAbsolute then [] else tree.workingDirectory)
      (directory.parts ++ [name]) = _
    rw [follow_append, followed]
    show tree.follow place [name] = _
    rw [follow, leads.isDirectory, entered]
    rfl

/-- The entries of a directory are listed where its path leads. -/
theorem contents_eq (leads : tree.LeadsToDirectory directory place) :
    tree.contents directory = tree.below place := by
  unfold contents
  rw [leads.located]
  exact if_pos leads.isDirectory

/-- The names in a directory are those that something stands at. -/
theorem mem_namesIn (leads : tree.LeadsToDirectory directory place) :
    name ∈ tree.namesIn directory ↔ (tree.entry? (place ++ [name])).isSome = true := by
  unfold namesIn
  rw [List.mem_mergeSort, leads.contents_eq, List.mem_filterMap]
  constructor
  · rintro ⟨⟨location, entry⟩, member, single⟩
    obtain ⟨-, stands⟩ := mem_below.1 member
    match location, single with
    | [other], same =>
        obtain rfl := Option.some.inj same
        exact isSome_entry?_of_mem stands
  · intro present
    obtain ⟨entry, stands⟩ := Option.isSome_iff_exists.1 present
    have member := mem_entries_of_entry?_eq_some (by simp) stands
    exact ⟨([name], entry), mem_below.2 ⟨List.cons_ne_nil _ _, member⟩, rfl⟩

theorem isEntryName (leads : tree.LeadsToDirectory directory place) (sound : tree.WellFormed)
    (member : name ∈ tree.namesIn directory) : IsEntryName name :=
  sound.names_of_entry? (leads.mem_namesIn.1 member) name (by simp)

end LeadsToDirectory

/-- The tree without the file at a place; a directory stays. -/
def withoutFile (tree : FileTree) (place : Location) : FileTree :=
  if tree.entry? place = some .directory then tree else tree.erase place

def withoutFiles (tree : FileTree) (places : List Location) : FileTree :=
  places.foldl withoutFile tree

namespace WellFormed

theorem entry?_withoutFile (sound : tree.WellFormed) (place other : Location) :
    FileTree.entry? (tree.withoutFile place) other =
      if other = place then directoryOnly (tree.entry? other) else tree.entry? other := by
  unfold FileTree.withoutFile
  by_cases kept : tree.entry? place = some .directory
  · rw [if_pos kept]
    split
    · next here => rw [here, kept]; rfl
    · rfl
  · rw [if_neg kept, sound.entry?_erase kept]
    split
    · next here => rw [here, directoryOnly_of_ne kept]
    · rfl

theorem withoutFile (sound : tree.WellFormed) (place : Location) :
    (tree.withoutFile place).WellFormed := by
  unfold FileTree.withoutFile
  split
  · exact sound
  · next free => exact sound.erase free

theorem keepsDirectories_withoutFile (sound : tree.WellFormed) (place : Location) :
    tree.KeepsDirectories (tree.withoutFile place) where
  workingDirectory_eq := by
    unfold FileTree.withoutFile
    split <;> rfl
  directory other found := by
    rw [sound.entry?_withoutFile, found]
    split <;> rfl

theorem withoutFiles (sound : tree.WellFormed) (places : List Location) :
    (tree.withoutFiles places).WellFormed := by
  induction places generalizing tree with
  | nil => exact sound
  | cons place rest ih => exact ih (sound.withoutFile place)

theorem keepsDirectories_withoutFiles (sound : tree.WellFormed) (places : List Location) :
    tree.KeepsDirectories (tree.withoutFiles places) := by
  induction places generalizing tree with
  | nil => exact ⟨rfl, fun _ found => found⟩
  | cons place rest ih =>
      exact (sound.keepsDirectories_withoutFile place).trans (ih (sound.withoutFile place))

theorem entry?_withoutFiles (sound : tree.WellFormed) (places : List Location)
    (other : Location) :
    FileTree.entry? (tree.withoutFiles places) other =
      if other ∈ places then directoryOnly (tree.entry? other) else tree.entry? other := by
  induction places generalizing tree with
  | nil => rfl
  | cons place rest ih =>
      rw [FileTree.withoutFiles, List.foldl_cons, ← FileTree.withoutFiles,
        ih (sound.withoutFile place), sound.entry?_withoutFile]
      by_cases here : other = place
      · rw [if_pos here, directoryOnly_directoryOnly, ite_self,
          if_pos (List.mem_cons.2 (.inl here))]
      · simp only [List.mem_cons, here, false_or, if_false]

end WellFormed

/-- Without the files in a directory only directories stand directly in it. -/
theorem LeadsToDirectory.entry?_withoutFiles (leads : tree.LeadsToDirectory directory place)
    (sound : tree.WellFormed) (other : Location) :
    FileTree.entry?
        (tree.withoutFiles ((tree.namesIn directory).map fun name => place ++ [name])) other =
      if other.dropLast = place then directoryOnly (tree.entry? other)
      else tree.entry? other := by
  rw [sound.entry?_withoutFiles]
  by_cases inside : other.dropLast = place
  · rw [if_pos inside]
    split
    · rfl
    · next absent =>
        rcases List.eq_nil_or_concat' other with rfl | ⟨parent, name, rfl⟩
        · rfl
        · rw [List.dropLast_concat] at inside
          subst inside
          have free : tree.entry? (parent ++ [name]) = none := by
            refine Option.not_isSome_iff_eq_none.1 fun stands => absent ?_
            exact List.mem_map_of_mem (leads.mem_namesIn.2 stands)
          rw [free]
          rfl
  · rw [if_neg inside, if_neg]
    intro member
    obtain ⟨name, _, rfl⟩ := List.mem_map.1 member
    exact inside List.dropLast_concat

end FileTree

namespace FileAction

open FileTree

variable {tree : FileTree} {directory : FilePath} {place : Location} {name : String}

theorem deleteFile_of_placeOf_error (leads : tree.LeadsToDirectory directory place)
    (named : IsEntryName name) (long : placeOf directory place name = .error .nameTooLong) :
    deleteFile (directory.entry name) tree = (⟨[], .error (.file .nameTooLong)⟩, tree) := by
  unfold deleteFile probe
  rw [leads.locate_entry named, long]
  rfl

theorem deleteFile_of_placeOf (leads : tree.LeadsToDirectory directory place)
    (named : IsEntryName name) (fits : placeOf directory place name = .ok (place ++ [name])) :
    ∃ deleted, deleteFile (directory.entry name) tree =
      (⟨[], .ok deleted⟩, tree.withoutFile (place ++ [name])) := by
  have located := (leads.locate_entry named).trans fits
  unfold deleteFile probe withoutFile removeFile
  rw [located]
  dsimp only
  cases found : tree.entry? (place ++ [name]) with
  | none => exact ⟨_, rfl⟩
  | some kind => cases kind <;> exact ⟨_, rfl⟩

/-- All files are deleted, or those before the first one whose path is too long. -/
theorem deleteFiles_cases (sound : tree.WellFormed)
    (leads : tree.LeadsToDirectory directory place) (names : List String)
    (named : ∀ name ∈ names, IsEntryName name) :
    (∃ deleted, deleteFiles (names.map directory.entry) tree =
        (⟨[], .ok deleted⟩, tree.withoutFiles (names.map fun name => place ++ [name])) ∧
      ∀ name ∈ names, placeOf directory place name = .ok (place ++ [name])) ∨
    ∃ passed name rest, names = passed ++ name :: rest ∧
      (∀ other ∈ passed, placeOf directory place other = .ok (place ++ [other])) ∧
      placeOf directory place name = .error .nameTooLong ∧
      deleteFiles (names.map directory.entry) tree = (⟨[], .error (.file .nameTooLong)⟩,
        tree.withoutFiles (passed.map fun name => place ++ [name])) := by
  induction names generalizing tree with
  | nil => exact .inl ⟨[], rfl, fun _ member => absurd member List.not_mem_nil⟩
  | cons name rest ih =>
      obtain ⟨namedFirst, namedRest⟩ := List.forall_mem_cons.1 named
      rcases placeOf_cases directory place name with fits | long
      · obtain ⟨deleted, first⟩ := deleteFile_of_placeOf leads namedFirst fits
        have keeps := sound.keepsDirectories_withoutFile (place ++ [name])
        rcases ih (sound.withoutFile _) (leads.kept keeps) namedRest with
          ⟨others, done, fitsRest⟩ | ⟨passed, next, more, rfl, fitsPassed, long, stopped⟩
        · refine .inl ⟨deleted ++ others, ?_, List.forall_mem_cons.2 ⟨fits, fitsRest⟩⟩
          rw [List.map_cons, deleteFiles, Action.bind_of_ok first, Action.bind_of_ok done]
          rfl
        · refine .inr ⟨name :: passed, next, more, rfl,
            List.forall_mem_cons.2 ⟨fits, fitsPassed⟩, long, ?_⟩
          rw [List.map_cons, deleteFiles, Action.bind_of_ok first, Action.bind_of_error stopped]
          rfl
      · refine .inr ⟨[], name, rest, rfl, fun _ member => absurd member List.not_mem_nil, long, ?_⟩
        rw [List.map_cons, deleteFiles,
          Action.bind_of_error (deleteFile_of_placeOf_error leads namedFirst long)]
        rfl

/-- Where deleting succeeds, all files are deleted and no path was too long. -/
theorem deleteFiles_eq_ok (sound : tree.WellFormed)
    (leads : tree.LeadsToDirectory directory place) {names : List String}
    (named : ∀ name ∈ names, IsEntryName name) {records : List Record} {deleted : List FilePath}
    {after : FileTree}
    (deletes : deleteFiles (names.map directory.entry) tree = (⟨records, .ok deleted⟩, after)) :
    after = tree.withoutFiles (names.map fun name => place ++ [name]) ∧
      ∀ name ∈ names, placeOf directory place name = .ok (place ++ [name]) := by
  rcases deleteFiles_cases sound leads names named with
    ⟨others, done, fits⟩ | ⟨_, _, _, _, _, _, stopped⟩
  · rw [done] at deletes
    exact ⟨(Prod.mk.inj deletes).2.symm, fits⟩
  · rw [stopped] at deletes
    cases deletes

end FileAction

end SchemaBinding
