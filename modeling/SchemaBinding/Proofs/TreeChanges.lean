import Mathlib.Data.List.Basic
import Mathlib.Data.List.Induction
import Mathlib.Logic.Relation
import SchemaBinding.Proofs.FileNames
import SchemaBinding.Proofs.FileTrees

/-!
# Changes around a directory

Writing to a directory makes the directory and those above it, and deletes and
writes files in it.  No such change damages a tree, and whatever is read outside
the directory is read as before.
-/

namespace SchemaBinding

structure FilePath.IsEntryName (name : String) : Prop extends FilePath.IsFileName name where
  noNull : '\x00' ∉ name.toList

instance (name : String) : Decidable (FilePath.IsEntryName name) :=
  decidable_of_iff (FilePath.IsFileName name ∧ '\x00' ∉ name.toList)
    ⟨fun ⟨plain, noNull⟩ => ⟨plain, noNull⟩, fun named => ⟨named.toIsFileName, named.noNull⟩⟩

/-- A letter that is repeated is a name. -/
theorem FilePath.isEntryName_replicate {letter : Char} {count : Nat} (filled : count ≠ 0)
    (plain : letter ∉ ['.', '/', '\x00']) :
    FilePath.IsEntryName (String.ofList (List.replicate count letter)) := by
  have only : ∀ other ∈ (String.ofList (List.replicate count letter)).toList, other = letter := by
    intro other member
    rw [String.toList_ofList] at member
    exact List.eq_of_mem_replicate member
  have dotless : '.' ∉ (String.ofList (List.replicate count letter)).toList :=
    fun member => plain (only _ member ▸ by decide)
  refine ⟨⟨fun empty => filled ?_, fun here => dotless ?_, fun above => dotless ?_,
    fun slash => plain (only _ slash ▸ by decide)⟩, fun null => plain (only _ null ▸ by decide)⟩
  · have letters := congrArg (List.length ∘ String.toList) empty
    simpa using letters
  · rw [here]
    decide
  · rw [above]
    decide

namespace FileTree

/-- Every entry has a name and stands in a directory, and so does whoever reads the tree. -/
structure WellFormed (tree : FileTree) : Prop where
  names : ∀ item ∈ tree.entries, ∀ name ∈ item.1, FilePath.IsEntryName name
  housed : ∀ item ∈ tree.entries, tree.entry? item.1.dropLast = some .directory
  working : tree.entry? tree.workingDirectory = some .directory

instance (tree : FileTree) : Decidable tree.WellFormed :=
  decidable_of_iff
    ((∀ item ∈ tree.entries, ∀ name ∈ item.1, FilePath.IsEntryName name) ∧
      (∀ item ∈ tree.entries, tree.entry? item.1.dropLast = some .directory) ∧
      tree.entry? tree.workingDirectory = some .directory)
    ⟨fun ⟨names, housed, working⟩ => ⟨names, housed, working⟩,
      fun sound => ⟨sound.names, sound.housed, sound.working⟩⟩

/-- One change around a directory. -/
inductive Change (directory : Location) (tree : FileTree) : FileTree → Prop where
  /-- The directory, or one above it, is made. -/
  | make {place : Location} (above : place <+: directory) (free : tree.entry? place = none)
      (housed : tree.entry? place.dropLast = some .directory) :
      Change directory tree (tree.set place .directory)
  | delete {name : String} {bytes : List UInt8}
      (found : tree.entry? (directory ++ [name]) = some (.file bytes)) :
      Change directory tree (tree.erase (directory ++ [name]))
  | write {name : String} (bytes : List UInt8) (named : FilePath.IsEntryName name)
      (housed : tree.entry? directory = some .directory)
      (free : tree.entry? (directory ++ [name]) ≠ some .directory) :
      Change directory tree (tree.set (directory ++ [name]) (.file bytes))

abbrev Changes (directory : Location) : FileTree → FileTree → Prop :=
  Relation.ReflTransGen (Change directory)

variable {tree after : FileTree} {directory place other : Location} {entry : Entry}

theorem mem_entries_of_entry?_eq_some (below : place ≠ [])
    (found : tree.entry? place = some entry) : (place, entry) ∈ tree.entries := by
  rw [entry?_of_ne_nil _ below] at found
  obtain ⟨⟨location, kind⟩, first, rfl⟩ := Option.map_eq_some_iff.1 found
  obtain rfl : location = place := by simpa using List.find?_some first
  exact List.mem_of_find?_eq_some first

theorem isSome_entry?_of_mem {item : Location × Entry} (member : item ∈ tree.entries) :
    (tree.entry? item.1).isSome = true := by
  by_cases top : item.1 = []
  · rw [top]
    rfl
  · rw [entry?_of_ne_nil _ top, Option.isSome_map, List.find?_isSome]
    exact ⟨item, member, by simp⟩

namespace WellFormed

/-- Above an entry there are only directories. -/
theorem entry?_above (sound : tree.WellFormed) (found : (tree.entry? place).isSome = true)
    (above : other <+: place) (apart : other ≠ place) : tree.entry? other = some .directory := by
  induction place using List.reverseRecOn with
  | nil => exact absurd (List.prefix_nil.1 above) apart
  | append_singleton init last ih =>
      obtain ⟨entry, present⟩ := Option.isSome_iff_exists.1 found
      have housed := sound.housed _ (mem_entries_of_entry?_eq_some (by simp) present)
      rw [List.dropLast_concat] at housed
      by_cases here : other = init
      · rw [here]
        exact housed
      · exact ih (by rw [housed]; rfl)
          ((List.prefix_concat_iff.1 above).resolve_left apart) here

/-- Nothing stands below what is no directory. -/
theorem entry?_below (sound : tree.WellFormed) (free : tree.entry? place ≠ some .directory)
    (below : place <+: other) (apart : other ≠ place) : tree.entry? other = none := by
  refine Option.not_isSome_iff_eq_none.1 fun found => free ?_
  exact sound.entry?_above found below (Ne.symm apart)

/-- Nothing else goes with a file that is erased. -/
theorem entry?_erase (sound : tree.WellFormed) (free : tree.entry? place ≠ some .directory)
    (other : Location) :
    FileTree.entry? (tree.erase place) other =
      if other = place then none else tree.entry? other := by
  rw [FileTree.entry?_erase]
  by_cases here : other = place
  · rw [if_pos here, if_pos ⟨here ▸ ne_nil_of_ne_directory free, here ▸ List.prefix_refl _⟩]
  · rw [if_neg here]
    split
    · next inside => exact (sound.entry?_below free inside.2 here).symm
    · rfl

/-- Where nothing stands nothing is erased. -/
theorem erase_of_none (sound : tree.WellFormed) (free : tree.entry? place = none) :
    tree.erase place = tree := by
  have all : tree.entries.filter (fun item => !place.isPrefixOf item.1) = tree.entries := by
    refine List.filter_eq_self.2 fun item member => ?_
    rw [Bool.not_eq_true', ← Bool.not_eq_true, List.isPrefixOf_iff_prefix]
    intro inside
    have present := isSome_entry?_of_mem member
    by_cases here : item.1 = place
    · rw [here, free] at present
      cases present
    · rw [sound.entry?_below (by rw [free]; simp) inside here] at present
      cases present
  rw [erase, all]

theorem names_of_entry? (sound : tree.WellFormed) (found : (tree.entry? place).isSome = true) :
    ∀ name ∈ place, FilePath.IsEntryName name := by
  by_cases top : place = []
  · rw [top]
    exact fun _ member => absurd member List.not_mem_nil
  · obtain ⟨entry, present⟩ := Option.isSome_iff_exists.1 found
    exact sound.names _ (mem_entries_of_entry?_eq_some top present)

/-- A path leads down from the top, by its names alone. -/
theorem double_dot_not_mem_resolveFrom (sound : tree.WellFormed) (path : FilePath) :
    ".." ∉ path.resolveFrom tree.workingDirectory := by
  refine FilePath.double_dot_not_mem_foldl_enter ?_
  split
  · exact List.not_mem_nil
  · have working := sound.names_of_entry? (by rw [sound.working]; rfl)
    exact fun above => (working ".." above).not_above rfl

end WellFormed

theorem mem_entries_set {item : Location × Entry} (member : item ∈ (tree.set place entry).entries) :
    item.1 = place ∨ item ∈ tree.entries := by
  unfold set at member
  split at member
  · obtain ⟨before, inside, rfl⟩ := List.mem_map.1 member
    by_cases here : before.1 = place
    · rw [if_pos here]
      exact .inl rfl
    · rw [if_neg here]
      exact .inr inside
  · rcases List.mem_append.1 member with before | here
    · exact .inr before
    · exact .inl (by rw [List.mem_singleton.1 here])

/-- A well-formed tree stays so when an entry with a name is put into a directory. -/
theorem WellFormed.set (sound : tree.WellFormed) (named : ∀ name ∈ place, FilePath.IsEntryName name)
    (housed : tree.entry? place.dropLast = some .directory)
    (free : tree.entry? place ≠ some .directory) : (tree.set place entry).WellFormed := by
  have keeps : tree.KeepsDirectories (tree.set place entry) := keepsDirectories_set free
  refine ⟨fun item member => ?_, fun item member => ?_, ?_⟩
  · rcases mem_entries_set member with here | before
    · rw [here]
      exact named
    · exact sound.names item before
  · rcases mem_entries_set member with here | before
    · rw [here]
      exact keeps.directory _ housed
    · exact keeps.directory _ (sound.housed item before)
  · rw [workingDirectory_set]
    exact keeps.directory _ sound.working

/-- A well-formed tree stays so when a file is erased. -/
theorem WellFormed.erase (sound : tree.WellFormed) (free : tree.entry? place ≠ some .directory) :
    (tree.erase place).WellFormed := by
  have kept : ∀ other, tree.entry? other = some .directory →
      FileTree.entry? (tree.erase place) other = some .directory := by
    intro other found
    rw [sound.entry?_erase free, if_neg]
    · exact found
    · rintro rfl
      exact free found
  refine ⟨fun item member => ?_, fun item member => ?_, kept _ sound.working⟩
  · exact sound.names item (List.mem_filter.1 member |>.1)
  · exact kept _ (sound.housed item (List.mem_filter.1 member |>.1))

/-- A change keeps a tree well formed. -/
theorem WellFormed.change (sound : tree.WellFormed)
    (plain : ∀ name ∈ directory, FilePath.IsEntryName name) (change : Change directory tree after) :
    after.WellFormed := by
  cases change with
  | make above free housed =>
      exact sound.set (fun name member => plain name (above.subset member)) housed
        (by rw [free]; simp)
  | delete found => exact sound.erase (by rw [found]; simp)
  | write bytes named housed free =>
      refine sound.set ?_ (by rw [List.dropLast_concat]; exact housed) free
      intro name member
      rcases List.mem_append.1 member with inside | last
      · exact plain name inside
      · exact List.mem_singleton.1 last ▸ named

theorem WellFormed.changes (sound : tree.WellFormed)
    (plain : ∀ name ∈ directory, FilePath.IsEntryName name)
    (changes : Changes directory tree after) : after.WellFormed := by
  induction changes with
  | refl => exact sound
  | tail _ change ih => exact ih.change plain change

/-- What changes around a directory leave alone: other files, and whatever is not around it. -/
structure Spares (directory : Location) (tree after : FileTree) : Prop where
  keepsDirectories : tree.KeepsDirectories after
  file : ∀ place bytes, ¬ directory <+: place → tree.entry? place = some (.file bytes) →
    after.entry? place = some (.file bytes)
  below : ∀ place, ¬ place <+: directory → after.below place = tree.below place

namespace Spares

theorem refl (directory : Location) (tree : FileTree) : Spares directory tree tree :=
  ⟨⟨rfl, fun _ found => found⟩, fun _ _ _ found => found, fun _ _ => rfl⟩

theorem trans {middle : FileTree} (first : Spares directory tree middle)
    (second : Spares directory middle after) : Spares directory tree after where
  keepsDirectories := first.keepsDirectories.trans second.keepsDirectories
  file place bytes outside found :=
    second.file place bytes outside (first.file place bytes outside found)
  below place outside := (second.below place outside).trans (first.below place outside)

end Spares

def IsBelow (place other : Location) : Prop :=
  place <+: other ∧ other ≠ place

theorem isBelow_iff : IsBelow place other ↔
    (place.isPrefixOf other && other.length != place.length) = true := by
  rw [Bool.and_eq_true, List.isPrefixOf_iff_prefix, bne_iff_ne]
  refine and_congr_right fun inside => not_congr ?_
  exact ⟨congrArg List.length, fun same => (inside.eq_of_length same.symm).symm⟩

/-- What is put elsewhere than below a location is not among the entries below it. -/
theorem below_set (apart : ¬ IsBelow place other) :
    (tree.set other entry).below place = tree.below place := by
  rw [isBelow_iff, Bool.not_eq_true] at apart
  unfold below set
  split
  · rw [List.filterMap_map]
    refine List.filterMap_congr fun item _ => ?_
    by_cases here : item.1 = other
    · rw [Function.comp_apply, if_pos here, here, apart]
      rfl
    · rw [Function.comp_apply, if_neg here]
  · rw [List.filterMap_append, List.filterMap_cons, apart]
    simp

/-- A file that is erased elsewhere than below a location was not among the entries below it. -/
theorem below_erase (sound : tree.WellFormed) (free : tree.entry? other ≠ some .directory)
    (apart : ¬ IsBelow place other) : (tree.erase other).below place = tree.below place := by
  unfold below erase
  rw [List.filterMap_filter]
  refine List.filterMap_congr fun item member => ?_
  split
  · rfl
  · next inside =>
      rw [Bool.not_eq_true', ← Bool.not_eq_true, not_not, List.isPrefixOf_iff_prefix] at inside
      have here : item.1 = other := by
        refine Classical.byContradiction fun different => ?_
        have present := isSome_entry?_of_mem member
        rw [sound.entry?_below free inside different] at present
        cases present
      rw [isBelow_iff, Bool.not_eq_true] at apart
      rw [here, apart]
      rfl

/-- Nothing around a directory is below a location that is not above the directory. -/
theorem not_isBelow_of_around (outside : ¬ place <+: directory)
    (around : other <+: directory ∨ ∃ name, other = directory ++ [name]) :
    ¬ IsBelow place other := by
  rintro ⟨inside, apart⟩
  rcases around with above | ⟨name, rfl⟩
  · exact outside (inside.trans above)
  · rcases List.prefix_concat_iff.1 inside with same | above
    · exact apart same.symm
    · exact outside above

/-- A change around a directory leaves everything else alone. -/
theorem spares_of_change (sound : tree.WellFormed) (change : Change directory tree after) :
    Spares directory tree after := by
  cases change with
  | make above free housed =>
      have grows : tree.Extends (tree.set _ .directory) := extends_set_of_none free
      exact ⟨grows.keepsDirectories, fun other bytes _ found => grows.entry other _ found,
        fun other outside => below_set (not_isBelow_of_around outside (.inl above))⟩
  | @delete name bytes found =>
      have free : tree.entry? (directory ++ [name]) ≠ some .directory := by
        rw [found]
        simp
      refine ⟨⟨rfl, fun other standing => ?_⟩, fun other bytes outside standing => ?_,
        fun other outside => below_erase sound free
          (not_isBelow_of_around outside (.inr ⟨name, rfl⟩))⟩
      · rw [sound.entry?_erase free, if_neg]
        · exact standing
        · rintro rfl
          exact free standing
      · rw [sound.entry?_erase free, if_neg]
        · exact standing
        · rintro rfl
          exact outside (List.prefix_append directory [name])
  | @write name bytes named housed free =>
      refine ⟨keepsDirectories_set free, fun other bytes outside standing => ?_,
        fun other outside => below_set (not_isBelow_of_around outside (.inr ⟨name, rfl⟩))⟩
      rw [entry?_set (ne_nil_of_ne_directory free), if_neg]
      · exact standing
      · rintro rfl
        exact outside (List.prefix_append directory [name])

theorem spares_of_changes (sound : tree.WellFormed)
    (plain : ∀ name ∈ directory, FilePath.IsEntryName name)
    (changes : Changes directory tree after) : Spares directory tree after := by
  induction changes with
  | refl => exact .refl directory tree
  | tail before change ih =>
      exact ih.trans (spares_of_change (sound.changes plain before) change)

theorem KeepsDirectories.isDirectory {path : FilePath} (keeps : tree.KeepsDirectories after)
    (here : tree.isDirectory path = true) : after.isDirectory path = true := by
  obtain ⟨location, located, found⟩ := isDirectory_iff.1 here
  exact isDirectory_iff.2 ⟨location, keeps.locate located, keeps.directory location found⟩

theorem isDirectory_of_changes {path : FilePath} (sound : tree.WellFormed)
    (plain : ∀ name ∈ directory, FilePath.IsEntryName name)
    (changes : Changes directory tree after) (here : tree.isDirectory path = true) :
    after.isDirectory path = true :=
  (spares_of_changes sound plain changes).keepsDirectories.isDirectory here

section Reading

variable {path : FilePath} (spares : Spares directory tree after)
include spares

/-- A file outside the directory is read as before. -/
theorem Spares.read (outside : ∀ location, tree.locate path = .ok location →
      ¬ directory <+: location) {bytes : List UInt8} (given : tree.read path = .ok bytes) :
    after.read path = .ok bytes := by
  obtain ⟨location, located, found⟩ := read_eq_ok given
  rw [FileTree.read, spares.keepsDirectories.locate located]
  simp only [bind, Except.bind, spares.file location bytes (outside location located) found]
  rfl

/-- The contents of a directory that is not above the changes are as before. -/
theorem Spares.contents {place : Location} (located : tree.locate path = .ok place)
    (found : tree.entry? place = some .directory) (outside : ¬ place <+: directory) :
    after.contents path = tree.contents path := by
  unfold FileTree.contents
  rw [located, spares.keepsDirectories.locate located]
  dsimp only
  rw [if_pos found, if_pos (spares.keepsDirectories.directory place found),
    spares.below place outside]

end Reading

/-- The absolute path of a place leads to that place if it leads anywhere. -/
theorem eq_of_locate_ofLocation (plain : ∀ name ∈ place, FilePath.IsEntryName name)
    (located : tree.locate (.ofLocation place) = .ok other) : other = place := by
  rw [(locate_eq_ok located).2]
  exact FilePath.foldl_enter_plain [] fun member => (plain ".." member).not_above rfl

/-- A place to which its path leads is in a directory. -/
theorem entry?_dropLast_of_locate (plain : ∀ name ∈ place, FilePath.IsEntryName name)
    (located : tree.locate (.ofLocation place) = .ok other) :
    tree.entry? place.dropLast = some .directory := by
  unfold locate at located
  split at located
  · cases located
  split at located
  · cases located
  induction place using List.reverseRecOn with
  | nil => rfl
  | append_singleton init last _ =>
      have followed : tree.follow [] (init ++ [last]) = .ok other := located
      rw [follow_append] at followed
      cases led : tree.follow [] init with
      | error fault =>
          rw [led] at followed
          cases followed
      | ok middle =>
          have here : middle = init := by
            rw [follow_eq_ok led]
            exact FilePath.foldl_enter_plain [] fun member =>
              (plain ".." (List.mem_append_left _ member)).not_above rfl
          rw [led, here] at followed
          rw [List.dropLast_concat]
          have inside : tree.follow init [last] = .ok other := followed
          unfold follow at inside
          split at inside
          · next found => exact found
          · cases inside
          · cases inside

/-- Directories are made, the given one or above it, and nothing else is done. -/
structure Makes (directory : Location) (tree made : FileTree) : Prop where
  changes : Changes directory tree made
  entry : ∀ place, ¬ place <+: directory → made.entry? place = tree.entry? place

namespace Makes

theorem refl (directory : Location) (tree : FileTree) : Makes directory tree tree :=
  ⟨.refl, fun _ _ => rfl⟩

theorem trans {middle : FileTree} (first : Makes directory tree middle)
    (second : Makes directory middle after) : Makes directory tree after where
  changes := first.changes.trans second.changes
  entry place outside := (second.entry place outside).trans (first.entry place outside)

end Makes

theorem makes_makeDirectory (plain : ∀ name ∈ place, FilePath.IsEntryName name)
    (above : place <+: directory) (makes : tree.makeDirectory (.ofLocation place) = .ok after) :
    Makes directory tree after := by
  obtain ⟨location, located, free, rfl⟩ := makeDirectory_eq_ok makes
  obtain rfl := eq_of_locate_ofLocation plain located
  refine ⟨.single (.make above free (entry?_dropLast_of_locate plain located)),
    fun other outside => ?_⟩
  rw [entry?_set (ne_nil_of_ne_directory (by rw [free]; simp)), if_neg]
  rintro rfl
  exact outside above

theorem makes_ensureDirectoryWith (fuel : Nat)
    (plain : ∀ name ∈ directory, FilePath.IsEntryName name) (above : place <+: directory)
    (tree : FileTree) :
    Makes directory tree (ensureDirectoryWith fuel (.ofLocation place) tree).2 := by
  refine relates_ensureDirectoryWith
    (fun path => ∃ place, path = .ofLocation place ∧ place <+: directory)
    (Makes.refl directory) (fun _ _ _ => Makes.trans) ?parent ?step fuel _ ⟨place, rfl, above⟩ tree
  case parent =>
    rintro _ ⟨place, rfl, above⟩
    exact ⟨place.dropLast, rfl, (List.dropLast_prefix place).trans above⟩
  case step =>
    rintro _ tree made ⟨place, rfl, above⟩ makes
    exact makes_makeDirectory (fun name member => plain name (above.subset member)) above makes

/-- A directory that is ensured is there with those above it, and nothing else has changed. -/
theorem WellFormed.ensureDirectory (sound : tree.WellFormed)
    (plain : ∀ name ∈ directory, FilePath.IsEntryName name)
    (ensures : tree.ensureDirectory (.ofLocation directory) = (.ok (), after)) :
    Changes directory tree after ∧ after.isDirectory (.ofLocation directory) = true ∧
      ∀ place, after.entry? place =
        if place <+: directory then some .directory else tree.entry? place := by
  have makes := makes_ensureDirectoryWith (FilePath.ofLocation directory).parts.length plain
    (List.prefix_refl directory) tree
  have houses := houses_ensureDirectory tree (.ofLocation directory)
  have same : ensureDirectoryWith (FilePath.ofLocation directory).parts.length
    (.ofLocation directory) tree = (.ok (), after) := ensures
  rw [same] at makes
  rw [ensures] at houses
  have here := houses.2 rfl
  refine ⟨makes.changes, here, fun place => ?_⟩
  split
  · next above =>
      obtain ⟨location, located, found⟩ := isDirectory_iff.1 here
      obtain rfl := eq_of_locate_ofLocation plain located
      by_cases top : place = location
      · rw [top]
        exact found
      · exact (sound.changes plain makes.changes).entry?_above (by rw [found]; rfl) above top
  · next outside => exact makes.entry place outside

end FileTree

end SchemaBinding
