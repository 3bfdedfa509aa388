import SchemaBinding.Proofs.Deleting
import SchemaBinding.Proofs.Replacement

/-!
# How preparing a directory ends

The directory of an output cannot be made, or its cleaning stops at an entry whose path
is too long to be looked up, or it is prepared.  Besides new directories on the way to
it and files that were deleted in it, every tree that is left is the tree before.
-/

namespace SchemaBinding

open FilePath (IsEntryName IsFileName)

/-- Every name of the path can be spelled; double dots lead up. -/
def FilePath.IsSpelled (path : FilePath) : Prop :=
  ∀ part ∈ path.parts, part ≠ ".." → IsFileName part

theorem FilePath.isSpelled_ofString (text : String) : (FilePath.ofString text).IsSpelled :=
  fun _ member down => isFileName_of_mem_parts member down

/-- A relative path is read back from its written form. -/
theorem FilePath.IsSpelled.ofString_toString {path : FilePath} (spelled : path.IsSpelled)
    (relative : path.anchor = "") (filled : path.parts ≠ []) :
    FilePath.ofString path.toString = path := by
  obtain ⟨anchor, parts⟩ := path
  obtain rfl : anchor = "" := relative
  have legible : ∀ part ∈ parts, part.toList ≠ [] ∧ part.toList ≠ ['.'] ∧ '/' ∉ part.toList := by
    intro part member
    by_cases up : part = ".."
    · subst up
      decide
    · have plain := spelled part member up
      exact ⟨plain.kept.1, plain.kept.2, plain.unbroken⟩
  cases parts with
  | nil => exact absurd rfl filled
  | cons first rest =>
      have written : (FilePath.mk "" (first :: rest)).toString.toList =
          ['/'].intercalate ((first :: rest).map String.toList) := by
        simp [toString, String.toList_intercalate]
      have divided := Text.splitAll_intercalate_toList fun name member => (legible name member).2.2
      have anchored : anchorOf (['/'].intercalate ((first :: rest).map String.toList)) = "" := by
        refine (anchorOf_cons (fun head => (legible first List.mem_cons_self).2.2 ?_)).1
        rw [List.map_cons] at head
        exact Text.mem_of_mem_head?_intercalate (legible first List.mem_cons_self).1 head
      have kept : ((first :: rest).map String.toList).filter
          (fun part => part ≠ [] ∧ part ≠ ['.']) = (first :: rest).map String.toList := by
        refine List.filter_eq_self.2 fun part member => ?_
        obtain ⟨name, inside, rfl⟩ := List.mem_map.1 member
        rw [decide_eq_true_iff]
        exact ⟨(legible name inside).1, (legible name inside).2.1⟩
      rw [ofString, written, partsOf, anchored, divided, kept, List.map_map]
      exact congrArg (FilePath.mk "") (List.map_id'' (fun name => String.ofList_toList) _)

namespace FileTree

variable {tree made after : FileTree} {path : FilePath} {place start : Location}

namespace WellFormed

theorem entry?_dropLast (sound : tree.WellFormed) (found : tree.entry? place = some .directory) :
    tree.entry? place.dropLast = some .directory := by
  by_cases top : place = []
  · rw [top]
    rfl
  · refine sound.entry?_above (by rw [found]; rfl) (List.dropLast_prefix place) fun same => ?_
    have shorter := congrArg List.length same
    rw [List.length_dropLast] at shorter
    have positive := List.length_pos_of_ne_nil top
    omega

/-- Wherever a path leads, the directory of that place is there. -/
theorem entry?_dropLast_of_follow (sound : tree.WellFormed)
    (started : tree.entry? start = some .directory) {parts : List String}
    (followed : tree.follow start parts = .ok place) :
    tree.entry? place.dropLast = some .directory := by
  rcases List.eq_nil_or_concat parts with rfl | ⟨front, last, rfl⟩
  · obtain rfl := Except.ok.inj followed
    exact sound.entry?_dropLast started
  · rw [List.concat_eq_append, follow_append] at followed
    obtain ⟨middle, _, entered⟩ := except_bind_eq_ok.1 followed
    unfold follow at entered
    split at entered
    · next found =>
        split at entered
        · cases entered
        · obtain rfl := Except.ok.inj entered
          unfold FilePath.enter
          split
          · exact sound.entry?_dropLast (sound.entry?_dropLast found)
          · rw [List.dropLast_concat]
            exact found
    · cases entered
    · cases entered

theorem entry?_start (sound : tree.WellFormed) (path : FilePath) :
    tree.entry? (if path.isAbsolute then [] else tree.workingDirectory) = some .directory := by
  split
  · rfl
  · exact sound.working

/-- The names on the way to a place to which a path leads are names of entries. -/
theorem isEntryName_of_locate (sound : tree.WellFormed) (spelled : path.IsSpelled)
    (located : tree.locate path = .ok place) : ∀ name ∈ place, IsEntryName name := by
  obtain ⟨noNull, rfl⟩ := locate_eq_ok located
  intro name member
  rcases FilePath.mem_of_mem_foldl_enter member with before | inside
  · exact sound.names_of_entry? (by rw [sound.entry?_start]; rfl) name before
  · have down : name ≠ ".." := by
      rintro rfl
      exact sound.double_dot_not_mem_resolveFrom path member
    refine ⟨spelled name inside down, fun null => ?_⟩
    rw [FilePath.hasNull, List.any_eq_false] at noNull
    exact noNull name inside (by simpa using null)

theorem of_makeDirectory (sound : tree.WellFormed) (spelled : path.IsSpelled)
    (makes : tree.makeDirectory path = .ok made) : made.WellFormed := by
  obtain ⟨location, located, free, rfl⟩ := makeDirectory_eq_ok makes
  exact sound.set (sound.isEntryName_of_locate spelled located)
    (sound.entry?_dropLast_of_follow (sound.entry?_start path) (follow_of_locate located))
    (by rw [free]; simp)

/-- Making a directory with those on the way to it keeps a tree well formed. -/
theorem of_ensureDirectory (sound : tree.WellFormed) (spelled : path.IsSpelled) :
    FileTree.WellFormed (tree.ensureDirectory path).2 := by
  refine @relates_ensureDirectoryWith (fun tree made => tree.WellFormed → made.WellFormed)
    FilePath.IsSpelled (fun _ sound => sound) (fun _ _ _ first second sound => second (first sound))
    ?parent ?step _ path spelled tree sound
  case parent =>
    intro path spelled part member
    exact spelled part ((List.dropLast_sublist path.parts).subset member)
  case step =>
    intro path tree made spelled makes sound
    exact sound.of_makeDirectory spelled makes

end WellFormed

/-- A new directory that is kept is still a new one. -/
theorem IsNewDirectory.kept (new : IsNewDirectory tree made path place)
    (keeps : made.KeepsDirectories after) : IsNewDirectory tree after path place :=
  ⟨new.was_free, keeps.directory place new.made, new.on_way⟩

/-- A place is as it was, unless a directory on the way of a path was made there. -/
def KeptBut (path : FilePath) (tree after : FileTree) (place : Location) : Prop :=
  after.entry? place = tree.entry? place ∨ IsNewDirectory tree after path place

/-- Files are gone where that is said, and everything else is kept but for new directories. -/
structure Clears (path : FilePath) (gone : Location → Prop) (tree after : FileTree) : Prop where
  workingDirectory_eq : after.workingDirectory = tree.workingDirectory
  cleared : ∀ place, gone place → after.entry? place = directoryOnly (tree.entry? place) ∨
    IsNewDirectory tree after path place
  kept : ∀ place, ¬ gone place → KeptBut path tree after place

/-- On the way of a path without double dots are only directories above its end. -/
theorem IsNewDirectory.above (new : IsNewDirectory tree after path place)
    (straight : ".." ∉ path.parts) : place <+: path.resolveFrom tree.workingDirectory := by
  obtain ⟨parts, ⟨rest, whole⟩, rfl⟩ := new.on_way
  have plain : ".." ∉ parts := fun member => straight (whole ▸ List.mem_append_left rest member)
  rw [FilePath.resolveFrom, FilePath.resolveFrom, FilePath.foldl_enter_plain _ plain,
    FilePath.foldl_enter_plain _ straight, ← whole, ← List.append_assoc]
  exact List.prefix_append _ rest

end FileTree

namespace Output

open FileTree

variable {output : Output} {tree : FileTree} {directory : Location}

/-- The directory of an output was made, if it was missing, and nothing else was done. -/
structure IsMade (output : Output) (tree made : FileTree) (directory : Location) : Prop where
  sound : made.WellFormed
  way : MakesWay output.directory tree made
  leads : made.LeadsToDirectory output.directory directory

def place (output : Output) (tree : FileTree) : Location :=
  output.directory.resolveFrom tree.workingDirectory

theorem IsMade.directory_eq {made : FileTree} (isMade : output.IsMade tree made directory) :
    directory = output.place tree := by
  rw [place, ← isMade.way.workingDirectory_eq]
  exact isMade.leads.place_eq

def placesIn (directory : Location) (names : List String) : List Location :=
  names.map (fun name => directory ++ [name])

inductive Prepares (output : Output) (tree : FileTree) :
    Run (List FilePath) × FileTree → Prop where
  | unmade {fault : FileFault} {after : FileTree} (way : MakesWay output.directory tree after) :
      Prepares output tree (⟨[], .error (.file fault)⟩, after)
  /-- The path of an entry is too long to be looked up. -/
  | stopped {made : FileTree} {directory : Location} {passed rest : List String} {name : String}
      (isCleaned : output.isCleaned = true) (isMade : output.IsMade tree made directory)
      (listed : made.namesIn output.directory = passed ++ name :: rest)
      (fits : ∀ other ∈ passed,
        placeOf output.directory directory other = .ok (directory ++ [other]))
      (long : placeOf output.directory directory name = .error .nameTooLong) :
      Prepares output tree
        (⟨[], .error (.file .nameTooLong)⟩, made.withoutFiles (placesIn directory passed))
  | kept {made : FileTree} {directory : Location} (isKept : output.isCleaned = false)
      (isMade : output.IsMade tree made directory) :
      Prepares output tree (⟨[], .ok []⟩, made)
  | cleaned {made : FileTree} {directory : Location} {deleted : List FilePath}
      (isCleaned : output.isCleaned = true) (isMade : output.IsMade tree made directory)
      (fits : ∀ name ∈ made.namesIn output.directory,
        placeOf output.directory directory name = .ok (directory ++ [name])) :
      Prepares output tree (⟨[output.cleanedRecord deleted], .ok deleted⟩,
        made.withoutFiles (placesIn directory (made.namesIn output.directory)))

theorem prepares (sound : tree.WellFormed) (spelled : output.directory.IsSpelled) :
    Prepares output tree (output.prepare tree) := by
  have way := makesWay_ensureDirectory tree output.directory
  have here := (houses_ensureDirectory tree output.directory).2
  have soundMade := sound.of_ensureDirectory spelled
  unfold prepare
  rcases ensured : tree.ensureDirectory output.directory with ⟨outcome, made⟩
  rw [ensured] at way here soundMade
  cases outcome with
  | error fault =>
      rw [Action.bind_of_error (FileAction.ensureDirectory_of_error ensured)]
      exact .unmade way
  | ok value =>
      rw [Action.bind_of_ok (FileAction.ensureDirectory_of_ok ensured)]
      obtain ⟨directory, leads⟩ := isDirectory_iff_leads.1 (here rfl)
      have isMade : output.IsMade tree made directory := ⟨soundMade, way, leads⟩
      cases isCleaned : output.isCleaned with
      | false => exact .kept isCleaned isMade
      | true =>
          have looked : (Action.state : FileAction FileTree) made = (⟨[], .ok made⟩, made) := rfl
          rw [if_neg (by decide), Action.bind_of_ok looked]
          have paths : (made.namesIn output.directory).map
              (fun name => output.directory.join ⟨"", [name]⟩) =
                (made.namesIn output.directory).map output.directory.entry := rfl
          rcases FileAction.deleteFiles_cases soundMade leads _
              (fun _ => leads.isEntryName soundMade) with
            ⟨deleted, done, fits⟩ | ⟨passed, name, rest, listed, fits, long, stopped⟩
          · rw [paths, Action.bind_of_ok done]
            exact .cleaned isCleaned isMade fits
          · rw [paths, Action.bind_of_error stopped]
            exact .stopped isCleaned isMade listed fits long

/-- The names in a directory come in their order. -/
theorem pairwise_namesIn (tree : FileTree) (path : FilePath) :
    (tree.namesIn path).Pairwise (· ≤ ·) := by
  unfold namesIn
  refine (List.pairwise_mergeSort ?_ ?_ _).imp (fun ordered => of_decide_eq_true ordered)
  · intro a b c first second
    exact decide_eq_true (String.le_trans (of_decide_eq_true first) (of_decide_eq_true second))
  · intro a b
    rw [Bool.or_eq_true, decide_eq_true_iff, decide_eq_true_iff]
    exact String.le_total a b

namespace IsMade

variable {made : FileTree} (isMade : output.IsMade tree made directory)
include isMade

/-- Files that were deleted are gone, and the rest is as the made directory leaves it. -/
theorem clears {names : List String} {gone : Location → Prop}
    (members : ∀ name ∈ names, gone (directory ++ [name]))
    (only : ∀ place, gone place → place ∈ placesIn directory names ∨ made.entry? place = none) :
    Clears output.directory gone tree (made.withoutFiles (placesIn directory names)) := by
  have keeps := isMade.sound.keepsDirectories_withoutFiles (placesIn directory names)
  refine ⟨keeps.workingDirectory_eq.trans isMade.way.workingDirectory_eq,
    fun place isGone => ?_, fun place stays => ?_⟩
  · rcases isMade.way.entry place with same | new
    · refine .inl ?_
      rw [isMade.sound.entry?_withoutFiles, ← same]
      split
      · rfl
      · next absent => rw [(only place isGone).resolve_left absent]; rfl
    · exact .inr (new.kept keeps)
  · rcases isMade.way.entry place with same | new
    · refine .inl ?_
      rw [isMade.sound.entry?_withoutFiles, ← same, if_neg]
      intro member
      obtain ⟨name, inside, rfl⟩ := List.mem_map.1 member
      exact stays (members name inside)
    · exact .inr (new.kept keeps)

theorem clears_all : Clears output.directory (fun place => ∃ name, place = directory ++ [name])
    tree (made.withoutFiles (placesIn directory (made.namesIn output.directory))) := by
  refine isMade.clears (fun name _ => ⟨name, rfl⟩) ?_
  rintro _ ⟨name, rfl⟩
  by_cases listed : name ∈ made.namesIn output.directory
  · exact .inl (List.mem_map_of_mem listed)
  · exact .inr (Option.not_isSome_iff_eq_none.1 (mt isMade.leads.mem_namesIn.2 listed))

section Passed

variable {passed rest : List String} {name : String}
variable (listed : made.namesIn output.directory = passed ++ name :: rest) (apart : name ∉ passed)
include listed apart

/-- The names before one are the smaller ones. -/
theorem mem_passed_iff {other : String} :
    other ∈ passed ↔ other < name ∧ (made.entry? (directory ++ [other])).isSome = true := by
  have ordered := pairwise_namesIn made output.directory
  rw [listed, List.pairwise_append, List.pairwise_cons] at ordered
  obtain ⟨-, ⟨after, -⟩, before⟩ := ordered
  rw [← isMade.leads.mem_namesIn, listed]
  constructor
  · intro member
    refine ⟨Std.lt_of_le_of_ne (before other member name List.mem_cons_self) ?_,
      List.mem_append_left _ member⟩
    rintro rfl
    exact apart member
  · rintro ⟨earlier, stands⟩
    refine (List.mem_append.1 stands).resolve_right fun later => ?_
    rcases List.mem_cons.1 later with rfl | beyond
    · exact String.lt_irrefl _ earlier
    · exact String.not_le.2 earlier (after other beyond)

/-- Where the cleaning stops at an entry, the files before it in the order of names are gone. -/
theorem clears_before :
    Clears output.directory (fun place => ∃ other, other < name ∧ place = directory ++ [other])
      tree (made.withoutFiles (placesIn directory passed)) := by
  refine isMade.clears (fun other member =>
    ⟨other, ((isMade.mem_passed_iff listed apart).1 member).1, rfl⟩) ?_
  rintro _ ⟨other, earlier, rfl⟩
  by_cases stands : (made.entry? (directory ++ [other])).isSome = true
  · exact .inl (List.mem_map_of_mem ((isMade.mem_passed_iff listed apart).2 ⟨earlier, stands⟩))
  · exact .inr (Option.not_isSome_iff_eq_none.1 stands)

end Passed

end IsMade

/-- The directory is there, without its files if it is cleaned, and everything else is kept. -/
structure IsPrepared (output : Output) (tree after : FileTree) : Prop where
  leads : after.LeadsToDirectory output.directory (output.place tree)
  clears : Clears output.directory
    (fun place => output.isCleaned = true ∧ ∃ name, place = output.place tree ++ [name]) tree after

/--
The cleaning stops at an entry whose path is too long to be looked up.  The files before
it in the order of names are gone, and everything else is kept.
-/
structure StopsAt (output : Output) (tree after : FileTree) (name : String) : Prop where
  isCleaned : output.isCleaned = true
  stands : (after.entry? (output.place tree ++ [name])).isSome = true
  long : placeOf output.directory (output.place tree) name = .error .nameTooLong
  first : ∀ other, other < name → (tree.entry? (output.place tree ++ [other])).isSome = true →
    placeOf output.directory (output.place tree) other = .ok (output.place tree ++ [other])
  clears : Clears output.directory
    (fun place => ∃ other, other < name ∧ place = output.place tree ++ [other]) tree after

variable {records : List Record} {after : FileTree}

theorem Prepares.isPrepared {deleted : List FilePath}
    (prepares : Prepares output tree (⟨records, .ok deleted⟩, after)) :
    output.IsPrepared tree after := by
  cases prepares with
  | kept isKept isMade =>
      obtain rfl := isMade.directory_eq
      refine ⟨isMade.leads, isMade.way.workingDirectory_eq, fun place gone => ?_,
        fun place _ => isMade.way.entry place⟩
      rw [isKept] at gone
      cases gone.1
  | cleaned isCleaned isMade fits =>
      obtain rfl := isMade.directory_eq
      refine ⟨isMade.leads.kept (isMade.sound.keepsDirectories_withoutFiles _), ?_⟩
      have clears := isMade.clears_all
      exact ⟨clears.workingDirectory_eq, fun place gone => clears.cleared place gone.2,
        fun place stays => clears.kept place fun gone => stays ⟨isCleaned, gone⟩⟩

theorem Prepares.unprepared {failure : Failure}
    (prepares : Prepares output tree (⟨records, .error failure⟩, after)) :
    MakesWay output.directory tree after ∨
      (failure = .file .nameTooLong ∧ ∃ name, output.StopsAt tree after name) := by
  cases prepares with
  | unmade way => exact .inl way
  | @stopped made _ passed rest name isCleaned isMade listed fits long =>
      obtain rfl := isMade.directory_eq
      have apart : name ∉ passed := fun member => by
        rw [fits name member] at long
        cases long
      have clears := isMade.clears_before listed apart
      have found : (made.entry? (output.place tree ++ [name])).isSome = true :=
        isMade.leads.mem_namesIn.1 (by simp [listed])
      refine .inr ⟨rfl, name, isCleaned, ?stands, long, fun other earlier stood => ?first, clears⟩
      case stands =>
        rw [isMade.sound.entry?_withoutFiles, if_neg]
        · exact found
        · intro member
          obtain ⟨other, inside, same⟩ := List.mem_map.1 member
          exact apart (List.singleton_inj.1 (List.append_cancel_left same) ▸ inside)
      case first =>
        refine fits other ((isMade.mem_passed_iff listed apart).2 ⟨earlier, ?_⟩)
        rcases isMade.way.entry (output.place tree ++ [other]) with same | new
        · rw [same]
          exact stood
        · rw [new.was_free] at stood
          cases stood

end Output

end SchemaBinding
