import SchemaBinding.Proofs.AlikeTrees
import SchemaBinding.Proofs.Cleaning

/-!
# Overwriting output

What stands at each place after files were written to a directory.  Files of the
same names can be written there once more, and nothing but the texts of these
files changes then.
-/

namespace SchemaBinding

open FileTree (Change Changes)
open FilePath (IsEntryName IsFileName)

namespace FileAction

variable {tree after : FileTree} {records : List Record}

/-- A text is written to a file of a directory that is there, beside its target first. -/
theorem replaceFile_text_eq_ok {path : FilePath} (here : tree.isDirectory path.parent = true)
    {text : String} {value : Unit} :
    replaceFile path (.text text) tree = (⟨records, .ok value⟩, after) ↔
      records = [] ∧ tree.openBeside path = .ok () ∧ tree.moveIntoPlace path text = .ok after := by
  have ensured := ensureDirectory_of_isDirectory here
  have attempts : replaceFile path (.text text) tree =
      (attempt (fun tree => (fun _ => tree) <$> tree.openBeside path) >>= fun _ =>
        attempt (fun tree => tree.moveIntoPlace path text)) tree := by
    rw [replaceFile_text, Action.bind_of_ok ensured]
    rfl
  rw [attempts]
  constructor
  · intro writes
    obtain ⟨_, _, opened, _, opens, moves, rfl⟩ := Action.bind_eq_ok writes
    obtain ⟨rfl, beside, rfl⟩ := attempt_openBeside_eq_ok.1 opens
    obtain ⟨rfl, moved⟩ := attempt_eq_ok.1 moves
    exact ⟨rfl, beside, moved⟩
  · rintro ⟨rfl, opens, moves⟩
    have moved : attempt (fun tree => tree.moveIntoPlace path text) tree =
        (⟨[], .ok value⟩, after) := attempt_eq_ok.2 ⟨rfl, moves⟩
    rw [Action.bind_of_ok (attempt_openBeside_of_ok opens), moved]
    rfl

end FileAction

namespace Output

open FileTree

variable {output : Output} {tree after : FileTree} {directory : Location}
variable {records : List Record}

theorem pathOf_inside (leads : output.directory = .ofLocation directory) {name : String}
    (named : IsFileName name) : output.pathOf name = .ofLocation (directory ++ [name]) := by
  rw [pathOf, FilePath.ofString_of_isFileName named, leads]
  rfl

theorem writeContent_text_eq_ok {path : FilePath} (here : tree.isDirectory path.parent = true)
    {text : String} {value : Unit} :
    output.writeContent path (.text text) tree = (⟨records, .ok value⟩, after) ↔
      records = [] ∧
      (output.isAtomic = true →
        tree.openBeside path = .ok () ∧ path.parts ≠ [] ∧ path.name ≠ "..") ∧
      tree.writeInPlace path text = .ok after := by
  unfold writeContent
  cases output.isAtomic with
  | true =>
      rw [if_pos rfl, FileAction.replaceFile_text_eq_ok here, FileAction.moveIntoPlace_eq_ok]
      simp only [forall_const, and_assoc]
  | false =>
      rw [if_neg Bool.false_ne_true, FileAction.overwriteFile_text, FileAction.attempt_eq_ok]
      simp only [Bool.false_eq_true, false_implies, true_and]

/-- What it takes to write a file of a directory, wherever the directory is. -/
structure Fits (output : Output) (directory : Location) (name : String) : Prop where
  named : IsEntryName name
  place : placeIn directory name = .ok (directory ++ [name])
  opens : output.isAtomic = true →
    ∀ tree : FileTree, tree.openBeside (.ofLocation (directory ++ [name])) = .ok ()

section Inside

variable (plain : ∀ name ∈ directory, IsEntryName name)
variable (leads : output.directory = .ofLocation directory)
variable (here : tree.isDirectory (.ofLocation directory) = true)
variable {name text : String} (named : IsFileName name)
include plain leads here named

theorem writeContent_inside {value : Unit} :
    output.writeContent (output.pathOf name) (.text text) tree = (⟨records, .ok value⟩, after) ↔
      records = [] ∧ output.Fits directory name ∧
      tree.entry? (directory ++ [name]) ≠ some .directory ∧
      after = tree.set (directory ++ [name]) (fileOf text) := by
  have parent : (FilePath.ofLocation (directory ++ [name])).parent = .ofLocation directory := by
    rw [FilePath.parent, FilePath.ofLocation, List.dropLast_concat]
    rfl
  have ends : (FilePath.ofLocation (directory ++ [name])).name = name := by
    rw [FilePath.name, FilePath.ofLocation, List.getLast?_concat]
    rfl
  have inside : tree.isDirectory (FilePath.ofLocation (directory ++ [name])).parent = true :=
    parent ▸ here
  rw [pathOf_inside leads named, writeContent_text_eq_ok inside, FileAction.writeInPlace_eq_ok]
  refine and_congr_right fun _ => ?_
  constructor
  · rintro ⟨opens, location, located, free, rfl⟩
    obtain ⟨rfl, isNamed, fits⟩ := (locate_inside_eq_ok plain named here).1 located
    exact ⟨⟨isNamed, fits, fun isAtomic _ => (opens isAtomic).1⟩, free, rfl⟩
  · rintro ⟨fits, free, rfl⟩
    refine ⟨fun isAtomic => ⟨fits.opens isAtomic tree, by simp [FilePath.ofLocation], ?_⟩,
      _, (locate_inside_eq_ok plain named here).2 ⟨rfl, fits.named, fits.place⟩, free, rfl⟩
    rw [ends]
    exact named.not_above

/-- A text is written to a file of the directory exactly if it fits and no directory is there. -/
theorem write_text_iff {path : FilePath} :
    output.write name (.text text) tree = (⟨records, .ok path⟩, after) ↔
      (path = .ofLocation (directory ++ [name]) ∧ records = [writtenRecord path]) ∧
      output.Fits directory name ∧ tree.entry? (directory ++ [name]) ≠ some .directory ∧
      after = tree.set (directory ++ [name]) (fileOf text) := by
  rw [write_eq]
  constructor
  · intro writes
    obtain ⟨_, _, middle, _, written, reported, rfl⟩ := Action.bind_eq_ok writes
    cases reported
    obtain ⟨rfl, puts⟩ := (writeContent_inside plain leads here named).1 written
    exact ⟨⟨pathOf_inside leads named, rfl⟩, puts⟩
  · rintro ⟨⟨rfl, rfl⟩, written⟩
    have puts : output.writeContent (output.pathOf name) (.text text) tree = (⟨[], .ok ()⟩, after) :=
      (writeContent_inside plain leads here named).2 ⟨rfl, written⟩
    rw [Action.bind_of_ok puts, pathOf_inside leads named]
    rfl

end Inside

def texts (files : List (String × String)) : List (String × Content) :=
  files.map (fun file => (file.1, .text file.2))

def fileAt? (directory : Location) (files : List (String × String)) (place : Location) :
    Option Entry :=
  (files.find? (fun file => directory ++ [file.1] == place)).map (fun file => fileOf file.2)

theorem fileAt?_cons (directory : Location) (file : String × String)
    (rest : List (String × String)) (place : Location) :
    fileAt? directory (file :: rest) place =
      if directory ++ [file.1] = place then some (fileOf file.2)
      else fileAt? directory rest place := by
  unfold fileAt?
  rw [List.find?_cons]
  by_cases here : directory ++ [file.1] = place
  · rw [if_pos here, beq_iff_eq.2 here]
    rfl
  · rw [if_neg here, beq_eq_false_iff_ne.2 here]

theorem fileAt?_eq_none {files : List (String × String)} {name : String}
    (absent : name ∉ files.map Prod.fst) :
    fileAt? directory files (directory ++ [name]) = none := by
  induction files with
  | nil => rfl
  | cons file rest ih =>
      obtain ⟨different, others⟩ := not_or.1 (mt List.mem_cons.2 absent)
      rw [fileAt?_cons, if_neg, ih others]
      exact fun same => different (List.singleton_inj.1 (List.append_cancel_left same)).symm

/-- What stands at the place of a written file is a file. -/
theorem exists_fileAt? {files : List (String × String)} {name : String}
    (member : name ∈ files.map Prod.fst) :
    ∃ text, fileAt? directory files (directory ++ [name]) = some (fileOf text) := by
  induction files with
  | nil => exact absurd member List.not_mem_nil
  | cons file rest ih =>
      rw [fileAt?_cons]
      split
      · exact ⟨file.2, rfl⟩
      · next different =>
          refine ih ((List.mem_cons.1 member).resolve_left fun same => different ?_)
          rw [same]

section Each

variable (plain : ∀ name ∈ directory, IsEntryName name)
variable (leads : output.directory = .ofLocation directory)
include plain leads

/-- Texts are written to files of the directory, the last place for each name, and nothing else. -/
theorem writeEach_texts (sound : tree.WellFormed)
    (here : tree.isDirectory (.ofLocation directory) = true) {files : List (String × String)}
    (named : ∀ file ∈ files, IsFileName file.1) (distinct : (files.map Prod.fst).Nodup)
    {paths : List FilePath}
    (writes : output.writeEach (texts files) tree = (⟨records, .ok paths⟩, after)) :
    (∀ file ∈ files, output.Fits directory file.1) ∧
      paths = files.map (fun file => .ofLocation (directory ++ [file.1])) ∧
      Changes directory tree after ∧
      ∀ place, after.entry? place = (fileAt? directory files place).or (tree.entry? place) := by
  induction files generalizing tree records paths with
  | nil =>
      cases writes
      exact ⟨fun _ member => absurd member List.not_mem_nil, rfl, .refl, fun _ => rfl⟩
  | cons file rest ih =>
      obtain ⟨_, path, middle, _, first, more, rfl⟩ := Action.bind_eq_ok writes
      obtain ⟨_, _, _, _, others, last, rfl⟩ := Action.bind_eq_ok more
      cases last
      obtain ⟨⟨rfl, -⟩, fits, free, rfl⟩ :=
        (write_text_iff plain leads here (named file List.mem_cons_self)).1 first
      have change : Changes directory tree
          (tree.set (directory ++ [file.1]) (fileOf file.2)) :=
        .single (.write _ fits.named (locate_of_isDirectory plain here).2 free)
      obtain ⟨absent, distinctRest⟩ := List.nodup_cons.1 distinct
      obtain ⟨restFits, rfl, changes, entry⟩ := ih (sound.changes plain change)
        (isDirectory_of_changes sound plain change here)
        (fun other member => named other (List.mem_cons_of_mem _ member)) distinctRest others
      refine ⟨List.forall_mem_cons.2 ⟨fits, restFits⟩, rfl, change.trans changes, fun place => ?_⟩
      rw [entry, entry?_set (ne_nil_of_ne_directory free), fileAt?_cons]
      by_cases same : place = directory ++ [file.1]
      · rw [if_pos same, if_pos same.symm, same, fileAt?_eq_none absent]
        rfl
      · rw [if_neg same, if_neg (Ne.symm same)]

/-- Texts can be written to files that fit, where no directory stands. -/
theorem exists_writeEach_texts (sound : tree.WellFormed)
    (here : tree.isDirectory (.ofLocation directory) = true) {files : List (String × String)}
    (fits : ∀ file ∈ files, output.Fits directory file.1)
    (free : ∀ file ∈ files, tree.entry? (directory ++ [file.1]) ≠ some .directory) :
    ∃ after, output.writeEach (texts files) tree =
      (⟨files.map (fun file => writtenRecord (.ofLocation (directory ++ [file.1]))),
        .ok (files.map (fun file => .ofLocation (directory ++ [file.1])))⟩, after) := by
  induction files generalizing tree with
  | nil => exact ⟨tree, rfl⟩
  | cons file rest ih =>
      obtain ⟨fitsFirst, fitsRest⟩ := List.forall_mem_cons.1 fits
      obtain ⟨freeFirst, freeRest⟩ := List.forall_mem_cons.1 free
      have first : output.write file.1 (.text file.2) tree =
          (⟨[writtenRecord (.ofLocation (directory ++ [file.1]))],
            .ok (.ofLocation (directory ++ [file.1]))⟩,
            tree.set (directory ++ [file.1]) (fileOf file.2)) :=
        (write_text_iff plain leads here fitsFirst.named.toIsFileName).2
          ⟨⟨rfl, rfl⟩, fitsFirst, freeFirst, rfl⟩
      have change : Changes directory tree
          (tree.set (directory ++ [file.1]) (fileOf file.2)) :=
        .single (.write _ fitsFirst.named (locate_of_isDirectory plain here).2 freeFirst)
      obtain ⟨after, others⟩ := ih (sound.changes plain change)
        (isDirectory_of_changes sound plain change here) fitsRest (fun other member => by
          rw [entry?_set (ne_nil_of_ne_directory freeFirst)]
          split
          · exact fun isDirectory => by cases isDirectory
          · exact freeRest other member)
      refine ⟨after, ?_⟩
      show (output.write file.1 (.text file.2) >>= fun path =>
        output.writeEach (texts rest) >>= fun paths => pure (path :: paths)) tree = _
      rw [Action.bind_of_ok first, Action.bind_of_ok others]
      simp [pure, Action.pure, Run.pure]

end Each

def leftAt (directory : Location) (isCleaned : Bool) (files : List (String × String))
    (tree : FileTree) (place : Location) : Option Entry :=
  (fileAt? directory files place).or (preparedAt directory isCleaned tree place)

/-- Where something stands after the writing, it was written or stood there before. -/
theorem mem_names_or_of_leftAt {isCleaned : Bool} {files : List (String × String)}
    {name : String}
    (stands : (leftAt directory isCleaned files tree (directory ++ [name])).isSome = true) :
    name ∈ files.map Prod.fst ∨ (tree.entry? (directory ++ [name])).isSome = true := by
  by_cases member : name ∈ files.map Prod.fst
  · exact .inl member
  · refine .inr ?_
    rw [leftAt, fileAt?_eq_none member, Option.none_or, preparedAt, if_neg] at stands
    · split at stands
      · cases entry : tree.entry? (directory ++ [name]) with
        | none =>
            rw [entry] at stands
            cases stands
        | some kind => rfl
      · exact stands
    · exact fun inside => absurd inside.length_le (by simp)

structure Leaves (output : Output) (directory : Location) (files : List (String × String))
    (tree after : FileTree) : Prop where
  fits : ∀ file ∈ files, output.Fits directory file.1
  listed : output.isCleaned = true → ∀ name,
    (tree.entry? (directory ++ [name])).isSome = true →
    placeIn directory name = .ok (directory ++ [name])
  changes : Changes directory tree after
  isDirectory : after.isDirectory (.ofLocation directory) = true
  entry : ∀ place, after.entry? place = leftAt directory output.isCleaned files tree place

section All

variable (sound : tree.WellFormed) (plain : ∀ name ∈ directory, IsEntryName name)
variable (leads : output.directory = .ofLocation directory) {files : List (String × String)}
include sound plain leads

theorem leaves_of_writeAll (named : ∀ file ∈ files, IsFileName file.1)
    (distinct : (files.map Prod.fst).Nodup) {paths : List FilePath}
    (writes : output.writeAll (texts files) tree = (⟨records, .ok paths⟩, after)) :
    paths = files.map (fun file => .ofLocation (directory ++ [file.1])) ∧
      output.Leaves directory files tree after := by
  rw [writeAll_eq_bind] at writes
  obtain ⟨_, deleted, prepared, _, prepares, writesEach, rfl⟩ := Action.bind_eq_ok writes
  obtain ⟨changes, here, entry, listed⟩ := prepare_inside sound plain leads prepares
  have soundPrepared := sound.changes plain changes
  obtain ⟨fits, rfl, more, left⟩ :=
    writeEach_texts plain leads soundPrepared here named distinct writesEach
  refine ⟨rfl, fits, listed, changes.trans more,
    isDirectory_of_changes soundPrepared plain more here, fun place => ?_⟩
  rw [left, entry, leftAt]

/-- Texts for the same files can be written once more. -/
theorem Leaves.exists_writeAll (leaves : output.Leaves directory files tree after)
    {others : List (String × String)} (same : others.map Prod.fst = files.map Prod.fst) :
    ∃ records later, output.writeAll (texts others) after =
      (⟨records, .ok (others.map (fun file => .ofLocation (directory ++ [file.1])))⟩, later) := by
  have soundAfter := sound.changes plain leaves.changes
  have placed : ∀ {name}, name ∈ files.map Prod.fst → output.Fits directory name := by
    intro name member
    obtain ⟨file, inside, rfl⟩ := List.mem_map.1 member
    exact leaves.fits file inside
  obtain ⟨early, deleted, middle, prepares⟩ :=
    exists_prepare soundAfter plain leads leaves.isDirectory fun isCleaned name stands => by
      rw [leaves.entry] at stands
      rcases mem_names_or_of_leftAt stands with written | before
      · exact (placed written).place
      · exact leaves.listed isCleaned name before
  obtain ⟨changes, here, entry, -⟩ := prepare_inside soundAfter plain leads prepares
  have member : ∀ file ∈ others, file.1 ∈ files.map Prod.fst := fun file inside =>
    same ▸ List.mem_map_of_mem inside
  have free : ∀ file ∈ others, middle.entry? (directory ++ [file.1]) ≠ some .directory := by
    intro file inside
    obtain ⟨text, written⟩ : ∃ text, fileAt? directory files (directory ++ [file.1]) =
      some (fileOf text) := exists_fileAt? (member file inside)
    rw [entry, preparedAt, if_neg (fun above => absurd above.length_le (by simp)), leaves.entry,
      leftAt, written]
    split <;> exact fun isDirectory => by cases isDirectory
  obtain ⟨later, writes⟩ := exists_writeEach_texts plain leads
    (soundAfter.changes plain changes) here
    (fun file inside => placed (member file inside)) free
  have result : (output.prepare >>= fun _ => output.writeEach (texts others)) after = _ :=
    Action.bind_of_ok prepares
  rw [writes] at result
  exact ⟨_, later, result⟩

end All

section Again

variable {related : List UInt8 → List UInt8 → Prop} {later : FileTree}
variable {files others : List (String × String)}

def TextsAlike (related : List UInt8 → List UInt8 → Prop) (file other : String × String) : Prop :=
  file.1 = other.1 ∧
    related (Text.Utf8.encode file.2.toList) (Text.Utf8.encode other.2.toList)

theorem optionRel_fileAt? (each : List.Forall₂ (TextsAlike related) files others)
    (place : Location) :
    Option.Rel (Entry.Alike related) (fileAt? directory files place)
      (fileAt? directory others place) := by
  induction each with
  | nil => exact .none
  | cons first _ ih =>
      rw [fileAt?_cons, fileAt?_cons, first.1]
      split
      · exact .some (.file first.2)
      · exact ih

/-- A directory that was written to is prepared already, but for the written files. -/
theorem Leaves.preparedAt_eq (leaves : output.Leaves directory files tree after)
    {place : Location} (unwritten : fileAt? directory files place = none) :
    preparedAt directory output.isCleaned after place = after.entry? place := by
  rw [preparedAt, leaves.entry, leftAt, unwritten, Option.none_or, preparedAt]
  split
  · rfl
  · split
    · exact directoryOnly_directoryOnly _
    · rfl

/-- Where related texts are written once more, each place keeps its entry but for these texts. -/
theorem Leaves.alike (reflexive : ∀ bytes, related bytes bytes)
    (first : output.Leaves directory files tree after)
    (second : output.Leaves directory others after later)
    (each : List.Forall₂ (TextsAlike related) files others) (place : Location) :
    Option.Rel (Entry.Alike related) (after.entry? place) (later.entry? place) := by
  have written : Option.Rel (Entry.Alike related) (fileAt? directory files place)
    (fileAt? directory others place) := optionRel_fileAt? each place
  rw [second.entry, leftAt]
  cases here : fileAt? directory files place with
  | none =>
      rw [here] at written
      cases there : fileAt? directory others place with
      | some entry =>
          rw [there] at written
          cases written
      | none =>
          rw [Option.none_or, first.preparedAt_eq here]
          exact optionRel_refl (Entry.alike_refl reflexive) _
  | some entry =>
      rw [first.entry, leftAt, here]
      rw [here] at written
      cases there : fileAt? directory others place with
      | none =>
          rw [there] at written
          cases written
      | some other =>
          rw [there] at written
          exact written

end Again

end Output

end SchemaBinding
