import SchemaBinding.Proofs.Overwriting
import SchemaBinding.Proofs.Preparation

/-!
# Writing is confined to the output directory

Of the files that are written to a directory, either all are written or those before
the first one that cannot be written.  Nothing else changes but that missing directories
are made on the way and that the files of the directory are deleted where that is asked
for.  Each file is written by way of a temporary file, so that a write that fails leaves
no trace.
-/

namespace SchemaBinding

open FilePath (IsEntryName IsFileName)

namespace FileTree

variable {tree after : FileTree} {directory place : Location}

def withTexts (tree : FileTree) (directory : Location) (written : List (String × String)) :
    FileTree :=
  written.foldl (fun tree file => tree.set (directory ++ [file.1]) (fileOf file.2)) tree

theorem entry?_withTexts {written : List (String × String)}
    (distinct : (written.map Prod.fst).Nodup) (place : Location) :
    FileTree.entry? (tree.withTexts directory written) place =
      (Output.fileAt? directory written place).or (tree.entry? place) := by
  induction written generalizing tree with
  | nil => rfl
  | cons file rest ih =>
      obtain ⟨absent, distinctRest⟩ := List.nodup_cons.1 distinct
      rw [withTexts, List.foldl_cons, ← withTexts, ih distinctRest,
        entry?_set (List.append_ne_nil_of_right_ne_nil _ (by simp)), Output.fileAt?_cons]
      by_cases here : place = directory ++ [file.1]
      · rw [if_pos here, if_pos here.symm, here, Output.fileAt?_eq_none absent]
        rfl
      · rw [if_neg here, if_neg (Ne.symm here)]

theorem keepsDirectories_withTexts {written : List (String × String)}
    (free : ∀ file ∈ written, tree.entry? (directory ++ [file.1]) ≠ some .directory) :
    tree.KeepsDirectories (tree.withTexts directory written) := by
  induction written generalizing tree with
  | nil => exact ⟨rfl, fun _ found => found⟩
  | cons file rest ih =>
      obtain ⟨freeFirst, freeRest⟩ := List.forall_mem_cons.1 free
      refine (keepsDirectories_set freeFirst).trans (ih fun other member => ?_)
      rw [entry?_set (ne_nil_of_ne_directory freeFirst)]
      split
      · exact fun isDirectory => by cases isDirectory
      · exact freeRest other member

/-- A text can be written to a file by way of a temporary file. -/
structure CanReplace (tree : FileTree) (path : FilePath) : Prop where
  opens : tree.openBeside path = .ok ()
  free : ∃ location, tree.locate path = .ok location ∧ tree.entry? location ≠ some .directory

theorem openBeside_congr (path : FilePath) (same : after.workingDirectory = tree.workingDirectory) :
    after.openBeside path = tree.openBeside path := by
  unfold openBeside resolve
  rw [same]

end FileTree

namespace FileAction

variable {tree : FileTree} {path : FilePath} {content : Content}

/-- In a directory that is there, a file is replaced by a text or nothing at all is done. -/
theorem replaceFile_cases (here : tree.isDirectory path.parent = true) (content : Content) :
    (∃ failure, replaceFile path content tree = (⟨[], .error failure⟩, tree)) ∨
    ∃ text location, content = .text text ∧ tree.openBeside path = .ok () ∧
      tree.locate path = .ok location ∧ tree.entry? location ≠ some .directory ∧
      replaceFile path content tree = (⟨[], .ok ()⟩, tree.set location (fileOf text)) := by
  have ensured := ensureDirectory_of_isDirectory here
  by_cases misplaced : content = .misplaced
  · subst misplaced
    exact .inl ⟨_, rfl⟩
  by_cases misnamed : content = .misnamed
  · subst misnamed
    refine .inl ⟨.unencodable, ?_⟩
    rw [replaceFile, if_neg misplaced]
    dsimp only
    rw [Action.bind_of_ok ensured]
    rfl
  rw [replaceFile_eq misplaced misnamed, Action.bind_of_ok ensured]
  cases opens : tree.openBeside path with
  | error fault =>
      refine .inl ⟨.file fault, ?_⟩
      have unopened : attempt (fun tree => (fun _ => tree) <$> tree.openBeside path) tree =
          (⟨[], .error (.file fault)⟩, tree) := attempt_of_error (by rw [opens]; rfl)
      rw [Action.bind_of_error unopened]
      rfl
  | ok value =>
      rw [Action.bind_of_ok (attempt_openBeside_of_ok opens)]
      rcases settle_cases path content tree with
        ⟨failure, settled⟩ | ⟨text, location, isText, located, free, settled⟩
      · exact .inl ⟨failure, by rw [settled]; rfl⟩
      · exact .inr ⟨text, location, isText, rfl, located, free, by rw [settled]; rfl⟩

/-- Where a text can be written, it is. -/
theorem outcome_replaceFile_text (here : tree.isDirectory path.parent = true)
    (can : tree.CanReplace path) (below : path.parts ≠ []) (named : path.name ≠ "..")
    (text : String) : (replaceFile path (.text text) tree).1.outcome = .ok () := by
  obtain ⟨location, located, free⟩ := can.free
  exact replaceFile_text_of_free (FileTree.ensureDirectory_of_isDirectory here) can.opens below
    named located free

end FileAction

namespace Output

open FileTree

variable {output : Output} {tree after : FileTree} {directory : Location}
variable {files : List (String × Content)} {written : List (String × String)}

theorem map_fst_texts (written : List (String × String)) :
    (texts written).map Prod.fst = written.map Prod.fst := by
  rw [texts, List.map_map]
  rfl

theorem mem_texts {file : String × String} (member : file ∈ written) :
    (file.1, .text file.2) ∈ texts written :=
  List.mem_map_of_mem (f := fun file => (file.1, Content.text file.2)) member

theorem pathOf_eq_entry {name : String} (named : IsFileName name) :
    output.pathOf name = output.directory.entry name := by
  rw [pathOf, FilePath.ofString_of_isFileName named, FilePath.entry]

theorem isDirectory_parent_pathOf (leads : tree.LeadsToDirectory output.directory directory)
    {name : String} (named : IsFileName name) :
    tree.isDirectory (output.pathOf name).parent = true := by
  rw [pathOf_eq_entry named, FilePath.parent_entry]
  exact isDirectory_iff_leads.2 ⟨directory, leads⟩

/-- The place to which the path of a file of the directory leads, if it leads anywhere. -/
theorem locate_pathOf (leads : tree.LeadsToDirectory output.directory directory)
    {name : String} (named : IsFileName name) {location : Location}
    (located : tree.locate (output.pathOf name) = .ok location) :
    location = directory ++ [name] := by
  rw [(locate_eq_ok located).2, resolveFrom_pathOf named, ← leads.place_eq]

/-- Whether a text can be written depends on the names alone and on whether a directory is there. -/
theorem canReplace_iff (leads : tree.LeadsToDirectory output.directory directory) {name : String}
    (named : IsFileName name) :
    tree.CanReplace (output.pathOf name) ↔ tree.openBeside (output.pathOf name) = .ok () ∧
      IsEntryName name ∧ placeOf output.directory directory name = .ok (directory ++ [name]) ∧
      tree.entry? (directory ++ [name]) ≠ some .directory := by
  rw [pathOf_eq_entry named]
  constructor
  · rintro ⟨opens, location, located, free⟩
    have isNamed : IsEntryName name := by
      refine ⟨named, fun null => ?_⟩
      have noNull := (locate_eq_ok located).1
      rw [FilePath.hasNull, List.any_eq_false] at noNull
      exact noNull name (by simp [FilePath.parts_entry]) (by simpa using null)
    have fits := (placeOf_cases output.directory directory name).resolve_right fun long => by
      rw [leads.locate_entry isNamed, long] at located
      cases located
    rw [leads.locate_entry isNamed, fits] at located
    obtain rfl := Except.ok.inj located
    exact ⟨opens, isNamed, fits, free⟩
  · rintro ⟨opens, isNamed, fits, free⟩
    exact ⟨opens, _, (leads.locate_entry isNamed).trans fits, free⟩

theorem canReplace_congr (leads : tree.LeadsToDirectory output.directory directory)
    (keeps : tree.KeepsDirectories after) {name : String} (named : IsFileName name)
    (same : after.entry? (directory ++ [name]) = some .directory ↔
      tree.entry? (directory ++ [name]) = some .directory) :
    after.CanReplace (output.pathOf name) ↔ tree.CanReplace (output.pathOf name) := by
  rw [canReplace_iff (leads.kept keeps) named, canReplace_iff leads named,
    openBeside_congr _ keeps.workingDirectory_eq, ne_eq, same]

section Atomic

variable (isAtomic : output.isAtomic = true)
include isAtomic

theorem writeContent_of_isAtomic (path : FilePath) (content : Content) :
    output.writeContent path content = FileAction.replaceFile path content := by
  rw [writeContent, isAtomic]
  rfl

/-- A file of a directory that is there is replaced by a text, or nothing at all is done. -/
theorem write_cases (leads : tree.LeadsToDirectory output.directory directory) {name : String}
    (named : IsFileName name) (content : Content) :
    (∃ failure, output.write name content tree = (⟨[], .error failure⟩, tree)) ∨
    ∃ text, content = .text text ∧ tree.CanReplace (output.pathOf name) ∧
      tree.entry? (directory ++ [name]) ≠ some .directory ∧
      output.write name content tree =
        (⟨[writtenRecord (output.pathOf name)], .ok (output.pathOf name)⟩,
          tree.set (directory ++ [name]) (fileOf text)) := by
  rw [write_eq, writeContent_of_isAtomic isAtomic]
  rcases FileAction.replaceFile_cases (isDirectory_parent_pathOf leads named) content with
    ⟨failure, failed⟩ | ⟨text, location, isText, opens, located, free, replaced⟩
  · exact .inl ⟨failure, by rw [Action.bind_of_error failed]⟩
  · obtain rfl := locate_pathOf leads named located
    refine .inr ⟨text, isText, ⟨opens, _, located, free⟩, free, ?_⟩
    rw [Action.bind_of_ok replaced]
    rfl

/-- A write that succeeds keeps all directories. -/
theorem keepsDirectories_of_write (leads : tree.LeadsToDirectory output.directory directory)
    {name : String} (named : IsFileName name) {content : Content} {records : List Record}
    {path : FilePath} (written : output.write name content tree = (⟨records, .ok path⟩, after)) :
    tree.KeepsDirectories after := by
  rcases write_cases isAtomic leads named content with
    ⟨failure, failed⟩ | ⟨text, _, _, free, done⟩
  · rw [failed] at written
    cases written
  · rw [done] at written
    obtain rfl := congrArg Prod.snd written
    exact keepsDirectories_set free

inductive WritesEach (output : Output) (directory : Location) (files : List (String × Content))
    (tree : FileTree) : Run (List FilePath) × FileTree → Prop where
  | all (written : List (String × String)) {records : List Record} (isTexts : files = texts written)
      (can : ∀ file ∈ written, tree.CanReplace (output.pathOf file.1))
      (free : ∀ file ∈ written, tree.entry? (directory ++ [file.1]) ≠ some .directory) :
      WritesEach output directory files tree
        (⟨records, .ok (files.map fun file => output.pathOf file.1)⟩,
          tree.withTexts directory written)
  /-- A file cannot be written; those before it are. -/
  | stopped (written : List (String × String)) {failing : String × Content}
      {rest : List (String × Content)} {records : List Record} {failure : Failure}
      (split : files = texts written ++ failing :: rest)
      (free : ∀ file ∈ written, tree.entry? (directory ++ [file.1]) ≠ some .directory)
      (fails : output.write failing.1 failing.2 (tree.withTexts directory written) =
        (⟨[], .error failure⟩, tree.withTexts directory written)) :
      WritesEach output directory files tree
        (⟨records, .error failure⟩, tree.withTexts directory written)

omit isAtomic in
/-- A file that is written is no directory, and nothing else becomes one or ceases to be one. -/
theorem isDirectory_set_iff {name : String}
    (free : tree.entry? (directory ++ [name]) ≠ some .directory) (text other : String) :
    FileTree.entry? (tree.set (directory ++ [name]) (fileOf text)) (directory ++ [other]) =
        some .directory ↔ tree.entry? (directory ++ [other]) = some .directory := by
  rw [entry?_set (ne_nil_of_ne_directory free)]
  split
  · next here => exact iff_of_false (fun isDirectory => by cases isDirectory) (here ▸ free)
  · rfl

/-- All files are written, or those before the first one that cannot be written. -/
theorem writesEach (leads : tree.LeadsToDirectory output.directory directory)
    (named : ∀ file ∈ files, IsFileName file.1) :
    WritesEach output directory files tree (output.writeEach files tree) := by
  induction files generalizing tree with
  | nil =>
      exact .all [] rfl (fun _ member => absurd member List.not_mem_nil)
        (fun _ member => absurd member List.not_mem_nil)
  | cons file rest ih =>
      obtain ⟨name, content⟩ := file
      obtain ⟨namedFirst, namedRest⟩ := List.forall_mem_cons.1 named
      have steps : output.writeEach ((name, content) :: rest) =
          (output.write name content >>= fun path =>
            output.writeEach rest >>= fun paths => pure (path :: paths)) := rfl
      rw [steps]
      rcases write_cases isAtomic leads namedFirst content with
        ⟨failure, failed⟩ | ⟨text, rfl, can, free, done⟩
      · rw [Action.bind_of_error failed]
        exact .stopped [] rfl
          (fun _ member => absurd member List.not_mem_nil) failed
      · have keeps : tree.KeepsDirectories (tree.set (directory ++ [name]) (fileOf text)) :=
          keepsDirectories_set free
        have same := isDirectory_set_iff free text
        have later := ih (leads.kept keeps) namedRest
        rw [Action.bind_of_ok done]
        rcases result : output.writeEach rest (tree.set (directory ++ [name]) (fileOf text)) with
          ⟨⟨records, outcome⟩, after⟩
        rw [result] at later
        cases later with
        | all written isTexts canRest freeRest =>
            rw [Action.bind_of_ok result]
            subst isTexts
            refine .all ((name, text) :: written) rfl
              (List.forall_mem_cons.2 ⟨can, fun other member => ?_⟩)
              (List.forall_mem_cons.2 ⟨free, fun other member => mt (same other.1).2
                (freeRest other member)⟩)
            have plain : IsFileName other.1 := namedRest _ (mem_texts member)
            exact (canReplace_congr leads keeps plain (same other.1)).1 (canRest other member)
        | @stopped written failing others _ failure split freeWritten fails =>
            rw [Action.bind_of_error result]
            subst split
            exact .stopped ((name, text) :: written) rfl
              (List.forall_mem_cons.2 ⟨free, fun other member =>
                mt (same other.1).2 (freeWritten other member)⟩) fails

end Atomic

/-- What files that were written to a directory leave. -/
structure WritesOnly (output : Output) (files : List (String × Content)) (tree after : FileTree) :
    Prop where
  workingDirectory_eq : after.workingDirectory = tree.workingDirectory
  leads : after.LeadsToDirectory output.directory (output.place tree)
  written : ∀ file ∈ files, ∃ text, file.2 = .text text ∧
    after.entry? (output.place tree ++ [file.1]) = some (fileOf text) ∧
    after.read (output.pathOf file.1) = .ok (Text.Utf8.encode text.toList)
  /-- Everything outside the directory is kept, besides new directories on the way to it. -/
  outside : ∀ place, ¬ output.place tree <+: place → KeptBut output.directory tree after place
  /-- Every subdirectory is kept with all that stands below it. -/
  subdirectories : ∀ name rest, tree.entry? (output.place tree ++ [name]) = some .directory →
    KeptBut output.directory tree after (output.place tree ++ name :: rest)
  /-- The other files of the directory are kept, or they are gone if it is cleaned. -/
  others : ∀ name bytes, name ∉ files.map Prod.fst →
    tree.entry? (output.place tree ++ [name]) = some (.file bytes) →
    after.entry? (output.place tree ++ [name]) =
      if output.isCleaned then none else some (.file bytes)
  /-- Nothing changes below the entries of the directory, whatever they are. -/
  below : ∀ name next rest,
    KeptBut output.directory tree after (output.place tree ++ name :: next :: rest)
  /-- Nothing else is new. -/
  missing : ∀ name, name ∉ files.map Prod.fst →
    tree.entry? (output.place tree ++ [name]) = none →
    KeptBut output.directory tree after (output.place tree ++ [name])

/-- Only the directory of an output changes when files are written to it. -/
structure Confines (output : Output) (files : List (String × Content)) (tree : FileTree) :
    Prop where
  succeeds : ∀ paths, (output.writeAll files tree).1.outcome = .ok paths →
    paths = files.map (fun file => output.pathOf file.1) ∧
      output.WritesOnly files tree (output.writeAll files tree).2
  /-- Texts are written where the directory can be prepared and no file is in the way. -/
  succeeds_iff : (∃ paths, (output.writeAll files tree).1.outcome = .ok paths) ↔
    (∃ deleted, (output.prepare tree).1.outcome = .ok deleted) ∧
      ∀ file ∈ files, (∃ text, file.2 = .text text) ∧
        FileTree.CanReplace (output.prepare tree).2 (output.pathOf file.1)
  /-- If a file cannot be written, the prepared directory holds exactly those before it. -/
  stops : ∀ deleted failure, (output.prepare tree).1.outcome = .ok deleted →
    (output.writeAll files tree).1.outcome = .error failure →
    ∃ written failing rest, files = texts written ++ failing :: rest ∧
      output.write failing.1 failing.2 (output.writeAll files tree).2 =
        (⟨[], .error failure⟩, (output.writeAll files tree).2) ∧
      (∀ file ∈ written,
        FileTree.entry? (output.prepare tree).2 (output.place tree ++ [file.1]) ≠
          some .directory) ∧
      FileTree.workingDirectory (output.writeAll files tree).2 = tree.workingDirectory ∧
      ∀ place, FileTree.entry? (output.writeAll files tree).2 place =
        (fileAt? (output.place tree) written place).or
          (FileTree.entry? (output.prepare tree).2 place)
  prepared : ∀ deleted, (output.prepare tree).1.outcome = .ok deleted →
    output.IsPrepared tree (output.prepare tree).2
  /-- Where the directory cannot be prepared, nothing is written. -/
  unprepared : ∀ failure, (output.prepare tree).1.outcome = .error failure →
    output.writeAll files tree =
      (⟨(output.prepare tree).1.records, .error failure⟩, (output.prepare tree).2) ∧
    (MakesWay output.directory tree (output.prepare tree).2 ∨
      (failure = .file .nameTooLong ∧ ∃ name, output.StopsAt tree (output.prepare tree).2 name))
  /-- On the way of a path without double dots are only the directory and those above it. -/
  straight : ".." ∉ output.directory.parts → ∀ after place,
    IsNewDirectory tree after output.directory place → place <+: output.place tree

theorem fileAt?_eq_none_of_forall {place : Location}
    (apart : ∀ file ∈ written, place ≠ directory ++ [file.1]) :
    fileAt? directory written place = none := by
  induction written with
  | nil => rfl
  | cons file rest ih =>
      obtain ⟨apartFirst, apartRest⟩ := List.forall_mem_cons.1 apart
      rw [fileAt?_cons, if_neg (Ne.symm apartFirst), ih apartRest]

theorem fileAt?_of_mem (distinct : (written.map Prod.fst).Nodup) {file : String × String}
    (member : file ∈ written) :
    fileAt? directory written (directory ++ [file.1]) = some (fileOf file.2) := by
  induction written with
  | nil => exact absurd member List.not_mem_nil
  | cons first rest ih =>
      obtain ⟨absent, distinctRest⟩ := List.nodup_cons.1 distinct
      rw [fileAt?_cons]
      rcases List.mem_cons.1 member with rfl | later
      · exact if_pos rfl
      · rw [if_neg, ih distinctRest later]
        intro same
        refine absent ?_
        rw [List.singleton_inj.1 (List.append_cancel_left same)]
        exact List.mem_map_of_mem later

namespace IsPrepared

variable {prepared : FileTree} (isPrepared : output.IsPrepared tree prepared)
include isPrepared

theorem keepsDirectories : tree.KeepsDirectories prepared where
  workingDirectory_eq := isPrepared.clears.workingDirectory_eq
  directory place found := by
    by_cases gone : output.isCleaned = true ∧ ∃ name, place = output.place tree ++ [name]
    · rcases isPrepared.clears.cleared place gone with cleared | new
      · rw [cleared, found]
        rfl
      · exact new.made
    · rcases isPrepared.clears.kept place gone with same | new
      · exact same.trans found
      · exact new.made

/-- An entry of the directory is kept, but a file is gone if the directory is cleaned. -/
theorem entry?_direct (name : String) :
    prepared.entry? (output.place tree ++ [name]) =
      (if output.isCleaned then directoryOnly (tree.entry? (output.place tree ++ [name]))
        else tree.entry? (output.place tree ++ [name])) ∨
      IsNewDirectory tree prepared output.directory (output.place tree ++ [name]) := by
  cases isCleaned : output.isCleaned with
  | true => exact isPrepared.clears.cleared _ ⟨isCleaned, name, rfl⟩
  | false =>
      refine isPrepared.clears.kept _ fun gone => ?_
      rw [isCleaned] at gone
      cases gone.1

section Written

variable (distinct : (written.map Prod.fst).Nodup)
include distinct

omit isPrepared in
/-- A place that is no target is as in the prepared directory. -/
theorem entry?_withTexts_of_ne {place : Location}
    (apart : ∀ file ∈ written, place ≠ directory ++ [file.1]) :
    FileTree.entry? (prepared.withTexts directory written) place = prepared.entry? place := by
  rw [entry?_withTexts distinct, fileAt?_eq_none_of_forall apart]
  rfl

omit isPrepared in
theorem entry?_withTexts_of_not_mem {name : String} (absent : name ∉ written.map Prod.fst) :
    FileTree.entry? (prepared.withTexts directory written) (directory ++ [name]) =
      prepared.entry? (directory ++ [name]) := by
  refine entry?_withTexts_of_ne distinct fun file member here => absent ?_
  rw [List.singleton_inj.1 (List.append_cancel_left here)]
  exact List.mem_map_of_mem member

omit isPrepared in
theorem entry?_withTexts_of_mem {name text : String} (member : (name, text) ∈ written) :
    FileTree.entry? (prepared.withTexts directory written) (directory ++ [name]) =
      some (fileOf text) := by
  rw [entry?_withTexts distinct, fileAt?_of_mem distinct member]
  rfl

variable (free : ∀ file ∈ written,
  prepared.entry? (output.place tree ++ [file.1]) ≠ some .directory)
include free

/-- A text that was written is read again. -/
theorem read_withTexts {name text : String} (member : (name, text) ∈ written)
    (named : IsFileName name) (can : prepared.CanReplace (output.pathOf name)) :
    FileTree.read (prepared.withTexts (output.place tree) written) (output.pathOf name) =
      .ok (Text.Utf8.encode text.toList) := by
  obtain ⟨location, located, -⟩ := can.free
  obtain rfl := locate_pathOf isPrepared.leads named located
  rw [FileTree.read, (keepsDirectories_withTexts free).locate located]
  simp only [bind, Except.bind, entry?_withTexts_of_mem distinct member]
  rfl

/-- What does not stand directly in the directory is kept. -/
theorem keptBut_withTexts {place : Location}
    (apart : ∀ name, place ≠ output.place tree ++ [name]) :
    KeptBut output.directory tree (prepared.withTexts (output.place tree) written) place := by
  rcases isPrepared.clears.kept place fun ⟨_, name, here⟩ => apart name here with unchanged | new
  · exact .inl ((entry?_withTexts_of_ne distinct fun file _ => apart file.1).trans unchanged)
  · exact .inr (new.kept (keepsDirectories_withTexts free))

theorem keptBut_withTexts_below (name next : String) (rest : List String) :
    KeptBut output.directory tree (prepared.withTexts (output.place tree) written)
      (output.place tree ++ name :: next :: rest) := by
  refine isPrepared.keptBut_withTexts distinct free fun other here => ?_
  cases List.append_cancel_left here

/-- What is written to a prepared directory leaves everything else as it is there. -/
theorem writesOnly (named : ∀ file ∈ written, IsFileName file.1)
    (can : ∀ file ∈ written, prepared.CanReplace (output.pathOf file.1)) :
    output.WritesOnly (texts written) tree
      (prepared.withTexts (output.place tree) written) := by
  have keeps := keepsDirectories_withTexts free
  constructor
  case workingDirectory_eq =>
    exact keeps.workingDirectory_eq.trans isPrepared.clears.workingDirectory_eq
  case leads => exact isPrepared.leads.kept keeps
  case written =>
    intro file member
    obtain ⟨⟨name, text⟩, inside, rfl⟩ := List.mem_map.1 member
    exact ⟨text, rfl, entry?_withTexts_of_mem distinct inside, isPrepared.read_withTexts distinct
      free inside (named (name, text) inside) (can (name, text) inside)⟩
  case outside =>
    intro place outside
    refine isPrepared.keptBut_withTexts distinct free ?_
    rintro name rfl
    exact outside (List.prefix_append _ _)
  case subdirectories =>
    intro name rest found
    cases rest with
    | nil => exact .inl ((keeps.directory _ (isPrepared.keepsDirectories.directory _ found)).trans
        found.symm)
    | cons next more => exact isPrepared.keptBut_withTexts_below distinct free name next more
  case others =>
    intro name bytes absent found
    rw [map_fst_texts] at absent
    rw [entry?_withTexts_of_not_mem distinct absent]
    rcases isPrepared.entry?_direct name with kept | new
    · rw [kept, found]
      rfl
    · rw [new.was_free] at found
      cases found
  case below => exact isPrepared.keptBut_withTexts_below distinct free
  case missing =>
    intro name absent found
    rw [map_fst_texts] at absent
    rcases isPrepared.entry?_direct name with kept | new
    · refine .inl ((entry?_withTexts_of_not_mem distinct absent).trans ?_)
      rw [kept, found]
      exact ite_self none
    · exact .inr (new.kept keeps)

end Written

end IsPrepared

section Ends

variable {records : List Record} {prepared : FileTree}

/-- A text is written where it can replace a file. -/
theorem exists_write_of_canReplace (isAtomic : output.isAtomic = true)
    (leads : tree.LeadsToDirectory output.directory directory) {name : String}
    (named : IsFileName name) (can : tree.CanReplace (output.pathOf name)) (text : String) :
    ∃ path, (output.write name (.text text) tree).1.outcome = .ok path := by
  have replaced : (FileAction.replaceFile (output.pathOf name) (.text text) tree).1.outcome =
      .ok () := by
    refine FileAction.outcome_replaceFile_text (isDirectory_parent_pathOf leads named) can ?_ ?_
      text
    · rw [pathOf_eq_entry named, FilePath.parts_entry]
      exact List.concat_ne_nil _ _
    · rw [pathOf_eq_entry named, FilePath.name_entry]
      exact named.not_above
  rcases result : FileAction.replaceFile (output.pathOf name) (.text text) tree with
    ⟨⟨records, outcome⟩, after⟩
  rw [result] at replaced
  obtain rfl : outcome = .ok () := replaced
  rw [write_eq, writeContent_of_isAtomic isAtomic, Action.bind_of_ok result]
  exact ⟨_, rfl⟩

theorem confines_of_unprepared {failure : Failure}
    (given : output.prepare tree = (⟨records, .error failure⟩, prepared))
    (prepares : Prepares output tree (⟨records, .error failure⟩, prepared))
    (straight : ".." ∉ output.directory.parts → ∀ after place,
      IsNewDirectory tree after output.directory place → place <+: output.place tree) :
    output.Confines files tree := by
  have fails : output.writeAll files tree = (⟨records, .error failure⟩, prepared) :=
    Action.bind_of_error given
  have unmade : ∀ deleted, (output.prepare tree).1.outcome ≠ .ok deleted := by
    intro deleted succeeds
    rw [given] at succeeds
    cases succeeds
  have unwritten : ∀ paths, (output.writeAll files tree).1.outcome ≠ .ok paths := by
    intro paths succeeds
    rw [fails] at succeeds
    cases succeeds
  refine ⟨fun paths succeeds => absurd succeeds (unwritten paths), ?_,
    fun deleted _ succeeds => absurd succeeds (unmade deleted),
    fun deleted succeeds => absurd succeeds (unmade deleted), fun other failed => ?_, straight⟩
  · exact iff_of_false (fun ⟨paths, succeeds⟩ => unwritten paths succeeds)
      (fun ⟨⟨deleted, succeeds⟩, _⟩ => unmade deleted succeeds)
  · rw [given] at failed ⊢
    obtain rfl := Except.error.inj failed
    exact ⟨fails, prepares.unprepared⟩

namespace IsPrepared

variable (isPrepared : output.IsPrepared tree prepared) {deleted : List FilePath}

include isPrepared in
/-- What was written before does not touch the file that fails: it could not be written at first. -/
theorem not_canReplace_of_write_error (isAtomic : output.isAtomic = true) {name text : String}
    {failure : Failure} (named : IsFileName name) (distinct : (written.map Prod.fst).Nodup)
    (absent : name ∉ written.map Prod.fst)
    (free : ∀ file ∈ written,
      prepared.entry? (output.place tree ++ [file.1]) ≠ some .directory)
    (fails : output.write name (.text text) (prepared.withTexts (output.place tree) written) =
      (⟨[], .error failure⟩, prepared.withTexts (output.place tree) written)) :
    ¬ prepared.CanReplace (output.pathOf name) := by
  intro can
  have keeps := keepsDirectories_withTexts free
  have canStill := (canReplace_congr isPrepared.leads keeps named
    (by rw [entry?_withTexts_of_not_mem distinct absent])).2 can
  obtain ⟨path, done⟩ := exists_write_of_canReplace isAtomic (isPrepared.leads.kept keeps) named
    canStill text
  rw [fails] at done
  cases done

variable (given : output.prepare tree = (⟨records, .ok deleted⟩, prepared))
variable (straight : ".." ∉ output.directory.parts → ∀ after place,
  IsNewDirectory tree after output.directory place → place <+: output.place tree)
include isPrepared given straight

theorem confines_of_written {written : List (String × String)} {moreRecords : List Record}
    (whole : output.writeAll (texts written) tree =
      (⟨moreRecords, .ok ((texts written).map fun file => output.pathOf file.1)⟩,
        prepared.withTexts (output.place tree) written))
    (named : ∀ file ∈ written, IsFileName file.1) (distinct : (written.map Prod.fst).Nodup)
    (can : ∀ file ∈ written, prepared.CanReplace (output.pathOf file.1))
    (free : ∀ file ∈ written,
      prepared.entry? (output.place tree ++ [file.1]) ≠ some .directory) :
    output.Confines (texts written) tree where
  succeeds paths succeeds := by
    rw [whole] at succeeds ⊢
    exact ⟨(Except.ok.inj succeeds).symm, isPrepared.writesOnly distinct free named can⟩
  succeeds_iff := by
    rw [whole, given]
    refine iff_of_true ⟨_, rfl⟩ ⟨⟨deleted, rfl⟩, fun file member => ?_⟩
    obtain ⟨⟨name, text⟩, inside, rfl⟩ := List.mem_map.1 member
    exact ⟨⟨text, rfl⟩, can (name, text) inside⟩
  stops _ _ _ fails := by
    rw [whole] at fails
    cases fails
  prepared _ _ := by
    rw [given]
    exact isPrepared
  unprepared _ fails := by
    rw [given] at fails
    cases fails
  straight := straight

theorem confines_of_stopped (isAtomic : output.isAtomic = true)
    {written : List (String × String)} {failing : String × Content}
    {rest : List (String × Content)} {moreRecords : List Record} {failure : Failure}
    (split : files = texts written ++ failing :: rest)
    (whole : output.writeAll files tree =
      (⟨moreRecords, .error failure⟩, prepared.withTexts (output.place tree) written))
    (named : IsFileName failing.1) (distinct : (written.map Prod.fst).Nodup)
    (absent : failing.1 ∉ written.map Prod.fst)
    (free : ∀ file ∈ written,
      prepared.entry? (output.place tree ++ [file.1]) ≠ some .directory)
    (fails : output.write failing.1 failing.2 (prepared.withTexts (output.place tree) written) =
      (⟨[], .error failure⟩, prepared.withTexts (output.place tree) written)) :
    output.Confines files tree := by
  have keeps := keepsDirectories_withTexts free
  have workingDirectory_eq :=
    keeps.workingDirectory_eq.trans isPrepared.clears.workingDirectory_eq
  have unwritten : ∀ paths, (output.writeAll files tree).1.outcome ≠ .ok paths := by
    intro paths succeeds
    rw [whole] at succeeds
    cases succeeds
  refine ⟨fun paths succeeds => absurd succeeds (unwritten paths), ?_, fun _ other _ failed => ?_,
    fun _ _ => ?_, fun _ failed => ?_, straight⟩
  · refine iff_of_false (fun ⟨paths, succeeds⟩ => unwritten paths succeeds) fun ⟨_, all⟩ => ?_
    have isLater : failing ∈ files := by
      rw [split]
      exact List.mem_append_right _ List.mem_cons_self
    obtain ⟨⟨text, isText⟩, can⟩ := all failing isLater
    rw [given] at can
    rw [isText] at fails
    exact isPrepared.not_canReplace_of_write_error isAtomic named distinct absent free fails can
  · rw [whole] at failed ⊢
    rw [given]
    obtain rfl := Except.error.inj failed
    exact ⟨written, failing, rest, split, fails, free, workingDirectory_eq, entry?_withTexts distinct⟩
  · rw [given]
    exact isPrepared
  · rw [given] at failed
    cases failed

theorem confines_of_prepared (isAtomic : output.isAtomic = true)
    (named : ∀ file ∈ files, IsFileName file.1) (distinct : (files.map Prod.fst).Nodup) :
    output.Confines files tree := by
  have each := writesEach isAtomic isPrepared.leads named
  have whole : output.writeAll files tree =
      (⟨records ++ (output.writeEach files prepared).1.records,
        (output.writeEach files prepared).1.outcome⟩, (output.writeEach files prepared).2) :=
    Action.bind_of_ok given
  generalize output.writeEach files prepared = result at each whole
  cases each with
  | all written isTexts can free =>
      subst isTexts
      rw [map_fst_texts] at distinct
      exact isPrepared.confines_of_written given straight whole
        (fun file member => named _ (mem_texts member)) distinct can free
  | @stopped written failing rest _ failure split free fails =>
      have isLater : failing ∈ files := by
        rw [split]
        exact List.mem_append_right _ List.mem_cons_self
      rw [split, List.map_append, List.nodup_append, map_fst_texts] at distinct
      obtain ⟨distinctWritten, -, apart⟩ := distinct
      have absent : failing.1 ∉ written.map Prod.fst := fun member =>
        apart _ member _ (by rw [List.map_cons]; exact List.mem_cons_self) rfl
      exact isPrepared.confines_of_stopped given straight isAtomic split whole
        (named failing isLater) distinctWritten absent free fails

end IsPrepared

end Ends

/--
In every tree, for every directory, whether it is cleaned or not, and for all contents
under different names: writing them changes only the files of these names, those that
are deleted, and directories that are missing on the way.
-/
theorem confines (sound : tree.WellFormed) (directory : String) (isCleaned : Bool)
    (named : ∀ file ∈ files, IsFileName file.1) (distinct : (files.map Prod.fst).Nodup) :
    (Output.mk (.ofString directory) isCleaned true).Confines files tree := by
  generalize leadsBy : Output.mk (.ofString directory) isCleaned true = output
  have isAtomic : output.isAtomic = true := by rw [← leadsBy]
  have spelled : output.directory.IsSpelled := by
    rw [← leadsBy]
    exact FilePath.isSpelled_ofString directory
  have straight : ".." ∉ output.directory.parts → ∀ after place,
      IsNewDirectory tree after output.directory place → place <+: output.place tree :=
    fun plain _ _ new => new.above plain
  have ends := prepares sound spelled
  rcases given : output.prepare tree with ⟨⟨records, outcome⟩, prepared⟩
  rw [given] at ends
  cases outcome with
  | error failure => exact confines_of_unprepared given ends straight
  | ok deleted => exact ends.isPrepared.confines_of_prepared given straight isAtomic named distinct

/-- A directory with a file and a subdirectory in which there is a file of the same name. -/
def shelfTree : FileTree where
  entries := [(["out"], .directory), (["out", "old.cs"], .file [65]),
    (["out", "kept"], .directory), (["out", "kept", "old.cs"], .file [66])]
  workingDirectory := []

theorem wellFormed_shelfTree : shelfTree.WellFormed := by decide

/-- One of two files has no text, and the file that was there is deleted before. -/
theorem confines_shelf :
    shelfTree.WellFormed ∧
      (∀ file ∈ [("Lamp.cs", Content.text "class Lamp"), ("Bulb.cs", .absent)],
        IsFileName file.1) ∧
      ([("Lamp.cs", Content.text "class Lamp"), ("Bulb.cs", .absent)].map Prod.fst).Nodup ∧
      (Output.mk (.ofString "out") true true).Confines
        [("Lamp.cs", .text "class Lamp"), ("Bulb.cs", .absent)] shelfTree :=
  ⟨wellFormed_shelfTree, by decide, by decide,
    confines wellFormed_shelfTree "out" true (by decide) (by decide)⟩

def wideName : String := String.ofList (List.replicate 250 'n')

def longName : String := String.ofList (List.replicate 40 'z')

/-- A path of 4060 letters into a directory and out of it again. -/
def windingPath : FilePath :=
  ⟨"", (List.replicate 15 [wideName, ".."]).flatten ++ [wideName]⟩

/-- Below the winding path only the first of the two files can be looked up. -/
def windingTree : FileTree where
  entries := [([wideName], .directory), ([wideName, "a"], .file []),
    ([wideName, longName], .file [])]
  workingDirectory := []

theorem isEntryName_wideName : IsEntryName wideName :=
  FilePath.isEntryName_replicate (by decide) (by decide)

theorem wellFormed_windingTree : windingTree.WellFormed := by
  refine ⟨fun item member => ?_, by decide +kernel, rfl⟩
  have wide := isEntryName_wideName
  have long : IsEntryName longName := FilePath.isEntryName_replicate (by decide) (by decide)
  have short : IsEntryName "a" := by decide
  simp only [windingTree, List.mem_cons, List.not_mem_nil, or_false] at member
  rcases member with rfl | rfl | rfl <;> simp [wide, long, short]

theorem mem_windingPath {part : String} (member : part ∈ windingPath.parts) :
    part = wideName ∨ part = ".." := by
  rcases List.mem_append.1 member with winds | last
  · obtain ⟨pair, repeated, inside⟩ := List.mem_flatten.1 winds
    rw [List.eq_of_mem_replicate repeated] at inside
    simpa using inside
  · exact .inl (List.mem_singleton.1 last)

theorem ofString_windingPath : FilePath.ofString windingPath.toString = windingPath := by
  refine FilePath.IsSpelled.ofString_toString (fun part member down => ?_) rfl
    (List.concat_ne_nil _ _)
  rw [(mem_windingPath member).resolve_right down]
  exact isEntryName_wideName.toIsFileName

theorem leads_windingTree : windingTree.LeadsToDirectory windingPath [wideName] := by
  have noNull : windingPath.hasNull = false := by
    refine List.any_eq_false.2 fun part member => ?_
    rcases mem_windingPath member with rfl | rfl
    · simpa using isEntryName_wideName.noNull
    · decide
  refine ⟨?_, by decide +kernel⟩
  rw [locate, noNull]
  decide +kernel

theorem namesIn_windingTree : windingTree.namesIn windingPath = ["a", longName] := by
  have contents : windingTree.contents windingPath =
      [(["a"], .file []), ([longName], .file [])] := by
    rw [contents, leads_windingTree.located]
    decide +kernel
  have ordered : decide ("a" ≤ longName) = true := by decide
  simp [namesIn, contents, List.mergeSort, ordered, List.MergeSort.Internal.splitInTwo]

/-- Where only the first of two files can be looked up, it is gone and the other one stays. -/
theorem prepare_of_second_long {first second : String} (sound : tree.WellFormed)
    (isCleaned : output.isCleaned = true)
    (leads : tree.LeadsToDirectory output.directory directory)
    (names : tree.namesIn output.directory = [first, second])
    (fits : placeOf output.directory directory first = .ok (directory ++ [first]))
    (long : placeOf output.directory directory second = .error .nameTooLong) :
    output.prepare tree =
      (⟨[], .error (.file .nameTooLong)⟩, tree.withoutFile (directory ++ [first])) := by
  have namedFirst : IsEntryName first := leads.isEntryName sound (by simp [names])
  have namedSecond : IsEntryName second := leads.isEntryName sound (by simp [names])
  have here := isDirectory_iff_leads.2 ⟨directory, leads⟩
  have looked : (Action.state : FileAction FileTree) tree = (⟨[], .ok tree⟩, tree) := rfl
  obtain ⟨deleted, done⟩ := FileAction.deleteFile_of_placeOf leads namedFirst fits
  have leadsStill := leads.kept (sound.keepsDirectories_withoutFile (directory ++ [first]))
  have stops := FileAction.deleteFile_of_placeOf_error leadsStill namedSecond long
  have paths : [first, second].map (fun name => output.directory.join ⟨"", [name]⟩) =
      [output.directory.entry first, output.directory.entry second] := rfl
  have stopped : FileAction.deleteFiles
      [output.directory.entry first, output.directory.entry second] tree =
        (⟨[], .error (.file .nameTooLong)⟩, tree.withoutFile (directory ++ [first])) := by
    rw [FileAction.deleteFiles, Action.bind_of_ok done, FileAction.deleteFiles,
      Action.bind_of_error (Action.bind_of_error stops)]
    rfl
  rw [prepare, Action.bind_of_ok (FileAction.ensureDirectory_of_isDirectory here), isCleaned,
    if_neg (by decide), Action.bind_of_ok looked, names, paths, Action.bind_of_error stopped]
  rfl

theorem prepare_windingTree : (Output.mk windingPath true true).prepare windingTree =
    (⟨[], .error (.file .nameTooLong)⟩, windingTree.withoutFile ([wideName] ++ ["a"])) :=
  prepare_of_second_long wellFormed_windingTree rfl leads_windingTree namesIn_windingTree
    (by decide +kernel) (by decide +kernel)

/--
A directory that cannot be prepared may have lost files, and on a path with double dots
directories may be made inside a subdirectory.
-/
theorem exists_prepare_deletes :
    windingTree.WellFormed ∧
      ((Output.mk (.ofString windingPath.toString) true true).prepare windingTree).1.outcome =
        .error (.file .nameTooLong) ∧
      windingTree.entry? [wideName, "a"] = some (.file []) ∧
      FileTree.entry? ((Output.mk (.ofString windingPath.toString) true true).prepare
        windingTree).2 [wideName, "a"] = none ∧
    ((Output.mk (.ofString "out/kept/new/../..") false true).writeAll [("a", .text "")]
        shelfTree).1.outcome = .ok [⟨"", ["out", "kept", "new", "..", "..", "a"]⟩] ∧
      shelfTree.entry? ["out", "kept", "new"] = none ∧
      FileTree.entry? ((Output.mk (.ofString "out/kept/new/../..") false true).writeAll
        [("a", .text "")] shelfTree).2 ["out", "kept", "new"] = some .directory := by
  rw [ofString_windingPath, prepare_windingTree]
  exact ⟨wellFormed_windingTree, rfl, by decide +kernel, by decide +kernel, by decide +kernel,
    by decide, by decide +kernel⟩

end Output

end SchemaBinding
