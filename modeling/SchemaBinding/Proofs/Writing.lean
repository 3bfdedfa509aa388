import SchemaBinding.Proofs.Assurance
import SchemaBinding.Proofs.FileNames
import SchemaBinding.Proofs.FileTrees

/-!
# Writing files

Writing a text, in either way, makes the directory of its file if that is missing
and puts the text in the place of the file.  Nothing but a text is ever written
with success.
-/

namespace SchemaBinding

def fileOf (text : String) : Entry :=
  .file (Text.Utf8.encode text.toList)

namespace FileTree

/--
A text is put in the place of the file to which a path leads.  Before that,
directories may be made, but not if the directory of the file is there.
-/
inductive Puts (tree : FileTree) (path : FilePath) (text : String) : FileTree → Prop where
  | put (middle : FileTree) (location : Location) (grows : tree.Extends middle)
      (known : tree.isDirectory path.parent = true → middle = tree)
      (located : middle.locate path = .ok location)
      (free : middle.entry? location ≠ some .directory) :
      Puts tree path text (middle.set location (fileOf text))

variable {tree after : FileTree} {path : FilePath} {text : String}

theorem Puts.keepsDirectories (puts : tree.Puts path text after) :
    tree.KeepsDirectories after := by
  cases puts with
  | put middle location grows known located free =>
      exact grows.keepsDirectories.trans (keepsDirectories_set free)

/-- What was put in the place of a file is read there. -/
theorem Puts.read (puts : tree.Puts path text after) :
    after.read path = .ok (Text.Utf8.encode text.toList) := by
  cases puts with
  | put middle location grows known located free =>
      have keeps : middle.KeepsDirectories (middle.set location (fileOf text)) :=
        keepsDirectories_set free
      have kept := keeps.locate located
      rw [FileTree.read, kept]
      simp only [bind, Except.bind, entry?_set (ne_nil_of_ne_directory free), if_pos]
      rfl

theorem Puts.workingDirectory_eq (puts : tree.Puts path text after) :
    after.workingDirectory = tree.workingDirectory :=
  puts.keepsDirectories.workingDirectory_eq

/-- What is read elsewhere is read as before. -/
theorem Puts.read_elsewhere (puts : tree.Puts path text after) {other : FilePath}
    (elsewhere : other.resolveFrom tree.workingDirectory ≠ path.resolveFrom tree.workingDirectory)
    {bytes : List UInt8} (given : tree.read other = .ok bytes) : after.read other = .ok bytes := by
  obtain ⟨place, here, found⟩ := read_eq_ok given
  have kept := puts.keepsDirectories.locate here
  cases puts with
  | put middle location grows known located free =>
      have apart : place ≠ location := by
        rw [(locate_eq_ok here).2, (locate_eq_ok located).2, grows.workingDirectory_eq]
        exact elsewhere
      rw [FileTree.read, kept]
      simp only [bind, Except.bind, entry?_set (ne_nil_of_ne_directory free), if_neg apart,
        grows.entry place _ found]
      rfl

end FileTree

namespace Action

variable {σ α β : Type}

def Fails (action : Action σ α) : Prop :=
  ∀ before, ∃ failure, (action before).1.outcome = .error failure

theorem fails_fail (failure : Failure) : Fails (fail failure : Action σ α) :=
  fun _ => ⟨failure, rfl⟩

theorem Fails.bind {first : Action σ α} (fails : Fails first) (next : α → Action σ β) :
    Fails (first >>= next) := by
  intro before
  obtain ⟨failure, failed⟩ := fails before
  rcases result : first before with ⟨⟨records, outcome⟩, middle⟩
  rw [result] at failed
  obtain rfl : outcome = .error failure := failed
  exact ⟨failure, by rw [bind_of_error result]⟩

theorem fails_bind (first : Action σ α) {next : α → Action σ β}
    (fails : ∀ value, Fails (next value)) : Fails (first >>= next) := by
  intro before
  rcases result : first before with ⟨⟨records, outcome⟩, middle⟩
  cases outcome with
  | error failure => exact ⟨failure, by rw [bind_of_error result]⟩
  | ok value =>
      obtain ⟨failure, failed⟩ := fails value middle
      exact ⟨failure, by rw [bind_of_ok result]; exact failed⟩

theorem Fails.ne_ok {action : Action σ α} (fails : Fails action) {before after : σ}
    {records : List Record} {value : α} : action before ≠ (⟨records, .ok value⟩, after) := by
  intro result
  obtain ⟨failure, failed⟩ := fails before
  rw [result] at failed
  cases failed

end Action

namespace FileAction

variable {tree after : FileTree} {records : List Record} {path : FilePath}

theorem attempt_eq_ok {change : FileTree → Except FileFault FileTree} {value : Unit} :
    attempt change tree = (⟨records, .ok value⟩, after) ↔
      records = [] ∧ change tree = .ok after := by
  unfold attempt
  cases change tree with
  | error fault => simp [Run.fail]
  | ok changed =>
      simp [Run.pure, eq_comm]

theorem attempt_of_error {change : FileTree → Except FileFault FileTree} {fault : FileFault}
    (fails : change tree = .error fault) :
    attempt change tree = (⟨[], .error (.file fault)⟩, tree) := by
  unfold attempt
  rw [fails]
  rfl

/-- Whether a file can be opened beside a target is found out without a change. -/
theorem attempt_openBeside_eq_ok {value : Unit} :
    attempt (fun tree => (fun _ => tree) <$> tree.openBeside path) tree =
        (⟨records, .ok value⟩, after) ↔
      records = [] ∧ tree.openBeside path = .ok () ∧ tree = after := by
  rw [attempt_eq_ok]
  refine and_congr_right fun _ => ?_
  cases tree.openBeside path with
  | error fault => exact iff_of_false (fun same => by cases same) (fun both => by cases both.1)
  | ok value =>
      constructor
      · exact fun same => ⟨rfl, Except.ok.inj same⟩
      · exact fun both => congrArg Except.ok both.2

theorem attempt_openBeside_of_ok (opens : tree.openBeside path = .ok ()) :
    attempt (fun tree => (fun _ => tree) <$> tree.openBeside path) tree =
      (⟨[], .ok ()⟩, tree) :=
  attempt_openBeside_eq_ok.2 ⟨rfl, opens, rfl⟩

theorem ensureDirectory_eq_ok {value : Unit}
    (makes : ensureDirectory path tree = (⟨records, .ok value⟩, after)) :
    records = [] ∧ tree.ensureDirectory path = (.ok (), after) := by
  unfold ensureDirectory at makes
  rcases result : tree.ensureDirectory path with ⟨outcome, made⟩
  rw [result] at makes
  cases outcome with
  | error fault => cases makes
  | ok value =>
      cases makes
      exact ⟨rfl, rfl⟩

theorem ensureDirectory_of_ok (ensured : tree.ensureDirectory path = (.ok (), after)) :
    ensureDirectory path tree = (⟨[], .ok ()⟩, after) := by
  unfold ensureDirectory
  rw [ensured]
  rfl

theorem ensureDirectory_of_error {fault : FileFault}
    (ensured : tree.ensureDirectory path = (.error fault, after)) :
    ensureDirectory path tree = (⟨[], .error (.file fault)⟩, after) := by
  unfold ensureDirectory
  rw [ensured]
  rfl

theorem ensureDirectory_of_isDirectory (here : tree.isDirectory path = true) :
    ensureDirectory path tree = (⟨[], .ok ()⟩, tree) :=
  ensureDirectory_of_ok (FileTree.ensureDirectory_of_isDirectory here)

theorem writeInPlace_eq_ok {text : String} :
    tree.writeInPlace path text = .ok after ↔
      ∃ location, tree.locate path = .ok location ∧
        tree.entry? location ≠ some .directory ∧ after = tree.set location (fileOf text) :=
  FileTree.writeBytes_eq_ok

theorem deleteFile_eq_ok {deleted : List FilePath}
    (deletes : deleteFile path tree = (⟨records, .ok deleted⟩, after)) :
    records = [] ∧ ∃ found, tree.probe path = .ok found ∧
      if found = some .directory then deleted = [] ∧ after = tree
      else deleted = [path] ∧ after = tree.removeFile path := by
  unfold deleteFile at deletes
  cases probed : tree.probe path with
  | error fault =>
      rw [probed] at deletes
      cases deletes
  | ok found =>
      rw [probed] at deletes
      cases found with
      | none =>
          cases deletes
          exact ⟨rfl, none, rfl, rfl, rfl⟩
      | some entry =>
          cases entry with
          | directory =>
              cases deletes
              exact ⟨rfl, some .directory, rfl, rfl, rfl⟩
          | file bytes =>
              cases deletes
              exact ⟨rfl, some (.file bytes), rfl, rfl, rfl⟩

theorem deleteFiles_reports_nothing {paths deleted : List FilePath}
    (deletes : deleteFiles paths tree = (⟨records, .ok deleted⟩, after)) : records = [] := by
  induction paths generalizing tree records deleted with
  | nil =>
      cases deletes
      rfl
  | cons path rest ih =>
      obtain ⟨_, _, middle, _, first, more, rfl⟩ := Action.bind_eq_ok deletes
      obtain ⟨_, _, _, _, others, last, rfl⟩ := Action.bind_eq_ok more
      cases last
      obtain ⟨rfl, -⟩ := deleteFile_eq_ok first
      rw [ih others]
      rfl

theorem moveIntoPlace_eq_ok {text : String} :
    tree.moveIntoPlace path text = .ok after ↔
      (path.parts ≠ [] ∧ path.name ≠ "..") ∧ tree.writeInPlace path text = .ok after := by
  unfold FileTree.moveIntoPlace
  by_cases busy : (path.parts.isEmpty || decide (path.name = "..")) = true
  · rw [if_pos busy]
    simp only [Bool.or_eq_true, List.isEmpty_iff, decide_eq_true_eq] at busy
    constructor
    · intro fails
      cases fails
    · rintro ⟨⟨below, named⟩, _⟩
      exact absurd busy (not_or.2 ⟨below, named⟩)
  · rw [if_neg busy]
    simp only [Bool.or_eq_true, List.isEmpty_iff, decide_eq_true_eq, not_or] at busy
    exact ⟨fun moves => ⟨busy, moves⟩, And.right⟩

/-- What is no text does not take the place of a file. -/
theorem fails_replaceFile {content : Content} (noText : ∀ text, content ≠ .text text) :
    Action.Fails (replaceFile path content) := by
  unfold replaceFile
  cases content with
  | text text => exact absurd rfl (noText text)
  | absent =>
      simp only [reduceCtorEq, if_false]
      exact Action.fails_bind _ fun _ => Action.fails_bind _ fun _ => Action.fails_fail _
  | unpaired =>
      simp only [reduceCtorEq, if_false]
      exact Action.fails_bind _ fun _ => Action.fails_bind _ fun _ => Action.fails_fail _
  | misnamed =>
      simp only [reduceCtorEq, if_false, if_true]
      exact Action.fails_bind _ fun _ => (Action.fails_fail _).bind _
  | misplaced =>
      simp only [reduceCtorEq, if_true]
      exact (Action.fails_fail _).bind _

/-- What is no text is not written over a file. -/
theorem fails_overwriteFile {content : Content} (noText : ∀ text, content ≠ .text text) :
    Action.Fails (overwriteFile path content) := by
  cases content with
  | text text => exact absurd rfl (noText text)
  | absent => exact Action.fails_fail _
  | unpaired => exact Action.fails_bind _ fun _ => Action.fails_fail _
  | misnamed => exact Action.fails_fail _
  | misplaced => exact Action.fails_fail _

/-- A text is written to a file beside its target, and then moved, in a directory that is there. -/
theorem replaceFile_text (path : FilePath) (text : String) :
    replaceFile path (.text text) = (do
      ensureDirectory path.parent
      attempt (fun tree => (fun _ => tree) <$> tree.openBeside path)
      attempt (fun tree => tree.moveIntoPlace path text)) := by
  simp only [replaceFile, reduceCtorEq, if_false]

theorem puts_replaceFile {text : String} {value : Unit}
    (writes : replaceFile path (.text text) tree = (⟨records, .ok value⟩, after)) :
    records = [] ∧ tree.Puts path text after := by
  rw [replaceFile_text] at writes
  obtain ⟨_, _, middle, _, made, more, rfl⟩ := Action.bind_eq_ok writes
  obtain ⟨_, _, opened, _, opens, moves, rfl⟩ := Action.bind_eq_ok more
  obtain ⟨rfl, -, rfl⟩ := attempt_openBeside_eq_ok.1 opens
  obtain ⟨rfl, moved⟩ := attempt_eq_ok.1 moves
  obtain ⟨rfl, makes⟩ := ensureDirectory_eq_ok made
  obtain ⟨location, located, free, rfl⟩ := writeInPlace_eq_ok.1 (moveIntoPlace_eq_ok.1 moved).2
  have grows := (FileTree.houses_ensureDirectory tree path.parent).1
  rw [makes] at grows
  refine ⟨rfl, .put middle location grows (fun here => ?_) located free⟩
  rw [FileTree.ensureDirectory_of_isDirectory here] at makes
  exact (congrArg Prod.snd makes).symm

theorem overwriteFile_text (path : FilePath) (text : String) :
    overwriteFile path (.text text) = attempt (fun tree => tree.writeInPlace path text) := rfl

theorem puts_overwriteFile {text : String} {value : Unit}
    (writes : overwriteFile path (.text text) tree = (⟨records, .ok value⟩, after)) :
    records = [] ∧ tree.Puts path text after := by
  rw [overwriteFile_text] at writes
  obtain ⟨rfl, written⟩ := attempt_eq_ok.1 writes
  obtain ⟨location, located, free, rfl⟩ := writeInPlace_eq_ok.1 written
  exact ⟨rfl, .put tree location (.refl tree) (fun _ => rfl) located free⟩

end FileAction

namespace Output

variable {output : Output} {tree after : FileTree} {records : List Record}
variable {fileName : String} {content : Content}

def cleanedRecord (output : Output) (deleted : List FilePath) : Record :=
  .info s!"Cleaned {deleted.length} file(s) from {output.directory.toString}"

def entriesIn (output : Output) (tree : FileTree) : List FilePath :=
  (tree.namesIn output.directory).map (fun name => output.directory.join ⟨"", [name]⟩)

/-- The directory is made, and the files in it are deleted if that is asked for. -/
theorem prepare_eq_ok {deleted : List FilePath}
    (prepares : output.prepare tree = (⟨records, .ok deleted⟩, after)) :
    ∃ made, tree.ensureDirectory output.directory = (.ok (), made) ∧
      if output.isCleaned then
        records = [output.cleanedRecord deleted] ∧
          FileAction.deleteFiles (output.entriesIn made) made = (⟨[], .ok deleted⟩, after)
      else records = [] ∧ after = made := by
  unfold prepare at prepares
  obtain ⟨_, _, made, _, makes, cleans, rfl⟩ := Action.bind_eq_ok prepares
  obtain ⟨rfl, ensured⟩ := FileAction.ensureDirectory_eq_ok makes
  refine ⟨made, ensured, ?_⟩
  cases isCleaned : output.isCleaned with
  | false =>
      rw [isCleaned] at cleans
      cases cleans
      exact ⟨rfl, rfl⟩
  | true =>
      rw [isCleaned] at cleans
      obtain ⟨_, _, _, _, looked, more, rfl⟩ := Action.bind_eq_ok cleans
      cases looked
      obtain ⟨_, _, _, _, deletes, tells, rfl⟩ := Action.bind_eq_ok more
      obtain ⟨_, _, _, _, reported, last, rfl⟩ := Action.bind_eq_ok tells
      cases reported
      cases last
      obtain rfl := FileAction.deleteFiles_reports_nothing deletes
      exact ⟨rfl, deletes⟩

def writtenRecord (path : FilePath) : Record :=
  .info s!"Wrote {path.toString}"

def pathOf (output : Output) (fileName : String) : FilePath :=
  output.directory.join (.ofString fileName)

def writeContent (output : Output) (path : FilePath) (content : Content) : FileAction Unit :=
  if output.isAtomic then FileAction.replaceFile path content
  else FileAction.overwriteFile path content

theorem write_eq (output : Output) (fileName : String) (content : Content) :
    output.write fileName content = (do
      output.writeContent (output.pathOf fileName) content
      Action.report (writtenRecord (output.pathOf fileName))
      return output.pathOf fileName) := by
  unfold write writeContent
  split <;> rfl

theorem writeContent_eq_ok {path : FilePath} {value : Unit}
    (writes : output.writeContent path content tree = (⟨records, .ok value⟩, after)) :
    records = [] ∧ ∃ text, content = .text text ∧ tree.Puts path text after := by
  by_cases isText : ∃ text, content = .text text
  · obtain ⟨text, rfl⟩ := isText
    unfold writeContent at writes
    split at writes
    · obtain ⟨none, puts⟩ := FileAction.puts_replaceFile writes
      exact ⟨none, text, rfl, puts⟩
    · obtain ⟨none, puts⟩ := FileAction.puts_overwriteFile writes
      exact ⟨none, text, rfl, puts⟩
  · have noText : ∀ text, content ≠ .text text := fun text same => isText ⟨text, same⟩
    unfold writeContent at writes
    split at writes
    · exact absurd writes (FileAction.fails_replaceFile noText).ne_ok
    · exact absurd writes (FileAction.fails_overwriteFile noText).ne_ok

/-- What is written with success is a text, and it is put in the place of the file. -/
theorem write_eq_ok {path : FilePath}
    (writes : output.write fileName content tree = (⟨records, .ok path⟩, after)) :
    path = output.pathOf fileName ∧ records = [writtenRecord path] ∧
      ∃ text, content = .text text ∧ tree.Puts path text after := by
  rw [write_eq] at writes
  obtain ⟨_, _, middle, _, written, reported, rfl⟩ := Action.bind_eq_ok writes
  obtain ⟨rfl, text, isText, puts⟩ := writeContent_eq_ok written
  cases reported
  exact ⟨rfl, rfl, text, isText, puts⟩

theorem resolveFrom_pathOf (plain : FilePath.IsFileName fileName) (directory : Location) :
    (output.pathOf fileName).resolveFrom directory =
      output.directory.resolveFrom directory ++ [fileName] := by
  rw [pathOf, FilePath.ofString_of_isFileName plain]
  simp [FilePath.join, FilePath.isAbsolute, FilePath.resolveFrom, FilePath.enter,
    plain.not_above]

/-- Files of different names are read from different places. -/
theorem resolveFrom_pathOf_ne {other : String} (plain : FilePath.IsFileName fileName)
    (otherPlain : FilePath.IsFileName other) (different : fileName ≠ other)
    (directory : Location) :
    (output.pathOf fileName).resolveFrom directory ≠
      (output.pathOf other).resolveFrom directory := by
  rw [resolveFrom_pathOf plain, resolveFrom_pathOf otherPlain]
  intro same
  exact different (List.singleton_inj.1 (List.append_cancel_left same))

/-- A file that is there before others are written is read as before. -/
theorem read_writeEach {files : List (String × Content)} {paths : List FilePath}
    (writes : output.writeEach files tree = (⟨records, .ok paths⟩, after))
    (plain : FilePath.IsFileName fileName)
    (elsewhere : ∀ file ∈ files, FilePath.IsFileName file.1 ∧ fileName ≠ file.1)
    {bytes : List UInt8} (given : tree.read (output.pathOf fileName) = .ok bytes) :
    after.read (output.pathOf fileName) = .ok bytes := by
  induction files generalizing tree records paths with
  | nil =>
      cases writes
      exact given
  | cons file rest ih =>
      obtain ⟨_, path, middle, _, first, more, rfl⟩ := Action.bind_eq_ok writes
      obtain ⟨_, _, _, _, others, last, rfl⟩ := Action.bind_eq_ok more
      cases last
      obtain ⟨rfl, -, text, -, puts⟩ := write_eq_ok first
      obtain ⟨otherPlain, different⟩ := elsewhere file List.mem_cons_self
      refine ih others (fun other member => elsewhere other (List.mem_cons_of_mem _ member)) ?_
      exact puts.read_elsewhere (resolveFrom_pathOf_ne plain otherPlain different _) given

/-- Files of different names are written with success: each of them is read as it was given. -/
theorem writeEach_eq_ok {files : List (String × Content)} {paths : List FilePath}
    (writes : output.writeEach files tree = (⟨records, .ok paths⟩, after))
    (plain : ∀ file ∈ files, FilePath.IsFileName file.1)
    (distinct : (files.map Prod.fst).Nodup) :
    paths = files.map (fun file => output.pathOf file.1) ∧
      records = paths.map writtenRecord ∧
      ∀ file ∈ files, ∃ text, file.2 = .text text ∧
        after.read (output.pathOf file.1) = .ok (Text.Utf8.encode text.toList) := by
  induction files generalizing tree records paths with
  | nil =>
      cases writes
      exact ⟨rfl, rfl, fun file member => absurd member List.not_mem_nil⟩
  | cons file rest ih =>
      obtain ⟨_, path, middle, _, first, more, rfl⟩ := Action.bind_eq_ok writes
      obtain ⟨_, _, _, _, others, last, rfl⟩ := Action.bind_eq_ok more
      cases last
      obtain ⟨rfl, rfl, text, isText, puts⟩ := write_eq_ok first
      obtain ⟨absent, distinct⟩ := List.nodup_cons.1 distinct
      have plainRest : ∀ other ∈ rest, FilePath.IsFileName other.1 :=
        fun other member => plain other (List.mem_cons_of_mem _ member)
      obtain ⟨rfl, rfl, each⟩ := ih others plainRest distinct
      refine ⟨rfl, by simp, fun other member => ?_⟩
      rcases List.mem_cons.1 member with rfl | later
      · refine ⟨text, isText, read_writeEach others (plain other member) ?_ puts.read⟩
        refine fun next inside => ⟨plainRest next inside, fun same => absent ?_⟩
        exact same ▸ List.mem_map_of_mem inside
      · exact each other later

/-- All files are written with success, after the directory was prepared. -/
theorem writeAll_eq_bind (output : Output) (files : List (String × Content)) :
    output.writeAll files = (output.prepare >>= fun _ => output.writeEach files) := rfl

/-- Nothing but cleaning is reported while a directory is prepared. -/
theorem mem_records_prepare {deleted : List FilePath}
    (prepares : output.prepare tree = (⟨records, .ok deleted⟩, after)) {record : Record}
    (member : record ∈ records) : record = output.cleanedRecord deleted := by
  obtain ⟨made, _, rest⟩ := prepare_eq_ok prepares
  split at rest
  · rw [rest.1] at member
    exact List.mem_singleton.1 member
  · rw [rest.1] at member
    exact absurd member List.not_mem_nil

end Output

end SchemaBinding
