import SchemaBinding.Proofs.Confinement

/-!
# Writing by way of temporary files and in place

Files that are written by way of temporary files come out as those that are written in
place: the same paths are returned, the same failures end the writing, and the same tree is
left.  Only a file without a text whose name holds a null character is refused for its name
in one way and for its content in the other.
-/

namespace SchemaBinding

open FilePath (IsEntryName IsFileName)

namespace FileTree

variable {tree : FileTree} {path : FilePath}

/-- A file can be opened beside a target, or a name is too long, or one holds a null character. -/
theorem openBeside_cases (here : tree.isDirectory path.parent = true) :
    (tree.openBeside path = .ok () ∨ tree.openBeside path = .error .nameTooLong) ∨
      (path.hasNull = true ∧ tree.openBeside path = .error .nullInPath) := by
  obtain ⟨_, located, _⟩ := isDirectory_iff.1 here
  obtain ⟨noNull, _⟩ := locate_eq_ok located
  have resolved : tree.resolve path.parent =
      .ok (.ofLocation (path.parent.resolveFrom tree.workingDirectory)) := by
    rw [resolve, noNull]
    rfl
  rw [openBeside, resolved]
  simp only [bind, Except.bind]
  cases null : path.hasNull with
  | true => exact .inr ⟨rfl, rfl⟩
  | false =>
      rw [if_neg Bool.false_ne_true]
      left
      split
      · exact .inr rfl
      · exact .inl rfl

end FileTree

namespace FileAction

variable {tree : FileTree} {path : FilePath} {content : Content}

/-- Where a temporary file can be opened, replacing a file goes as writing it in place. -/
theorem replaceFile_eq_overwriteFile (here : tree.isDirectory path.parent = true)
    (opens : tree.openBeside path = .ok ()) (below : path.parts ≠ []) (named : path.name ≠ "..")
    (given : (∃ text, content = .text text) ∨ content = .absent) :
    replaceFile path content tree = overwriteFile path content tree := by
  have ensured := ensureDirectory_of_isDirectory here
  have opened := attempt_openBeside_of_ok opens
  rcases given with ⟨text, rfl⟩ | rfl
  · have idle : ¬ ((path.parts.isEmpty || decide (path.name = "..")) = true) := by
      simp [below, named]
    have moves : tree.moveIntoPlace path text = tree.writeInPlace path text := by
      rw [FileTree.moveIntoPlace, if_neg idle]
    rw [replaceFile_text, overwriteFile_text, Action.bind_of_ok ensured, Action.bind_of_ok opened]
    simp only [attempt, moves]
    rfl
  · rw [replaceFile_eq (by simp) (by simp), Action.bind_of_ok ensured, Action.bind_of_ok opened]
    rfl

/-- Where no temporary file can be opened, replacing a file fails for the same reason. -/
theorem replaceFile_of_openBeside_error (here : tree.isDirectory path.parent = true)
    {fault : FileFault} (refused : tree.openBeside path = .error fault)
    (placed : content ≠ .misplaced) (named : content ≠ .misnamed) :
    replaceFile path content tree = (⟨[], .error (.file fault)⟩, tree) := by
  have unopened : attempt (fun tree => (fun _ => tree) <$> tree.openBeside path) tree =
      (⟨[], .error (.file fault)⟩, tree) :=
    attempt_of_error (by rw [refused]; rfl)
  rw [replaceFile_eq placed named, Action.bind_of_ok (ensureDirectory_of_isDirectory here),
    Action.bind_of_error unopened]
  rfl

/-- No text is written in place at a path that holds a null character. -/
theorem overwriteFile_text_of_hasNull (null : path.hasNull = true) (text : String) :
    overwriteFile path (.text text) tree = (⟨[], .error (.file .nullInPath)⟩, tree) := by
  rw [overwriteFile_text]
  refine attempt_of_error ?_
  rw [FileTree.writeInPlace, FileTree.writeBytes, FileTree.locate, if_pos null]
  rfl

end FileAction

/--
Two results are the same, or both end at a file without a text whose name holds a null
character.
-/
inductive WritesAlike {α : Type} (files : List (String × Content)) :
    Run α × FileTree → Run α × FileTree → Prop where
  | same (result : Run α × FileTree) : WritesAlike files result result
  | misnamed {name : String} {records : List Record} {after : FileTree}
      (listed : (name, .absent) ∈ files) (null : '\x00' ∈ name.toList) :
      WritesAlike files (⟨records, .error (.file .nullInPath)⟩, after)
        (⟨records, .error .notText⟩, after)

namespace WritesAlike

variable {α β : Type} {files more : List (String × Content)} {tree : FileTree}

theorem mono {result other : Run α × FileTree} (alike : WritesAlike files result other)
    (listed : ∀ file ∈ files, file ∈ more) : WritesAlike more result other := by
  cases alike with
  | same => exact .same result
  | misnamed member null => exact .misnamed (listed _ member) null

/-- Actions that go on alike end alike. -/
theorem bind {first other : FileAction α} {next otherNext : α → FileAction β}
    (firsts : WritesAlike files (first tree) (other tree))
    (nexts : ∀ records value after, first tree = (⟨records, .ok value⟩, after) →
      WritesAlike files (next value after) (otherNext value after)) :
    WritesAlike files ((first >>= next) tree) ((other >>= otherNext) tree) := by
  rcases given : first tree with ⟨⟨records, outcome⟩, after⟩
  rcases givenOther : other tree with ⟨⟨otherRecords, otherOutcome⟩, otherAfter⟩
  rw [given, givenOther] at firsts
  cases firsts with
  | same =>
      cases outcome with
      | error failure =>
          rw [Action.bind_of_error given, Action.bind_of_error givenOther]
          exact .same _
      | ok value =>
          rw [Action.bind_of_ok given, Action.bind_of_ok givenOther]
          have later := nexts records value after given
          generalize next value after = result at later
          generalize otherNext value after = otherResult at later
          cases later with
          | same => exact .same _
          | misnamed listed null => exact .misnamed listed null
  | misnamed listed null =>
      rw [Action.bind_of_error given, Action.bind_of_error givenOther]
      exact .misnamed listed null

/-- Without such a file the results are the same. -/
theorem eq {result other : Run α × FileTree} (alike : WritesAlike files result other)
    (noNull : ∀ file ∈ files, file.2 = .absent → '\x00' ∉ file.1.toList) : result = other := by
  cases alike with
  | same => rfl
  | misnamed listed null => exact absurd null (noNull _ listed rfl)

end WritesAlike

namespace Output

open FileTree

/-- What is asked of a file: it has a name, and a text or none, and a temporary file fits. -/
structure Suits (output : Output) (tree : FileTree) (file : String × Content) : Prop where
  named : IsFileName file.1
  given : (∃ text, file.2 = .text text) ∨ file.2 = .absent
  fits : tree.openBeside (output.pathOf file.1) ≠ .error .nameTooLong

theorem Suits.congr {output : Output} {tree after : FileTree} {file : String × Content}
    (suits : output.Suits tree file) (same : after.workingDirectory = tree.workingDirectory) :
    output.Suits after file :=
  ⟨suits.named, suits.given, by rw [openBeside_congr _ same]; exact suits.fits⟩

section Modes

variable {path : FilePath} {isCleaned : Bool} {tree : FileTree} {directory : Location}
variable {files : List (String × Content)}

/-- One file is written alike in both ways. -/
theorem write_alike {file : String × Content}
    (leads : tree.LeadsToDirectory path directory)
    (suits : (Output.mk path isCleaned true).Suits tree file) :
    WritesAlike [file] ((Output.mk path isCleaned true).write file.1 file.2 tree)
      ((Output.mk path isCleaned false).write file.1 file.2 tree) := by
  obtain ⟨name, content⟩ := file
  obtain ⟨named, given, fits⟩ := suits
  generalize target_eq : (Output.mk path isCleaned true).pathOf name = target at fits
  have entry_eq : target = path.entry name := target_eq.symm.trans (pathOf_eq_entry named)
  have here : tree.isDirectory target.parent = true := by
    rw [← target_eq]
    exact isDirectory_parent_pathOf leads named
  have below : target.parts ≠ [] := by
    rw [entry_eq, FilePath.parts_entry]
    exact List.concat_ne_nil _ _
  have down : target.name ≠ ".." := by
    rw [entry_eq, FilePath.name_entry]
    exact named.not_above
  have puts : WritesAlike [(name, content)] (FileAction.replaceFile target content tree)
      (FileAction.overwriteFile target content tree) := by
    rcases openBeside_cases here with (opens | long) | ⟨null, refused⟩
    · rw [FileAction.replaceFile_eq_overwriteFile here opens below down given]
      exact .same _
    · exact absurd long fits
    · rcases given with ⟨text, rfl⟩ | rfl
      · rw [FileAction.replaceFile_of_openBeside_error here refused (by simp) (by simp),
          FileAction.overwriteFile_text_of_hasNull null]
        exact .same _
      · rw [FileAction.replaceFile_of_openBeside_error here refused (by simp) (by simp)]
        refine .misnamed List.mem_cons_self ?_
        -- The null character is not in the path of the directory, which can be looked up.
        obtain ⟨noNull, _⟩ := locate_eq_ok leads.located
        rw [entry_eq, FilePath.hasNull_entry, noNull, Bool.false_or] at null
        simpa using null
  have same : (Output.mk path isCleaned false).pathOf name = target := target_eq
  rw [write_eq, write_eq, target_eq, same]
  exact puts.bind fun _ _ _ _ => .same _

/-- Files are written alike in both ways, one after the other. -/
theorem writeEach_alike (leads : tree.LeadsToDirectory path directory)
    (suits : ∀ file ∈ files, (Output.mk path isCleaned true).Suits tree file) :
    WritesAlike files ((Output.mk path isCleaned true).writeEach files tree)
      ((Output.mk path isCleaned false).writeEach files tree) := by
  induction files generalizing tree with
  | nil => exact .same _
  | cons file rest ih =>
      obtain ⟨suitsFirst, suitsRest⟩ := List.forall_mem_cons.1 suits
      have first : WritesAlike (file :: rest)
          ((Output.mk path isCleaned true).write file.1 file.2 tree)
          ((Output.mk path isCleaned false).write file.1 file.2 tree) :=
        (write_alike leads suitsFirst).mono fun other member => by
          rw [List.mem_singleton.1 member]
          exact List.mem_cons_self
      refine first.bind fun records value after written => ?_
      have keeps := @keepsDirectories_of_write ⟨path, isCleaned, true⟩ tree after directory rfl
        leads _ suitsFirst.named _ _ _ written
      have later := ih (leads.kept keeps)
        fun other member => (suitsRest other member).congr keeps.workingDirectory_eq
      exact (later.mono fun _ => List.mem_cons_of_mem _).bind fun _ _ _ _ => .same _

end Modes

section Through

-- For each temporary file, what is drawn for its name.
variable (output : Output) (draw : FileTree → FilePath → List String)

def writeThrough (fileName : String) (content : Content) : FileAction FilePath := do
  fun tree => FileAction.replaceThrough (draw tree (output.pathOf fileName))
    (output.pathOf fileName) content tree
  Action.report (writtenRecord (output.pathOf fileName))
  return output.pathOf fileName

def writeEachThrough : List (String × Content) → FileAction (List FilePath)
  | [] => return []
  | (fileName, content) :: rest => do
      let path ← output.writeThrough draw fileName content
      let paths ← writeEachThrough rest
      return path :: paths

def writeAllThrough (files : List (String × Content)) : FileAction (List FilePath) := do
  let _ ← output.prepare
  output.writeEachThrough draw files

variable {output draw} (isAtomic : output.isAtomic = true)
variable (fresh : ∀ tree path, FileAction.HasDraw tree path (draw tree path))
include isAtomic fresh

theorem writeThrough_eq_write (fileName : String) (content : Content) :
    output.writeThrough draw fileName content = output.write fileName content := by
  have drawn : (fun tree => FileAction.replaceThrough (draw tree (output.pathOf fileName))
      (output.pathOf fileName) content tree) =
        FileAction.replaceFile (output.pathOf fileName) content :=
    funext fun tree => FileAction.replaceThrough_eq_replaceFile (fresh tree _)
  rw [write_eq, writeContent_of_isAtomic isAtomic, writeThrough, drawn]

theorem writeEachThrough_eq_writeEach (files : List (String × Content)) :
    output.writeEachThrough draw files = output.writeEach files := by
  induction files with
  | nil => rfl
  | cons file rest ih =>
      rw [writeEachThrough, writeThrough_eq_write isAtomic fresh, ih]
      rfl

theorem writeAllThrough_eq_writeAll (files : List (String × Content)) :
    output.writeAllThrough draw files = output.writeAll files := by
  rw [writeAllThrough, writeEachThrough_eq_writeEach isAtomic fresh]
  rfl

end Through

/-- Writing by way of temporary files agrees with writing in place. -/
structure ModesAgree (directory : FilePath) (isCleaned : Bool)
    (draw : FileTree → FilePath → List String) (files : List (String × Content))
    (tree : FileTree) : Prop where
  through : (Output.mk directory isCleaned true).writeAllThrough draw files tree =
    (Output.mk directory isCleaned true).writeAll files tree
  alike : WritesAlike files ((Output.mk directory isCleaned true).writeAll files tree)
    ((Output.mk directory isCleaned false).writeAll files tree)
  same : (∀ file ∈ files, file.2 = .absent → '\x00' ∉ file.1.toList) →
    (Output.mk directory isCleaned true).writeAll files tree =
      (Output.mk directory isCleaned false).writeAll files tree

/--
In every tree, for every directory, whether it is cleaned or not, and for all texts or
missing texts under names beside which temporary files fit, both ways of writing agree.
-/
theorem modesAgree {tree : FileTree} (sound : tree.WellFormed) (directory : String)
    (isCleaned : Bool) {files : List (String × Content)}
    (suits : ∀ file ∈ files, (Output.mk (.ofString directory) isCleaned true).Suits tree file)
    {draw : FileTree → FilePath → List String}
    (fresh : ∀ tree path, FileAction.HasDraw tree path (draw tree path)) :
    ModesAgree (.ofString directory) isCleaned draw files tree := by
  have spelled := FilePath.isSpelled_ofString directory
  generalize FilePath.ofString directory = path at suits spelled
  have alike : WritesAlike files ((Output.mk path isCleaned true).writeAll files tree)
      ((Output.mk path isCleaned false).writeAll files tree) := by
    have prepared : WritesAlike files ((Output.mk path isCleaned true).prepare tree)
        ((Output.mk path isCleaned false).prepare tree) := .same _
    refine prepared.bind fun records deleted after given => ?_
    have ends := @prepares ⟨path, isCleaned, true⟩ tree sound spelled
    rw [given] at ends
    have isPrepared := ends.isPrepared
    exact writeEach_alike isPrepared.leads
      fun file member => (suits file member).congr isPrepared.clears.workingDirectory_eq
  exact ⟨by rw [writeAllThrough_eq_writeAll rfl fresh], alike, alike.eq⟩

/-- The last of three files has the name of a subdirectory, and the second one has no text. -/
theorem modesAgree_shelf :
    ∃ draw : FileTree → FilePath → List String, shelfTree.WellFormed ∧
      (∀ file ∈ [("Lamp.cs", Content.text "class Lamp"), ("Bulb.cs", .absent), ("kept", .text "")],
        (Output.mk (.ofString "out") true true).Suits shelfTree file) ∧
      (∀ tree path, FileAction.HasDraw tree path (draw tree path)) ∧
      ModesAgree (.ofString "out") true draw
        [("Lamp.cs", .text "class Lamp"), ("Bulb.cs", .absent), ("kept", .text "")] shelfTree := by
  have fresh : ∀ tree path,
      FileAction.HasDraw tree path [Classical.choose (FileAction.exists_hasDraw tree path)] :=
    fun tree path => Classical.choose_spec (FileAction.exists_hasDraw tree path)
  have suits : ∀ file ∈
      [("Lamp.cs", Content.text "class Lamp"), ("Bulb.cs", .absent), ("kept", .text "")],
      (Output.mk (.ofString "out") true true).Suits shelfTree file := by
    simp only [List.forall_mem_cons]
    exact ⟨⟨by decide, .inl ⟨_, rfl⟩, by decide⟩,
      ⟨by decide, .inr rfl, by decide⟩, ⟨by decide, .inl ⟨_, rfl⟩, by decide⟩,
      fun _ member => absurd member List.not_mem_nil⟩
  exact ⟨fun tree path => [Classical.choose (FileAction.exists_hasDraw tree path)],
    wellFormed_shelfTree, suits, fresh, modesAgree wellFormed_shelfTree "out" true suits fresh⟩

/-- For a name with a null character and no text, the failures differ. -/
theorem writeAll_null_name :
    IsFileName "a\x00b" ∧
      ((Output.mk (.ofString "out") false true).writeAll [("a\x00b", .absent)]
        ⟨[], []⟩).1.outcome = .error (.file .nullInPath) ∧
      ((Output.mk (.ofString "out") false false).writeAll [("a\x00b", .absent)]
        ⟨[], []⟩).1.outcome = .error .notText := by
  decide

end Output

end SchemaBinding
