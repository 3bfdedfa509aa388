import SchemaBinding.Proofs.Rereading
import SchemaBinding.Proofs.Writing

/-!
# Alike trees

Two trees that differ in nothing but the bytes of some files, where the bytes are
related.  Whatever is done to the files, and however it ends, it does the same on
both trees and leaves them alike, as long as what is written is related.
-/

namespace SchemaBinding

inductive Entry.Alike (related : List UInt8 → List UInt8 → Prop) : Entry → Entry → Prop where
  | directory : Alike related .directory .directory
  | file {bytes others : List UInt8} (same : related bytes others) :
      Alike related (.file bytes) (.file others)

theorem Entry.alike_refl {related : List UInt8 → List UInt8 → Prop}
    (reflexive : ∀ bytes, related bytes bytes) (entry : Entry) : entry.Alike related entry := by
  cases entry with
  | directory => exact .directory
  | file bytes => exact .file (reflexive bytes)

theorem Entry.Alike.mono {related weaker : List UInt8 → List UInt8 → Prop} {entry other : Entry}
    (same : entry.Alike related other)
    (weaken : ∀ bytes others, related bytes others → weaker bytes others) :
    entry.Alike weaker other := by
  cases same with
  | directory => exact .directory
  | file same => exact .file (weaken _ _ same)

inductive Content.Alike (related : List UInt8 → List UInt8 → Prop) : Content → Content → Prop where
  | text {text other : String}
      (same : related (Text.Utf8.encode text.toList) (Text.Utf8.encode other.toList)) :
      Alike related (.text text) (.text other)
  | other {content : Content} (noText : ∀ text, content ≠ .text text) :
      Alike related content content

namespace FileTree

variable {related : List UInt8 → List UInt8 → Prop}

structure PlacedAlike (related : List UInt8 → List UInt8 → Prop)
    (item other : Location × Entry) : Prop where
  place_eq : item.1 = other.1
  entry : item.2.Alike related other.2

/-- Trees with alike entries at the same places, in the same order. -/
structure Alike (related : List UInt8 → List UInt8 → Prop) (tree other : FileTree) : Prop where
  workingDirectory_eq : tree.workingDirectory = other.workingDirectory
  entries : List.Forall₂ (PlacedAlike related) tree.entries other.entries

theorem alike_refl (reflexive : ∀ bytes, related bytes bytes) (tree : FileTree) :
    tree.Alike related tree where
  workingDirectory_eq := rfl
  entries := List.forall₂_same.2 fun item _ => ⟨rfl, Entry.alike_refl reflexive item.2⟩

theorem Alike.mono {weaker : List UInt8 → List UInt8 → Prop} {tree other : FileTree}
    (alike : tree.Alike related other)
    (weaken : ∀ bytes others, related bytes others → weaker bytes others) :
    tree.Alike weaker other where
  workingDirectory_eq := alike.workingDirectory_eq
  entries := alike.entries.imp fun _ _ placed => ⟨placed.place_eq, placed.entry.mono weaken⟩

/-- Trees whose files have equal bytes are equal. -/
theorem Alike.eq {tree other : FileTree} (alike : tree.Alike Eq other) : tree = other := by
  obtain ⟨entries, workingDirectory⟩ := tree
  obtain ⟨otherEntries, otherDirectory⟩ := other
  obtain ⟨rfl, each⟩ := alike
  congr 1
  refine List.forall₂_eq_eq_eq ▸ each.imp fun item otherItem placed => ?_
  obtain ⟨place, entry⟩ := item
  obtain ⟨otherPlace, otherEntry⟩ := otherItem
  obtain ⟨rfl, same⟩ := placed
  cases same with
  | directory => rfl
  | file same => rw [same]

/-- Trees in which alike entries stand at each place, in whatever order they were made. -/
structure HoldsAlike (related : List UInt8 → List UInt8 → Prop) (tree other : FileTree) :
    Prop where
  workingDirectory_eq : other.workingDirectory = tree.workingDirectory
  entry : ∀ place, Option.Rel (Entry.Alike related) (tree.entry? place) (other.entry? place)

theorem HoldsAlike.mono {weaker : List UInt8 → List UInt8 → Prop} {tree other : FileTree}
    (alike : tree.HoldsAlike related other)
    (weaken : ∀ bytes others, related bytes others → weaker bytes others) :
    tree.HoldsAlike weaker other where
  workingDirectory_eq := alike.workingDirectory_eq
  entry place := optionRel_imp (alike.entry place) fun _ _ _ _ same => same.mono weaken

/-- Where the bytes are equal, the same stands at each place. -/
theorem HoldsAlike.entry?_eq {tree other : FileTree} (alike : tree.HoldsAlike Eq other)
    (place : Location) : other.entry? place = tree.entry? place := by
  refine (eq_of_optionRel_eq (optionRel_imp (alike.entry place) fun _ _ _ _ same => ?_)).symm
  cases same with
  | directory => rfl
  | file same => rw [same]

section Lookups

variable {tree other : FileTree} (alike : tree.Alike related other)
include alike

theorem Alike.entry? (location : Location) :
    Option.Rel (Entry.Alike related) (tree.entry? location) (other.entry? location) := by
  unfold FileTree.entry?
  split
  · exact .some .directory
  · have each := alike.entries
    generalize tree.entries = items at each ⊢
    generalize other.entries = others at each ⊢
    induction each with
    | nil => exact .none
    | @cons item otherItem _ _ first _ ih =>
        rw [List.find?_cons, List.find?_cons, first.place_eq]
        cases otherItem.1 == location with
        | true => exact .some first.entry
        | false => exact ih

theorem Alike.directory_iff (location : Location) :
    tree.entry? location = some .directory ↔ other.entry? location = some .directory := by
  have found := alike.entry? location
  generalize tree.entry? location = entry at found ⊢
  generalize other.entry? location = otherEntry at found ⊢
  cases found with
  | none => exact Iff.rfl
  | some same => cases same <;> simp

theorem Alike.isSome_eq (location : Location) :
    (tree.entry? location).isSome = (other.entry? location).isSome :=
  isSome_eq_of_optionRel (alike.entry? location)

theorem Alike.follow_eq (start : Location) (parts : List String) :
    tree.follow start parts = other.follow start parts := by
  induction parts generalizing start with
  | nil => rfl
  | cons part rest ih =>
      have found := alike.entry? start
      unfold follow
      generalize tree.entry? start = entry at found ⊢
      generalize other.entry? start = otherEntry at found ⊢
      cases found with
      | none => rfl
      | some same =>
          cases same with
          | directory => simp only [ih]
          | file _ => rfl

theorem Alike.locate_eq (path : FilePath) : tree.locate path = other.locate path := by
  unfold locate
  rw [alike.workingDirectory_eq, alike.follow_eq]

theorem Alike.resolve_eq (path : FilePath) : tree.resolve path = other.resolve path := by
  unfold resolve
  rw [alike.workingDirectory_eq]

theorem Alike.isDirectory_eq (path : FilePath) :
    tree.isDirectory path = other.isDirectory path := by
  rw [Bool.eq_iff_iff, isDirectory_iff, isDirectory_iff]
  simp only [alike.locate_eq, alike.directory_iff]

/-- A deletion finds a directory, or it does not, in both trees. -/
theorem Alike.probe_cases (path : FilePath) :
    (∃ fault, tree.probe path = .error fault ∧ other.probe path = .error fault) ∨
      ∃ found otherFound, tree.probe path = .ok found ∧ other.probe path = .ok otherFound ∧
        Option.Rel (Entry.Alike related) found otherFound := by
  unfold probe
  rw [alike.locate_eq]
  cases other.locate path with
  | ok location => exact .inr ⟨_, _, rfl, rfl, alike.entry? location⟩
  | error fault =>
      cases fault with
      | nameTooLong => exact .inl ⟨_, rfl, rfl⟩
      | _ => exact .inr ⟨none, none, rfl, rfl, .none⟩

theorem Alike.below (location : Location) :
    (tree.below location).map Prod.fst = (other.below location).map Prod.fst := by
  have each := alike.entries
  unfold FileTree.below
  generalize tree.entries = items at each ⊢
  generalize other.entries = others at each ⊢
  induction each with
  | nil => rfl
  | @cons item otherItem _ _ first _ ih =>
      rw [List.filterMap_cons, List.filterMap_cons, first.place_eq]
      by_cases inside : (location.isPrefixOf otherItem.1 &&
          otherItem.1.length != location.length) = true
      · rw [if_pos inside, if_pos inside, List.map_cons, List.map_cons, ih]
      · rw [if_neg inside, if_neg inside]
        exact ih

theorem Alike.namesIn_eq (path : FilePath) : tree.namesIn path = other.namesIn path := by
  have places : (tree.contents path).map Prod.fst = (other.contents path).map Prod.fst := by
    unfold contents
    rw [alike.locate_eq]
    split
    · next location _ =>
        by_cases standing : other.entry? location = some .directory
        · rw [if_pos standing, if_pos ((alike.directory_iff location).2 standing)]
          exact alike.below location
        · rw [if_neg standing, if_neg (mt (alike.directory_iff location).1 standing)]
    · rfl
  unfold namesIn
  generalize tree.contents path = items at places ⊢
  generalize other.contents path = others at places ⊢
  dsimp only
  congr 1
  induction items generalizing others with
  | nil => rw [List.map_eq_nil_iff.1 places.symm]
  | cons first rest ih =>
      obtain ⟨otherFirst, more, rfl, sameFirst, sameRest⟩ := List.map_eq_cons_iff.1 places.symm
      rw [List.filterMap_cons, List.filterMap_cons, sameFirst, ih more sameRest.symm]

theorem Alike.erase (location : Location) :
    (tree.erase location).Alike related (other.erase location) where
  workingDirectory_eq := alike.workingDirectory_eq
  entries := by
    refine List.rel_filter ?_ alike.entries
    intro item otherItem placed
    dsimp only
    rw [placed.place_eq]

theorem Alike.set (location : Location) {entry otherEntry : Entry}
    (same : entry.Alike related otherEntry) :
    (tree.set location entry).Alike related (other.set location otherEntry) := by
  unfold FileTree.set
  rw [alike.isSome_eq]
  split
  · refine ⟨alike.workingDirectory_eq, List.rel_map ?_ alike.entries⟩
    intro item otherItem placed
    dsimp only
    rw [placed.place_eq]
    by_cases here : otherItem.1 = location
    · rw [if_pos here, if_pos here]
      exact ⟨rfl, same⟩
    · rw [if_neg here, if_neg here]
      exact placed
  · exact ⟨alike.workingDirectory_eq, List.rel_append alike.entries (.cons ⟨rfl, same⟩ .nil)⟩

end Lookups

/-- A change is made in both trees, or it fails in both for one reason. -/
inductive ChangesAlike (related : List UInt8 → List UInt8 → Prop) :
    Except FileFault FileTree → Except FileFault FileTree → Prop where
  | made {tree other : FileTree} (alike : tree.Alike related other) :
      ChangesAlike related (.ok tree) (.ok other)
  | fails (fault : FileFault) : ChangesAlike related (.error fault) (.error fault)

section Changes

variable {tree other : FileTree} (alike : tree.Alike related other)
include alike

theorem Alike.makeDirectory (path : FilePath) :
    ChangesAlike related (tree.makeDirectory path) (other.makeDirectory path) := by
  unfold FileTree.makeDirectory
  rw [alike.locate_eq]
  cases other.locate path with
  | error fault => exact .fails fault
  | ok location =>
      have found := alike.entry? location
      have made := alike.set location .directory
      simp only [bind, Except.bind]
      generalize tree.entry? location = entry at found ⊢
      generalize other.entry? location = otherEntry at found ⊢
      cases found with
      | none => exact .made made
      | some same => exact .fails .exists

theorem Alike.writeBytes (path : FilePath) {bytes others : List UInt8}
    (same : related bytes others) :
    ChangesAlike related (tree.writeBytes path bytes) (other.writeBytes path others) := by
  unfold FileTree.writeBytes
  rw [alike.locate_eq]
  cases other.locate path with
  | error fault => exact .fails fault
  | ok location =>
      have found := alike.entry? location
      have written := alike.set location (.file same)
      simp only [bind, Except.bind]
      generalize tree.entry? location = entry at found ⊢
      generalize other.entry? location = otherEntry at found ⊢
      cases found with
      | none => exact .made written
      | some placed =>
          cases placed with
          | directory => exact .fails .isDirectory
          | file _ => exact .made written

theorem Alike.moveIntoPlace (path : FilePath) {text otherText : String}
    (same : related (Text.Utf8.encode text.toList) (Text.Utf8.encode otherText.toList)) :
    ChangesAlike related (tree.moveIntoPlace path text) (other.moveIntoPlace path otherText) := by
  unfold FileTree.moveIntoPlace
  split
  · exact .fails .busy
  · exact alike.writeBytes path same

theorem Alike.openBeside_eq (path : FilePath) : tree.openBeside path = other.openBeside path := by
  unfold openBeside
  rw [alike.resolve_eq]

theorem Alike.removeFile (path : FilePath) :
    (tree.removeFile path).Alike related (other.removeFile path) := by
  unfold FileTree.removeFile
  rw [alike.locate_eq]
  split
  · exact alike.erase _
  · exact alike

end Changes

theorem Alike.ensureDirectoryWith (fuel : Nat) (path : FilePath) {tree other : FileTree}
    (alike : tree.Alike related other) :
    (ensureDirectoryWith fuel path tree).1 = (ensureDirectoryWith fuel path other).1 ∧
      (ensureDirectoryWith fuel path tree).2.Alike related
        (ensureDirectoryWith fuel path other).2 := by
  have made := alike.makeDirectory path
  unfold FileTree.ensureDirectoryWith
  generalize tree.makeDirectory path = result at made ⊢
  generalize other.makeDirectory path = otherResult at made ⊢
  cases made with
  | made after => exact ⟨rfl, after⟩
  | fails fault =>
      cases fault with
      | notFound =>
          cases fuel with
          | zero => exact ⟨rfl, alike⟩
          | succ fuel =>
              obtain ⟨same, after⟩ := alike.ensureDirectoryWith fuel path.parent
              dsimp only
              generalize FileTree.ensureDirectoryWith fuel path.parent tree = above
                at same after ⊢
              generalize FileTree.ensureDirectoryWith fuel path.parent other = otherAbove
                at same after ⊢
              obtain ⟨outcome, middle⟩ := above
              obtain ⟨otherOutcome, otherMiddle⟩ := otherAbove
              obtain rfl : outcome = otherOutcome := same
              cases outcome with
              | error fault => exact ⟨rfl, after⟩
              | ok value =>
                  have again := Alike.makeDirectory after path
                  dsimp only at again ⊢
                  generalize middle.makeDirectory path = result at again ⊢
                  generalize otherMiddle.makeDirectory path = otherResult at again ⊢
                  cases again with
                  | made last => exact ⟨rfl, last⟩
                  | fails fault => exact ⟨by simp only [after.isDirectory_eq], after⟩
      | _ => exact ⟨by simp only [alike.isDirectory_eq], alike⟩

end FileTree

namespace FileAction

variable {α β γ δ : Type} {related : List UInt8 → List UInt8 → Prop} {returned : α → β → Prop}

/-- Two actions do the same on alike trees, return related values and leave alike trees. -/
def Alike (related : List UInt8 → List UInt8 → Prop) (returned : α → β → Prop)
    (action : FileAction α) (other : FileAction β) : Prop :=
  ∀ tree otherTree : FileTree, tree.Alike related otherTree →
    Run.Alike returned (action tree).1 (other otherTree).1 ∧
      (action tree).2.Alike related (other otherTree).2

theorem alike_ofRun {run : Run α} {otherRun : Run β} (same : Run.Alike returned run otherRun) :
    Alike related returned (Action.ofRun run) (Action.ofRun otherRun) :=
  fun _ _ alike => ⟨same, alike⟩

theorem alike_pure {value : α} {other : β} (holds : returned value other) :
    Alike related returned (pure value) (pure other) :=
  fun _ _ alike => ⟨Run.alike_pure holds, alike⟩

theorem alike_fail (failure : Failure) :
    Alike related returned (Action.fail failure) (Action.fail failure) :=
  fun _ _ alike => ⟨.fails [] failure, alike⟩

theorem alike_report (record : Record) :
    Alike related Eq (Action.report record) (Action.report record) :=
  fun _ _ alike => ⟨Run.alike_same _, alike⟩

theorem alike_state :
    Alike related (FileTree.Alike related) Action.state Action.state :=
  fun _ _ alike => ⟨Run.alike_pure alike, alike⟩

theorem Alike.bind {derived : γ → δ → Prop} {first : FileAction α} {second : FileAction β}
    {next : α → FileAction γ} {otherNext : β → FileAction δ}
    (start : Alike related returned first second)
    (step : ∀ value other, returned value other →
      Alike related derived (next value) (otherNext other)) :
    Alike related derived (first >>= next) (second >>= otherNext) := by
  intro tree otherTree alike
  obtain ⟨same, after⟩ := start tree otherTree alike
  rcases result : first tree with ⟨run, middle⟩
  rcases otherResult : second otherTree with ⟨otherRun, otherMiddle⟩
  rw [result, otherResult] at same after
  cases same with
  | @returns records value other holds =>
      rw [Action.bind_of_ok result, Action.bind_of_ok otherResult]
      obtain ⟨more, last⟩ := step value other holds middle otherMiddle after
      refine ⟨?_, last⟩
      generalize (next value middle).1 = run at more ⊢
      generalize (otherNext other otherMiddle).1 = otherRun at more ⊢
      cases more with
      | returns holds => exact .returns holds
      | fails later failure => exact .fails _ failure
  | fails records failure =>
      rw [Action.bind_of_error result, Action.bind_of_error otherResult]
      exact ⟨.fails records failure, after⟩

theorem alike_attempt {change otherChange : FileTree → Except FileFault FileTree}
    (changes : ∀ tree other : FileTree, tree.Alike related other →
      FileTree.ChangesAlike related (change tree) (otherChange other)) :
    Alike related Eq (attempt change) (attempt otherChange) := by
  intro tree other alike
  have made := changes tree other alike
  unfold attempt
  generalize change tree = result at made ⊢
  generalize otherChange other = otherResult at made ⊢
  cases made with
  | made after => exact ⟨Run.alike_pure rfl, after⟩
  | fails fault => exact ⟨.fails [] _, alike⟩

theorem alike_ensureDirectory (path : FilePath) :
    Alike related Eq (ensureDirectory path) (ensureDirectory path) := by
  intro tree other alike
  obtain ⟨same, after⟩ := alike.ensureDirectoryWith path.parts.length path
  unfold ensureDirectory FileTree.ensureDirectory
  generalize FileTree.ensureDirectoryWith path.parts.length path tree = result at same after ⊢
  generalize FileTree.ensureDirectoryWith path.parts.length path other = otherResult
    at same after ⊢
  obtain ⟨outcome, middle⟩ := result
  obtain ⟨otherOutcome, otherMiddle⟩ := otherResult
  obtain rfl : outcome = otherOutcome := same
  cases outcome with
  | ok value => exact ⟨Run.alike_pure rfl, after⟩
  | error fault => exact ⟨.fails [] _, after⟩

theorem alike_deleteFile (path : FilePath) :
    Alike related Eq (deleteFile path) (deleteFile path) := by
  intro tree other alike
  unfold deleteFile
  rcases alike.probe_cases path with ⟨fault, here, there⟩ | ⟨found, otherFound, here, there, same⟩
  · rw [here, there]
    exact ⟨.fails [] _, alike⟩
  · rw [here, there]
    cases same with
    | none => exact ⟨Run.alike_pure rfl, alike.removeFile path⟩
    | some same =>
        cases same with
        | directory => exact ⟨Run.alike_pure rfl, alike⟩
        | file _ => exact ⟨Run.alike_pure rfl, alike.removeFile path⟩

theorem alike_deleteFiles (paths : List FilePath) :
    Alike related Eq (deleteFiles paths) (deleteFiles paths) := by
  induction paths with
  | nil => exact alike_pure rfl
  | cons path rest ih =>
      refine (alike_deleteFile path).bind ?_
      rintro deleted _ rfl
      refine ih.bind ?_
      rintro others _ rfl
      exact alike_pure rfl

theorem alike_openBeside (path : FilePath) :
    Alike related Eq (attempt (fun tree => (fun _ => tree) <$> tree.openBeside path))
      (attempt (fun tree => (fun _ => tree) <$> tree.openBeside path)) := by
  refine alike_attempt fun tree other alike => ?_
  rw [alike.openBeside_eq]
  cases other.openBeside path with
  | ok value => exact .made alike
  | error fault => exact .fails fault

theorem alike_replaceFile {content other : Content} (same : content.Alike related other)
    (path : FilePath) : Alike related Eq (replaceFile path content) (replaceFile path other) := by
  cases same with
  | @text text otherText same =>
      rw [replaceFile_text, replaceFile_text]
      refine (alike_ensureDirectory path.parent).bind fun _ _ _ => ?_
      refine (alike_openBeside path).bind fun _ _ _ => ?_
      exact alike_attempt fun tree otherTree alike => alike.moveIntoPlace path same
  | other noText =>
      have refuses : Alike related Eq (Action.fail .unencodable : FileAction Unit)
        (Action.fail .unencodable) := alike_fail _
      unfold replaceFile
      cases content with
      | text text => exact absurd rfl (noText text)
      | absent =>
          simp only [reduceCtorEq, if_false]
          exact (alike_ensureDirectory path.parent).bind fun _ _ _ =>
            (alike_openBeside path).bind fun _ _ _ => alike_fail _
      | unpaired =>
          simp only [reduceCtorEq, if_false]
          exact (alike_ensureDirectory path.parent).bind fun _ _ _ =>
            (alike_openBeside path).bind fun _ _ _ => refuses
      | misnamed =>
          simp only [reduceCtorEq, if_false, if_true]
          exact (alike_ensureDirectory path.parent).bind fun _ _ _ =>
            refuses.bind fun _ _ _ => (alike_openBeside path).bind fun _ _ _ => refuses
      | misplaced =>
          simp only [reduceCtorEq, if_true]
          exact refuses.bind fun _ _ _ => (alike_ensureDirectory path.parent).bind fun _ _ _ =>
            (alike_openBeside path).bind fun _ _ _ => refuses

theorem alike_overwriteFile (reflexive : ∀ bytes, related bytes bytes) {content other : Content}
    (same : content.Alike related other) (path : FilePath) :
    Alike related Eq (overwriteFile path content) (overwriteFile path other) := by
  cases same with
  | text same => exact alike_attempt fun tree otherTree alike => alike.writeBytes path same
  | other noText =>
      cases content with
      | text text => exact absurd rfl (noText text)
      | absent => exact alike_fail _
      | unpaired =>
          refine (alike_attempt fun tree otherTree alike => ?_).bind fun _ _ _ => alike_fail _
          exact alike.writeBytes path (reflexive _)
      | misnamed => exact alike_fail _
      | misplaced => exact alike_fail _

end FileAction

namespace Output

open FileAction

variable {related : List UInt8 → List UInt8 → Prop} (output : Output)

theorem alike_prepare : Alike related Eq output.prepare output.prepare := by
  unfold prepare
  refine (alike_ensureDirectory _).bind fun _ _ _ => ?_
  split
  · exact alike_pure rfl
  · refine alike_state.bind fun tree other alike => ?_
    rw [alike.namesIn_eq]
    refine (alike_deleteFiles _).bind ?_
    rintro deleted _ rfl
    exact (alike_report _).bind fun _ _ _ => alike_pure rfl

structure FilesAlike (related : List UInt8 → List UInt8 → Prop)
    (file other : String × Content) : Prop where
  name_eq : file.1 = other.1
  content : file.2.Alike related other.2

variable (reflexive : ∀ bytes, related bytes bytes)
include reflexive

theorem alike_write (fileName : String) {content other : Content}
    (same : content.Alike related other) :
    Alike related Eq (output.write fileName content) (output.write fileName other) := by
  have writes : Alike related Eq (output.writeContent (output.pathOf fileName) content)
      (output.writeContent (output.pathOf fileName) other) := by
    unfold writeContent
    split
    · exact alike_replaceFile same _
    · exact alike_overwriteFile reflexive same _
  rw [write_eq, write_eq]
  exact writes.bind fun _ _ _ => (alike_report _).bind fun _ _ _ => alike_pure rfl

theorem alike_writeEach {files others : List (String × Content)}
    (each : List.Forall₂ (FilesAlike related) files others) :
    Alike related Eq (output.writeEach files) (output.writeEach others) := by
  induction each with
  | nil => exact alike_pure rfl
  | @cons file other rest otherRest first _ ih =>
      obtain ⟨name, content⟩ := file
      obtain ⟨otherName, otherContent⟩ := other
      obtain ⟨rfl, same⟩ := first
      refine (alike_write output reflexive name same).bind ?_
      rintro path _ rfl
      refine ih.bind ?_
      rintro paths _ rfl
      exact alike_pure rfl

/-- Files that are alike are written in the same way, and the trees that are left are alike. -/
theorem alike_writeAll {files others : List (String × Content)}
    (each : List.Forall₂ (FilesAlike related) files others) :
    Alike related Eq (output.writeAll files) (output.writeAll others) :=
  output.alike_prepare.bind fun _ _ _ => alike_writeEach output reflexive each

end Output

end SchemaBinding
