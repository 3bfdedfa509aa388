import SchemaBinding.CommandLine.Invocation
import SchemaBinding.Proofs.Assurance
import SchemaBinding.Proofs.TreeChanges

/-!
# Reading the words of a command line

What a valid use of the program consists of.  Its paths are resolved, so the same
words ask for the same in another tree where the paths that must exist still do.
-/

namespace SchemaBinding.CommandLine

open FilePath (IsEntryName)

/-- A path that is resolved in a well-formed tree goes down from the top, name by name. -/
theorem exists_location_of_resolve {tree : FileTree} (sound : tree.WellFormed) {text : String}
    {path : FilePath} (resolved : tree.resolve (.ofString text) = .ok path) :
    ∃ location, path = .ofLocation location ∧ ∀ name ∈ location, IsEntryName name := by
  unfold FileTree.resolve at resolved
  split at resolved
  · cases resolved
  · next free =>
      refine ⟨_, (Except.ok.inj resolved).symm, fun name member => ?_⟩
      have working := sound.names_of_entry? (by rw [sound.working]; rfl)
      have down := sound.double_dot_not_mem_resolveFrom (.ofString text)
      rcases FilePath.mem_of_mem_foldl_enter member with before | part
      · split at before
        · exact absurd before List.not_mem_nil
        · exact working name before
      · refine ⟨FilePath.isFileName_of_mem_parts part fun above => down (above ▸ member), ?_⟩
        rw [FilePath.hasNull, Bool.not_eq_true, List.any_eq_false] at free
        simpa using free name part

/-- An absolute path at whose end something stands. -/
structure LeadsTo (tree : FileTree) (path : FilePath) (place : Location) : Prop where
  path_eq : path = .ofLocation place
  names : ∀ name ∈ place, IsEntryName name
  located : tree.locate path = .ok place
  stands : (tree.entry? place).isSome = true

section LeadsTo

variable {tree after : FileTree} {path : FilePath} {place directory : Location}

theorem LeadsTo.lookup? (leads : LeadsTo tree path place) :
    tree.lookup? path = tree.entry? place := by
  rw [FileTree.lookup?, leads.located]

theorem LeadsTo.ofString_toString (leads : LeadsTo tree path place) :
    FilePath.ofString path.toString = path := by
  rw [leads.path_eq]
  exact FilePath.ofString_toString_ofLocation
    fun name member => (leads.names name member).toIsFileName

theorem LeadsTo.pathExists (leads : LeadsTo tree path place) :
    tree.pathExists (.ofString path.toString) = .ok true := by
  rw [leads.ofString_toString, FileTree.pathExists, FileTree.probe, leads.located]
  exact congrArg Except.ok leads.stands

/-- Something stands there still after changes around a directory, unless it was a file inside. -/
theorem LeadsTo.spared (leads : LeadsTo tree path place)
    (spares : FileTree.Spares directory tree after)
    (apart : ∀ bytes, tree.entry? place = some (.file bytes) → ¬ directory <+: place) :
    LeadsTo after path place where
  path_eq := leads.path_eq
  names := leads.names
  located := spares.keepsDirectories.locate leads.located
  stands := by
    obtain ⟨entry, found⟩ := Option.isSome_iff_exists.1 leads.stands
    cases entry with
    | directory => rw [spares.keepsDirectories.directory place found]; rfl
    | file bytes => rw [spares.file place bytes (apart bytes found) found]; rfl

theorem exists_leadsTo_of_resolve (sound : tree.WellFormed) {text : String}
    (resolved : tree.resolve (.ofString text) = .ok path)
    (found : (tree.lookup? path).isSome = true) : ∃ place, LeadsTo tree path place := by
  obtain ⟨place, rfl, names⟩ := exists_location_of_resolve sound resolved
  unfold FileTree.lookup? at found
  cases located : tree.locate (.ofLocation place) with
  | error fault =>
      rw [located] at found
      cases found
  | ok other =>
      rw [located] at found
      obtain rfl := FileTree.eq_of_locate_ofLocation names located
      exact ⟨_, rfl, names, located, found⟩

theorem leadsTo_of_isDirectory (names : ∀ name ∈ place, IsEntryName name)
    (here : tree.isDirectory (.ofLocation place) = true) :
    LeadsTo tree (.ofLocation place) place := by
  obtain ⟨location, located, found⟩ := FileTree.isDirectory_iff.1 here
  obtain rfl := FileTree.eq_of_locate_ofLocation names located
  exact ⟨rfl, names, located, by rw [found]; rfl⟩

end LeadsTo

namespace Invocation

variable {tree after : FileTree} {text : String} {path : FilePath}

theorem resolved_eq_ok : resolved tree text = .ok path ↔
    tree.resolve (.ofString text) = .ok path := by
  unfold resolved
  cases tree.resolve (.ofString text) with
  | error fault => exact iff_of_false (fun found => by cases found) (fun found => by cases found)
  | ok other => exact ⟨fun same => congrArg Except.ok (Except.ok.inj same), fun same => by
      rw [Except.ok.inj same]; rfl⟩

theorem existing_eq_ok : existing tree text = .ok path ↔
    tree.resolve (.ofString text) = .ok path ∧ (tree.lookup? path).isSome = true := by
  unfold existing
  rw [← resolved_eq_ok, except_bind_eq_ok]
  constructor
  · rintro ⟨other, found, checked⟩
    split at checked
    · next stands =>
        obtain rfl := Except.ok.inj checked
        exact ⟨found, stands⟩
    · cases checked
  · rintro ⟨found, stands⟩
    exact ⟨path, found, if_pos stands⟩

theorem outputPath_eq_ok : outputPath tree text = .ok path ↔
    tree.resolve (.ofString text) = .ok path ∧ ∀ bytes, tree.lookup? path ≠ some (.file bytes) := by
  unfold outputPath
  rw [← resolved_eq_ok, except_bind_eq_ok]
  constructor
  · rintro ⟨other, found, checked⟩
    split at checked
    · cases checked
    · next free =>
        obtain rfl := Except.ok.inj checked
        exact ⟨found, free⟩
  · rintro ⟨found, free⟩
    refine ⟨path, found, ?_⟩
    split
    · next bytes stands => exact absurd stands (free bytes)
    · rfl

def ofParts (arguments : Arguments) (configuration : Option FilePath) (path output : FilePath) :
    Invocation where
  targetNamespace := arguments.value? "namespace"
  recurse := arguments.has "recurse"
  clean := arguments.has "clean"
  pascalCase := arguments.has "pascal_case"
  nullable := arguments.has "nullable"
  configuration := configuration
  verbosity := arguments.count "verbose"
  path := path
  output := output

/-- What valid arguments consist of. -/
structure Describes (tree : FileTree) (arguments : Arguments) (invocation : Invocation)
    (first second : String) : Prop where
  positional : arguments.positional = [first, second]
  configuration : configuration? tree (arguments.value? "config") = .ok invocation.configuration
  path : existing tree first = .ok invocation.path
  output : outputPath tree second = .ok invocation.output
  parts : invocation =
    ofParts arguments invocation.configuration invocation.path invocation.output

theorem ofArguments_eq_ok {arguments : Arguments} {invocation : Invocation} :
    ofArguments tree arguments = .ok invocation ↔
      ∃ first second, Describes tree arguments invocation first second := by
  constructor
  · intro valid
    unfold ofArguments at valid
    obtain ⟨configuration, configured, valid⟩ := except_bind_eq_ok.1 valid
    split at valid
    · cases valid
    · next first rest given =>
        obtain ⟨path, found, valid⟩ := except_bind_eq_ok.1 valid
        cases rest with
        | nil => cases valid
        | cons second excess =>
            obtain ⟨output, placed, valid⟩ := except_bind_eq_ok.1 valid
            cases excess with
            | cons _ _ => cases valid
            | nil =>
                cases valid
                exact ⟨first, second, given, configured, found, placed, rfl⟩
  · rintro ⟨first, second, positional, configuration, path, output, parts⟩
    unfold ofArguments
    rw [configuration, positional]
    simp only [bind, Except.bind, path, output]
    exact congrArg Except.ok parts.symm

structure IsPlaced (invocation : Invocation) (tree : FileTree) (place directory : Location) :
    Prop where
  path : LeadsTo tree invocation.path place
  output_eq : invocation.output = .ofLocation directory
  names : ∀ name ∈ directory, IsEntryName name
  configuration : ∀ path, invocation.configuration = some path →
    ∃ place, LeadsTo tree path place

theorem Describes.exists_isPlaced (sound : tree.WellFormed) {arguments : Arguments}
    {invocation : Invocation} {first second : String}
    (described : Describes tree arguments invocation first second) :
    ∃ place directory, invocation.IsPlaced tree place directory := by
  obtain ⟨resolved, found⟩ := existing_eq_ok.1 described.path
  obtain ⟨place, leads⟩ := exists_leadsTo_of_resolve sound resolved found
  obtain ⟨directory, output_eq, names⟩ :=
    exists_location_of_resolve sound (outputPath_eq_ok.1 described.output).1
  refine ⟨place, directory, leads, output_eq, names, fun path given => ?_⟩
  have configured := described.configuration
  rw [given] at configured
  cases text? : arguments.value? "config" with
  | none =>
      rw [text?] at configured
      cases configured
  | some text =>
      rw [text?, configuration?] at configured
      cases found : existing tree text with
      | error request =>
          rw [found] at configured
          cases configured
      | ok other =>
          rw [found] at configured
          cases configured
          obtain ⟨resolved, stands⟩ := existing_eq_ok.1 found
          exact exists_leadsTo_of_resolve sound resolved stands

section Errors

variable {α β : Type}

/-- A result that, if it is no value, asks for something else than a use of the program. -/
def Rejects (result : Except Request α) : Prop :=
  ∀ invocation, result ≠ .error (.invoke invocation)

theorem rejects_ok (value : α) : Rejects (.ok value) :=
  fun _ same => by cases same

theorem rejects_invalid : Rejects (.error .invalid : Except Request α) :=
  fun _ same => by cases same

theorem Rejects.bind {result : Except Request α} (rejects : Rejects result)
    {next : α → Except Request β} (rejectsNext : ∀ value, Rejects (next value)) :
    Rejects (result >>= next) := by
  cases result with
  | error request => exact fun invocation same => rejects invocation (by rw [Except.error.inj same])
  | ok value => exact rejectsNext value

theorem rejects_resolved (tree : FileTree) (text : String) : Rejects (resolved tree text) := by
  unfold resolved
  cases tree.resolve (.ofString text) with
  | error fault => exact fun invocation same => by cases same
  | ok path => exact rejects_ok path

theorem rejects_existing (tree : FileTree) (text : String) : Rejects (existing tree text) := by
  refine (rejects_resolved tree text).bind fun path => ?_
  split
  · exact rejects_ok path
  · exact rejects_invalid

theorem rejects_outputPath (tree : FileTree) (text : String) : Rejects (outputPath tree text) := by
  refine (rejects_resolved tree text).bind fun path => ?_
  split
  · exact rejects_invalid
  · exact rejects_ok path

theorem rejects_configuration? (tree : FileTree) (text? : Option String) :
    Rejects (configuration? tree text?) := by
  cases text? with
  | none => exact rejects_ok none
  | some text =>
      have joined : configuration? tree (some text) =
          existing tree text >>= fun path => .ok (some path) := by
        rw [configuration?]
        cases existing tree text <;> rfl
      rw [joined]
      exact (rejects_existing tree text).bind fun path => rejects_ok (some path)

/-- Arguments that are not valid ask for no use of the program. -/
theorem rejects_ofArguments (tree : FileTree) (arguments : Arguments) :
    Rejects (ofArguments tree arguments) := by
  unfold ofArguments
  refine (rejects_configuration? tree _).bind fun configuration => ?_
  split
  · exact rejects_invalid
  · refine (rejects_existing tree _).bind fun path => ?_
    split
    · exact rejects_invalid
    · refine (rejects_outputPath tree _).bind fun output => ?_
      dsimp only
      split
      · exact rejects_invalid.bind fun _ => rejects_ok _
      · exact rejects_ok _

end Errors

end Invocation

variable {tree after : FileTree} {words : List String} {invocation : Invocation}

/-- Words ask for a use of the program if they can be read, do not ask for help and are valid. -/
theorem Request.ofWords_eq_invoke : Request.ofWords tree words = .invoke invocation ↔
    ∃ arguments, Arguments.read? (parameters ++ [helpParameter]) words = some arguments ∧
      arguments.has "help" = false ∧ Invocation.ofArguments tree arguments = .ok invocation := by
  unfold Request.ofWords
  cases Arguments.read? (parameters ++ [helpParameter]) words with
  | none =>
      exact iff_of_false (fun same => by cases same) (fun ⟨_, found, _⟩ => by cases found)
  | some arguments =>
      simp only [Option.some.injEq, exists_eq_left']
      cases help : arguments.has "help" with
      | true => exact iff_of_false (fun same => by cases same) (fun both => by cases both.1)
      | false =>
          rw [if_neg Bool.false_ne_true]
          have rejects := Invocation.rejects_ofArguments tree arguments
          cases valid : Invocation.ofArguments tree arguments with
          | error request =>
              refine iff_of_false (fun same => ?_) (fun both => by cases both.2)
              obtain rfl : request = .invoke invocation := same
              exact rejects invocation valid
          | ok other =>
              exact ⟨fun same => ⟨rfl, by rw [Request.invoke.inj same]⟩,
                fun both => by rw [Except.ok.inj both.2]⟩

/-- The same words ask for the same where the paths are found that must exist. -/
theorem Request.ofWords_again
    (sameDirectory : after.workingDirectory = tree.workingDirectory)
    (asks : Request.ofWords tree words = .invoke invocation)
    (path : (after.lookup? invocation.path).isSome = true)
    (configuration : ∀ path, invocation.configuration = some path →
      (after.lookup? path).isSome = true)
    (output : ∀ bytes, after.lookup? invocation.output ≠ some (.file bytes)) :
    Request.ofWords after words = .invoke invocation := by
  obtain ⟨arguments, read, help, valid⟩ := Request.ofWords_eq_invoke.1 asks
  obtain ⟨first, second, described⟩ := Invocation.ofArguments_eq_ok.1 valid
  have resolves : ∀ spelled, after.resolve spelled = tree.resolve spelled := fun spelled => by
    rw [FileTree.resolve, FileTree.resolve, sameDirectory]
  refine Request.ofWords_eq_invoke.2 ⟨arguments, read, help, Invocation.ofArguments_eq_ok.2
    ⟨first, second, described.positional, ?_, ?_, ?_, described.parts⟩⟩
  · have configured := described.configuration
    cases given : arguments.value? "config" with
    | none =>
        rw [given] at configured
        exact configured
    | some text =>
        rw [given] at configured
        cases found : Invocation.existing tree text with
        | error request =>
            rw [Invocation.configuration?, found] at configured
            cases configured
        | ok configPath =>
            rw [Invocation.configuration?, found] at configured
            have same := (Except.ok.inj configured).symm
            have again : Invocation.existing after text = .ok configPath :=
              Invocation.existing_eq_ok.2 ⟨by
                rw [resolves]
                exact (Invocation.existing_eq_ok.1 found).1, configuration configPath same⟩
            rw [Invocation.configuration?, again, same]
            rfl
  · refine Invocation.existing_eq_ok.2 ⟨?_, path⟩
    rw [resolves]
    exact (Invocation.existing_eq_ok.1 described.path).1
  · refine Invocation.outputPath_eq_ok.2 ⟨?_, output⟩
    rw [resolves]
    exact (Invocation.outputPath_eq_ok.1 described.output).1

end SchemaBinding.CommandLine
