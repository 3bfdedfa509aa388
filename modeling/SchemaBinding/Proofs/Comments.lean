import SchemaBinding.Proofs.AlikeTrees
import SchemaBinding.Proofs.Artifacts

/-!
# Comments of generated files

The command line is told in nothing but the comment on the origin of a file, and
some settings are not told at all.  Two generations that differ in these do the
same, and leave files that differ in nothing but their comments.
-/

namespace SchemaBinding

open Text

namespace Configuration

/-- Two configurations that differ in nothing but settings without effect. -/
def AlikeButInert (configuration other : Configuration) : Prop :=
  ∃ pascalCase nullable, other = { configuration with pascalCase, nullable }

end Configuration

namespace CSharp

def commentText (configuration : Configuration) (commandLine : String) : String :=
  textOf (commentLines configuration commandLine)

/-- Files that are equal, or that differ in nothing but the command line in their comment. -/
def DiffersInComment (configuration : Configuration) (line otherLine : String)
    (bytes others : List UInt8) : Prop :=
  bytes = others ∨ ∃ rest, bytes = Utf8.encode (commentText configuration line ++ rest).toList ∧
    others = Utf8.encode (commentText configuration otherLine ++ rest).toList

/-- Files without comments do not differ. -/
theorem DiffersInComment.eq {configuration : Configuration} {line otherLine : String}
    (off : configuration.addGenerationComment.isTrue = false) {bytes others : List UInt8}
    (differs : DiffersInComment configuration line otherLine bytes others) : bytes = others := by
  rcases differs with same | ⟨rest, rfl, rfl⟩
  · exact same
  · rw [commentText, commentText, commentLines, commentLines, off]
    rfl

/-- Files with one line in their comments do not differ. -/
theorem DiffersInComment.eq_of_line {configuration : Configuration} {line : String}
    {bytes others : List UInt8} (differs : DiffersInComment configuration line line bytes others) :
    bytes = others := by
  rcases differs with same | ⟨rest, rfl, rfl⟩
  · exact same
  · rfl

theorem textOf_append (lines others : List String) :
    textOf (lines ++ others) = textOf lines ++ textOf others := by
  rw [textOf, List.map_append, String.join_append]
  rfl

variable {configuration other : Configuration} (alike : configuration.AlikeButInert other)
variable (line otherLine : String) (artifact : Artifact)
include alike

theorem fileName_eq_of_alike : fileName other artifact = fileName configuration artifact := by
  obtain ⟨pascalCase, nullable, rfl⟩ := alike
  rfl

/-- The sources of an artifact differ in nothing but their comments. -/
theorem source_cases :
    (∃ failure, source configuration line artifact = .error failure ∧
      source other otherLine artifact = .error failure) ∨
    ∃ rest, source configuration line artifact = .ok (commentText configuration line ++ rest) ∧
      source other otherLine artifact = .ok (commentText configuration otherLine ++ rest) := by
  obtain ⟨pascalCase, nullable, rfl⟩ := alike
  have same : Configuration.usings { configuration with pascalCase, nullable } =
    configuration.usings := rfl
  unfold source
  rw [same]
  cases configuration.usings with
  | error failure => exact .inl ⟨failure, rfl, rfl⟩
  | ok usings =>
      refine .inr ⟨textOf (((sortedNames (neededUsings artifact ++ usings)).map
        (fun name => "using " ++ name ++ ";")) ++ [""] ++
          inNamespace configuration.targetNamespace (artifactLines artifact)), ?_, ?_⟩
      · rw [commentText, ← textOf_append, ← List.append_assoc, ← List.append_assoc]
        rfl
      · rw [commentText, ← textOf_append, ← List.append_assoc, ← List.append_assoc]
        rfl

end CSharp

namespace Generator

open CSharp (DiffersInComment commentText)

/-- Files of one name whose texts differ in nothing but their comments. -/
structure RenderedAlike (configuration : Configuration) (line otherLine : String)
    (file other : String × String) : Prop where
  name_eq : file.1 = other.1
  text : DiffersInComment configuration line otherLine (Utf8.encode file.2.toList)
    (Utf8.encode other.2.toList)

variable {configuration otherConfiguration : Configuration} {line otherLine : String}
variable {files others : List (String × String)}

theorem any_name_eq
    (each : List.Forall₂ (RenderedAlike configuration line otherLine) files others)
    (name : String) : files.any (·.1 == name) = others.any (·.1 == name) := by
  induction each with
  | nil => rfl
  | cons first _ ih => rw [List.any_cons, List.any_cons, ih, first.name_eq]

theorem forall₂_putFile
    (each : List.Forall₂ (RenderedAlike configuration line otherLine) files others)
    (name : String) {text otherText : String}
    (same : DiffersInComment configuration line otherLine (Utf8.encode text.toList)
      (Utf8.encode otherText.toList)) :
    List.Forall₂ (RenderedAlike configuration line otherLine) (putFile files name text)
      (putFile others name otherText) := by
  unfold putFile Model.assign
  rw [any_name_eq each]
  split
  · refine List.rel_map (fun file other alike => ?_) each
    rw [alike.name_eq]
    by_cases here : other.1 = name
    · rw [if_pos here, if_pos here]
      exact ⟨rfl, same⟩
    · rw [if_neg here, if_neg here]
      exact alike
  · exact List.rel_append each (.cons ⟨rfl, same⟩ .nil)

section Alike

variable (alike : configuration.AlikeButInert otherConfiguration)
include alike

theorem alike_renderNext
    (each : List.Forall₂ (RenderedAlike configuration line otherLine) files others)
    (artifact : Artifact) :
    Run.Alike (List.Forall₂ (RenderedAlike configuration line otherLine))
      (renderNext configuration line files artifact)
      (renderNext otherConfiguration otherLine others artifact) := by
  have puts : ∀ name, Run.Alike (List.Forall₂ (RenderedAlike configuration line otherLine))
      (Run.ofExcept (CSharp.source configuration line artifact) >>= fun text =>
        pure (putFile files name text))
      (Run.ofExcept (CSharp.source otherConfiguration otherLine artifact) >>= fun text =>
        pure (putFile others name text)) := by
    intro name
    rcases CSharp.source_cases alike line otherLine artifact with
      ⟨failure, fails, alsoFails⟩ | ⟨rest, written, alsoWritten⟩
    · rw [fails, alsoFails]
      exact .fails _ failure
    · rw [written, alsoWritten]
      have differ : DiffersInComment configuration line otherLine
          (Utf8.encode (commentText configuration line ++ rest).toList)
          (Utf8.encode (commentText configuration otherLine ++ rest).toList) :=
        .inr ⟨rest, rfl, rfl⟩
      exact Run.alike_pure (forall₂_putFile each name differ)
  unfold renderNext
  rw [CSharp.fileName_eq_of_alike alike]
  refine (Run.alike_same _).bind ?_
  rintro name _ rfl
  rw [any_name_eq each]
  split
  · exact (Run.alike_same _).bind fun _ _ _ => puts name
  · exact puts name

/-- The artifacts of a model are rendered to files that differ in nothing but their comments. -/
theorem alike_renderModel (model : Model) :
    Run.Alike (List.Forall₂ (RenderedAlike configuration line otherLine))
      (renderModel configuration line model)
      (renderModel otherConfiguration otherLine model) := by
  have start : List.Forall₂ (RenderedAlike configuration line otherLine) [] [] := .nil
  unfold renderModel
  generalize ([] : List (String × String)) = files at start ⊢
  suffices all : ∀ {files others},
      List.Forall₂ (RenderedAlike configuration line otherLine) files others →
      Run.Alike (List.Forall₂ (RenderedAlike configuration line otherLine))
        (model.artifacts.foldlM (renderNext configuration line) files)
        (model.artifacts.foldlM (renderNext otherConfiguration otherLine) others) from all start
  induction model.artifacts with
  | nil => exact fun each => Run.alike_pure each
  | cons artifact rest ih =>
      intro files others each
      rw [List.foldlM_cons, List.foldlM_cons]
      exact (alike_renderNext alike each artifact).bind fun _ _ => ih

theorem alike_contentOf {text otherText : String}
    (same : DiffersInComment configuration line otherLine (Utf8.encode text.toList)
      (Utf8.encode otherText.toList)) :
    (contentOf configuration text).Alike (DiffersInComment configuration line otherLine)
      (contentOf otherConfiguration otherText) := by
  obtain ⟨pascalCase, nullable, rfl⟩ := alike
  have settings : contentOf { configuration with pascalCase, nullable } otherText =
    contentOf configuration otherText := rfl
  rw [settings]
  unfold contentOf
  cases configuration.misnaming? with
  | some place => cases place <;> exact .other (fun _ isText => by cases isText)
  | none =>
      cases configuration.isUnpaired with
      | true => exact .other (fun _ isText => by cases isText)
      | false => exact .text same

theorem alike_contentsOf
    (each : List.Forall₂ (RenderedAlike configuration line otherLine) files others) :
    List.Forall₂ (Output.FilesAlike (DiffersInComment configuration line otherLine))
      (contentsOf configuration files) (contentsOf otherConfiguration others) :=
  List.rel_map (fun _ _ same => ⟨same.name_eq, alike_contentOf alike same.text⟩) each

end Alike

def writeFiles (configuration : Configuration) (directory : String)
    (files : List (String × String)) : FileAction (List FilePath) := do
  let output ← Action.ofRun (.ofExcept (outputOf configuration directory))
  let written ← output.writeAll (contentsOf configuration files)
  Action.report (generatedRecord directory written)
  return written

/-- What is left of a generation once its model is obtained. -/
def finish (configuration : Configuration) (commandLine directory : String) (model : Run Model) :
    FileAction (List FilePath) := do
  let files ← Action.ofRun (model >>= renderModel configuration commandLine)
  writeFiles configuration directory files

/-- A generation that has rendered its files writes them. -/
theorem generate_of_rendered {generator after : Generator} {directory : String}
    {tree : FileTree} {records : List Record}
    (renders : render tree generator = (⟨records, .ok files⟩, after)) :
    generate directory (generator, tree) =
      (⟨records ++ (writeFiles after.configuration directory files tree).1.records,
        (writeFiles after.configuration directory files tree).1.outcome⟩,
        after, (writeFiles after.configuration directory files tree).2) := by
  unfold writeFiles
  cases usable : outputOf after.configuration directory with
  | error failure =>
      rw [generate_of_unusable renders usable]
      exact Prod.ext (by simp [bind, Action.bind, Action.ofRun, Run.ofExcept]) rfl
  | ok output =>
      have given : (Action.ofRun (.ofExcept (.ok output)) : FileAction Output) tree =
        (⟨[], .ok output⟩, tree) := rfl
      rw [Action.bind_of_ok given]
      rcases writing : output.writeAll (contentsOf after.configuration files) tree with
        ⟨⟨more, outcome⟩, changed⟩
      cases outcome with
      | error failure =>
          rw [generate_of_write_error renders usable writing, Action.bind_of_error writing]
          rfl
      | ok written =>
          rw [generate_of_write_ok renders usable writing, Action.bind_of_ok writing]
          rfl

/-- A generation obtains its model, and then it looks at nothing but its settings. -/
theorem generate_eq_finish (generator : Generator) (directory : String) (tree : FileTree) :
    ((generate directory (generator, tree)).1, (generate directory (generator, tree)).2.2) =
      finish generator.configuration generator.commandLine directory
        (obtainModel tree generator).1 tree := by
  rcases obtained : obtainModel tree generator with ⟨⟨early, outcome⟩, after⟩
  have same : after.configuration = generator.configuration := by
    have advance := advance_obtainModel tree generator
    rw [obtained] at advance
    exact advance.configuration_eq
  have rendering := @render_eq_bind tree generator
  unfold finish
  cases outcome with
  | error failure =>
      rw [Action.bind_of_error obtained] at rendering
      rw [generate_of_error rendering]
      rfl
  | ok model =>
      rw [Action.bind_of_ok obtained] at rendering
      have joined : (⟨early, .ok model⟩ : Run Model) >>=
          renderModel generator.configuration generator.commandLine =
        ⟨early ++ (renderModel generator.configuration generator.commandLine model).records,
          (renderModel generator.configuration generator.commandLine model).outcome⟩ := rfl
      have rendered : render tree generator =
          (⟨early ++ (renderModel generator.configuration generator.commandLine model).records,
            (renderModel generator.configuration generator.commandLine model).outcome⟩, after) :=
        rendering
      rw [joined]
      cases outcome : (renderModel generator.configuration generator.commandLine model).outcome with
      | error failure =>
          rw [outcome] at rendered
          rw [generate_of_error rendered]
          rfl
      | ok files =>
          rw [outcome] at rendered
          rw [generate_of_rendered rendered, same]
          rfl

/-- The model that a new generator obtains depends on its path and on where it searches. -/
theorem fst_obtainModel_new (tree : FileTree) (path : FilePath) (line otherLine : String)
    (same : otherConfiguration.recurse = configuration.recurse) :
    (obtainModel tree (.new path otherConfiguration otherLine)).1 =
      (obtainModel tree (.new path configuration line)).1 := by
  have loads : loading tree (.new path otherConfiguration otherLine) =
      loading tree (.new path configuration line) := by
    unfold loading new
    rw [same]
  rw [obtainModel_of_unmodelled rfl, obtainModel_of_unmodelled rfl]
  rcases result : loading tree (.new path configuration line) with ⟨⟨records, outcome⟩, loader⟩
  rw [result] at loads
  cases outcome with
  | error failure =>
      rw [buildModel_of_load_error rfl (load_of_error result),
        buildModel_of_load_error rfl (load_of_error loads)]
  | ok schemas =>
      rw [buildModel_of_load_ok rfl (load_of_ok result),
        buildModel_of_load_ok rfl (load_of_ok loads)]

/-- Generations whose settings differ without effect do the same but for the comments. -/
theorem alike_finish {configuration otherConfiguration : Configuration}
    (alike : configuration.AlikeButInert otherConfiguration) (line otherLine directory : String)
    (model : Run Model) :
    FileAction.Alike (DiffersInComment configuration line otherLine) Eq
      (finish configuration line directory model)
      (finish otherConfiguration otherLine directory model) := by
  have same : outputOf otherConfiguration directory = outputOf configuration directory := by
    obtain ⟨pascalCase, nullable, rfl⟩ := alike
    rfl
  have renders : Run.Alike (List.Forall₂ (RenderedAlike configuration line otherLine))
      (model >>= renderModel configuration line)
      (model >>= renderModel otherConfiguration otherLine) := by
    refine (Run.alike_same model).bind ?_
    rintro value _ rfl
    exact alike_renderModel alike value
  unfold finish writeFiles
  rw [same]
  refine (FileAction.alike_ofRun renders).bind fun files others each => ?_
  refine (FileAction.alike_ofRun (Run.alike_same _)).bind ?_
  rintro output _ rfl
  refine (Output.alike_writeAll output (fun _ => .inl rfl) (alike_contentsOf alike each)).bind ?_
  rintro written _ rfl
  exact (FileAction.alike_report _).bind fun _ _ _ => FileAction.alike_pure rfl

end Generator

end SchemaBinding
