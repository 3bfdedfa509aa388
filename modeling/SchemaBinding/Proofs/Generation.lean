import SchemaBinding.Generator
import SchemaBinding.Proofs.Graph

/-!
# Steps of generating code

What each step of a generator does, as an equation for each way in which it ends.
Only the last step, the writing, touches files: where an earlier one fails, all
files are as they were, and where the loading fails the generator is, too.
-/

namespace SchemaBinding.Generator

variable {tree : FileTree} {generator : Generator} {directory : String}

def loadedRecord (catalog : Catalog) : Record :=
  .info (s!"Loaded {catalog.schemas.length} schema(s): " ++
    s!"{catalog.complexTypes.size} complex type name(s), " ++
    s!"{catalog.simpleTypes.size} simple type name(s), " ++
    s!"{catalog.elements.size} global element(s)")

def generatedRecord (directory : String) (written : List FilePath) : Record :=
  .info s!"Generated {written.length} file(s) in {directory}"

def loading (tree : FileTree) (generator : Generator) : Run (List Schema) × Loader :=
  Loader.load tree generator.path.toString generator.configuration.recurse.isTrue .empty

/-- What a new generator loads depends on its path and on where it searches. -/
theorem loading_new (tree : FileTree) (path : FilePath) (configuration : Configuration)
    (line : String) : loading tree (.new path configuration line) =
      Loader.load tree path.toString configuration.recurse.isTrue .empty := rfl

/-- The model that a generator renders: the one that it has, or else one that it builds. -/
def obtainModel (tree : FileTree) : Action Generator Model := do
  match (← Action.state).model with
  | some model => return model
  | none => buildModel tree

def contentsOf (configuration : Configuration) (files : List (String × String)) :
    List (String × Content) :=
  files.map (fun file => (file.1, contentOf configuration file.2))

section Load

variable {records : List Record} {loader : Loader}

theorem load_of_error {failure : Failure}
    (fails : loading tree generator = (⟨records, .error failure⟩, loader)) :
    load tree generator = (⟨records, .error failure⟩, generator) := by
  unfold loading at fails
  simp only [load, bind, Action.bind, Action.state, Run.pure, fails, Action.ofRun,
    List.nil_append]

theorem load_of_ok {schemas : List Schema}
    (loads : loading tree generator = (⟨records, .ok schemas⟩, loader)) :
    load tree generator = (⟨records ++ [loadedRecord loader.catalog], .ok loader.catalog⟩,
      { generator with catalog := some loader.catalog }) := by
  unfold loading at loads
  simp only [load, bind, Action.bind, Action.state, Run.pure, loads, Action.ofRun,
    List.nil_append, Action.report, Run.report, Action.change, pure, Action.pure,
    List.append_nil]
  rfl

end Load

theorem buildModel_of_loaded {catalog : Catalog} (loaded : generator.catalog = some catalog) :
    buildModel tree generator =
      (⟨(modelOf catalog).records, .ok (modelOf catalog).value.2⟩,
        { generator with
          catalog := some (modelOf catalog).value.1
          model := some (modelOf catalog).value.2 }) := by
  simp only [buildModel, bind, Action.bind, Action.state, Run.pure, loaded, Action.ofRun,
    Action.change, pure, Action.pure, Run.ofLogged, List.nil_append, List.append_nil]

section Unloaded

variable (unloaded : generator.catalog = none)

include unloaded

theorem buildModel_of_load_error {records : List Record} {failure : Failure}
    {after : Generator} (fails : load tree generator = (⟨records, .error failure⟩, after)) :
    buildModel tree generator = (⟨records, .error failure⟩, after) := by
  simp only [buildModel, bind, Action.bind, Action.state, Run.pure, unloaded, fails,
    List.nil_append]

theorem buildModel_of_load_ok {records : List Record} {catalog : Catalog} {after : Generator}
    (loads : load tree generator = (⟨records, .ok catalog⟩, after)) :
    buildModel tree generator =
      (⟨records ++ (modelOf catalog).records, .ok (modelOf catalog).value.2⟩,
        { after with
          catalog := some (modelOf catalog).value.1
          model := some (modelOf catalog).value.2 }) := by
  simp only [buildModel, bind, Action.bind, Action.state, Run.pure, unloaded, loads,
    Action.ofRun, Action.change, pure, Action.pure, Run.ofLogged, List.nil_append,
    List.append_nil]

end Unloaded

theorem obtainModel_of_modelled {model : Model} (modelled : generator.model = some model) :
    obtainModel tree generator = (⟨[], .ok model⟩, generator) := by
  simp only [obtainModel, bind, Action.bind, Action.state, Run.pure, modelled, pure,
    Action.pure, List.nil_append]

theorem obtainModel_of_unmodelled (unmodelled : generator.model = none) :
    obtainModel tree generator = buildModel tree generator := by
  simp only [obtainModel, bind, Action.bind, Action.state, Run.pure, unmodelled,
    List.nil_append]

/-- How a model is obtained: it is held, built from what was loaded, or loaded now. -/
inductive Obtains (tree : FileTree) (generator : Generator) : Run Model × Generator → Prop where
  | held {model : Model} (modelled : generator.model = some model) :
      Obtains tree generator (⟨[], .ok model⟩, generator)
  | built {catalog : Catalog} (unmodelled : generator.model = none)
      (loaded : generator.catalog = some catalog) :
      Obtains tree generator (⟨(modelOf catalog).records, .ok (modelOf catalog).value.2⟩,
        { generator with
          catalog := some (modelOf catalog).value.1
          model := some (modelOf catalog).value.2 })
  | stopped {records : List Record} {failure : Failure} {loader : Loader}
      (unmodelled : generator.model = none) (unloaded : generator.catalog = none)
      (fails : loading tree generator = (⟨records, .error failure⟩, loader)) :
      Obtains tree generator (⟨records, .error failure⟩, generator)
  | loaded {records : List Record} {schemas : List Schema} {loader : Loader}
      (unmodelled : generator.model = none) (unloaded : generator.catalog = none)
      (loads : loading tree generator = (⟨records, .ok schemas⟩, loader)) :
      Obtains tree generator
        (⟨records ++ [loadedRecord loader.catalog] ++ (modelOf loader.catalog).records,
          .ok (modelOf loader.catalog).value.2⟩,
          { generator with
            catalog := some (modelOf loader.catalog).value.1
            model := some (modelOf loader.catalog).value.2 })

theorem obtains (tree : FileTree) (generator : Generator) :
    Obtains tree generator (obtainModel tree generator) := by
  cases modelled : generator.model with
  | some model =>
      rw [obtainModel_of_modelled modelled]
      exact .held modelled
  | none =>
      rw [obtainModel_of_unmodelled modelled]
      cases known : generator.catalog with
      | some catalog =>
          rw [buildModel_of_loaded known]
          exact .built modelled known
      | none =>
          rcases result : loading tree generator with ⟨⟨records, outcome⟩, loader⟩
          cases outcome with
          | error failure =>
              rw [buildModel_of_load_error known (load_of_error result)]
              exact .stopped modelled known result
          | ok schemas =>
              rw [buildModel_of_load_ok known (load_of_ok result)]
              exact .loaded modelled known result

/-- A generator obtains its model and renders that. -/
theorem render_eq_bind :
    render tree generator = (obtainModel tree >>= fun model =>
      Action.ofRun (renderModel generator.configuration generator.commandLine model))
        generator := by
  cases held : generator.model with
  | none =>
      simp only [render, obtainModel, bind, Action.bind, Action.state, Run.pure,
        List.nil_append, held]
  | some model =>
      simp only [render, obtainModel, bind, Action.bind, Action.state, Run.pure,
        List.nil_append, held]

section Generate

variable {records : List Record} {after : Generator}

theorem generate_of_error {failure : Failure}
    (fails : render tree generator = (⟨records, .error failure⟩, after)) :
    generate directory (generator, tree) = (⟨records, .error failure⟩, after, tree) := by
  simp only [generate, bind, Action.bind, Action.state, Action.onPart, Run.pure, fails,
    List.nil_append]

variable {files : List (String × String)}
  (renders : render tree generator = (⟨records, .ok files⟩, after))

include renders

theorem generate_of_unusable {failure : Failure}
    (unusable : outputOf after.configuration directory = .error failure) :
    generate directory (generator, tree) = (⟨records, .error failure⟩, after, tree) := by
  simp only [generate, bind, Action.bind, Action.state, Action.onPart, Run.pure, renders,
    Action.ofRun, Run.ofExcept, unusable, List.nil_append, List.append_nil]

variable {output : Output} (usable : outputOf after.configuration directory = .ok output)
  {more : List Record} {changed : FileTree}

include usable

theorem generate_of_write_error {failure : Failure}
    (fails : output.writeAll (contentsOf after.configuration files) tree =
      (⟨more, .error failure⟩, changed)) :
    generate directory (generator, tree) =
      (⟨records ++ more, .error failure⟩, after, changed) := by
  unfold contentsOf at fails
  simp only [generate, bind, Action.bind, Action.state, Action.onPart, Run.pure, renders,
    Action.ofRun, Run.ofExcept, usable, fails, List.nil_append]

theorem generate_of_write_ok {written : List FilePath}
    (writes : output.writeAll (contentsOf after.configuration files) tree =
      (⟨more, .ok written⟩, changed)) :
    generate directory (generator, tree) =
      (⟨records ++ (more ++ [generatedRecord directory written]), .ok written⟩,
        after, changed) := by
  unfold contentsOf at writes
  simp only [generate, bind, Action.bind, Action.state, Action.onPart, Run.pure, renders,
    Action.ofRun, Run.ofExcept, usable, writes, List.nil_append, Action.report, Run.report,
    pure, Action.pure, List.append_nil]
  rfl

end Generate

inductive Advance (generator : Generator) : Generator → Prop where
  | same : Advance generator generator
  | loaded (catalog : Catalog) : Advance generator { generator with catalog := some catalog }
  | modelled (catalog : Catalog) :
      Advance generator { generator with
        catalog := some (modelOf catalog).value.1
        model := some (modelOf catalog).value.2 }

theorem advance_load (tree : FileTree) (generator : Generator) :
    generator.Advance (load tree generator).2 := by
  rcases result : loading tree generator with ⟨⟨records, outcome⟩, loader⟩
  cases outcome with
  | error failure =>
      rw [load_of_error result]
      exact .same
  | ok schemas =>
      rw [load_of_ok result]
      exact .loaded loader.catalog

theorem advance_buildModel (tree : FileTree) (generator : Generator) :
    generator.Advance (buildModel tree generator).2 := by
  cases given : generator.catalog with
  | some catalog =>
      rw [buildModel_of_loaded given]
      exact .modelled catalog
  | none =>
      rcases result : loading tree generator with ⟨⟨records, outcome⟩, loader⟩
      cases outcome with
      | error failure =>
          rw [buildModel_of_load_error given (load_of_error result)]
          exact .same
      | ok schemas =>
          rw [buildModel_of_load_ok given (load_of_ok result)]
          exact .modelled loader.catalog

theorem advance_obtainModel (tree : FileTree) (generator : Generator) :
    generator.Advance (obtainModel tree generator).2 := by
  have obtains := obtains tree generator
  generalize obtainModel tree generator = result at obtains ⊢
  cases obtains with
  | held => exact .same
  | built => exact .modelled _
  | stopped => exact .same
  | loaded => exact .modelled _

/-- Rendering a model changes nothing once it is obtained. -/
theorem snd_render (tree : FileTree) (generator : Generator) :
    (render tree generator).2 = (obtainModel tree generator).2 := by
  rw [render_eq_bind]
  rcases result : obtainModel tree generator with ⟨⟨records, outcome⟩, after⟩
  cases outcome with
  | error failure => rw [Action.bind_of_error result]
  | ok model =>
      rw [Action.bind_of_ok result]
      rfl

theorem Advance.configuration_eq {after : Generator} (advance : generator.Advance after) :
    after.configuration = generator.configuration := by
  cases advance <;> rfl

theorem advance_render (tree : FileTree) (generator : Generator) :
    generator.Advance (render tree generator).2 := by
  rw [snd_render]
  exact advance_obtainModel tree generator

/-- How a generation ends: by the step that fails, or with all files written. -/
inductive Generates (directory : String) (tree : FileTree) (generator : Generator) :
    Run (List FilePath) × Generator × FileTree → Prop where
  | unrendered {records : List Record} {failure : Failure} {after : Generator}
      (fails : render tree generator = (⟨records, .error failure⟩, after)) :
      Generates directory tree generator (⟨records, .error failure⟩, after, tree)
  | unusable {records : List Record} {files : List (String × String)} {after : Generator}
      {failure : Failure} (renders : render tree generator = (⟨records, .ok files⟩, after))
      (unusable : outputOf generator.configuration directory = .error failure) :
      Generates directory tree generator (⟨records, .error failure⟩, after, tree)
  | unwritten {records more : List Record} {files : List (String × String)} {after : Generator}
      {output : Output} {failure : Failure} {changed : FileTree}
      (renders : render tree generator = (⟨records, .ok files⟩, after))
      (usable : outputOf generator.configuration directory = .ok output)
      (fails : output.writeAll (contentsOf generator.configuration files) tree =
        (⟨more, .error failure⟩, changed)) :
      Generates directory tree generator (⟨records ++ more, .error failure⟩, after, changed)
  | written {records more : List Record} {files : List (String × String)} {after : Generator}
      {output : Output} {written : List FilePath} {changed : FileTree}
      (renders : render tree generator = (⟨records, .ok files⟩, after))
      (usable : outputOf generator.configuration directory = .ok output)
      (writes : output.writeAll (contentsOf generator.configuration files) tree =
        (⟨more, .ok written⟩, changed)) :
      Generates directory tree generator
        (⟨records ++ (more ++ [generatedRecord directory written]), .ok written⟩, after, changed)

theorem generates (directory : String) (tree : FileTree) (generator : Generator) :
    Generates directory tree generator (generate directory (generator, tree)) := by
  have kept := (advance_render tree generator).configuration_eq
  rcases result : render tree generator with ⟨⟨records, outcome⟩, after⟩
  rw [result] at kept
  cases outcome with
  | error failure =>
      rw [generate_of_error result]
      exact .unrendered result
  | ok files =>
      cases usable : outputOf after.configuration directory with
      | error failure =>
          rw [generate_of_unusable result usable]
          exact .unusable result (kept ▸ usable)
      | ok output =>
          rcases writing : output.writeAll (contentsOf after.configuration files) tree with
            ⟨⟨more, outcome⟩, changed⟩
          cases outcome with
          | error failure =>
              rw [generate_of_write_error result usable writing]
              exact .unwritten result (kept ▸ usable) (kept ▸ writing)
          | ok written =>
              rw [generate_of_write_ok result usable writing]
              exact .written result (kept ▸ usable) (kept ▸ writing)

/-- Writing files changes nothing of the generator. -/
theorem fst_snd_generate (directory : String) (generator : Generator) (tree : FileTree) :
    (generate directory (generator, tree)).2.1 = (render tree generator).2 := by
  have steps := generates directory tree generator
  generalize generate directory (generator, tree) = result at steps ⊢
  cases steps with
  | unrendered fails => rw [fails]
  | unusable renders => rw [renders]
  | unwritten renders => rw [renders]
  | written renders => rw [renders]

theorem advance_generate (directory : String) (generator : Generator) (tree : FileTree) :
    generator.Advance (generate directory (generator, tree)).2.1 := by
  rw [fst_snd_generate]
  exact advance_render tree generator

inductive Phase where
  | loading
  | rendering
  /-- The settings of the output are looked up. -/
  | configuring
  | writing
deriving DecidableEq, Repr

/-- A step of generating code fails, after those before it have succeeded. -/
inductive FailsIn (directory : String) (tree : FileTree) (generator : Generator) :
    Phase → Failure → Prop where
  | loading {failure : Failure} (unmodelled : generator.model = none)
      (unloaded : generator.catalog = none)
      (fails : (load tree generator).1.outcome = .error failure) :
      FailsIn directory tree generator .loading failure
  | rendering {failure : Failure} {model : Model}
      (obtained : (obtainModel tree generator).1.outcome = .ok model)
      (fails : (renderModel generator.configuration generator.commandLine model).outcome =
        .error failure) :
      FailsIn directory tree generator .rendering failure
  | configuring {failure : Failure} {files : List (String × String)}
      (rendered : (render tree generator).1.outcome = .ok files)
      (fails : outputOf generator.configuration directory = .error failure) :
      FailsIn directory tree generator .configuring failure
  | writing {failure : Failure} {files : List (String × String)} {output : Output}
      (rendered : (render tree generator).1.outcome = .ok files)
      (given : outputOf generator.configuration directory = .ok output)
      (fails : (output.writeAll (contentsOf generator.configuration files) tree).1.outcome =
        .error failure) :
      FailsIn directory tree generator .writing failure

section Phases

variable {failure : Failure}

/-- A model is obtained unless it has to be built from schemas that cannot be loaded. -/
theorem obtainModel_eq_error :
    (obtainModel tree generator).1.outcome = .error failure ↔
      generator.model = none ∧ generator.catalog = none ∧
        (load tree generator).1.outcome = .error failure := by
  have obtains := obtains tree generator
  generalize obtainModel tree generator = result at obtains ⊢
  cases obtains with
  | held modelled => simp [modelled]
  | built _ loaded => simp [loaded]
  | stopped unmodelled unloaded fails => simp [unmodelled, unloaded, load_of_error fails]
  | loaded _ _ loads => simp [load_of_ok loads]

theorem failsIn_loading_iff :
    FailsIn directory tree generator .loading failure ↔
      (obtainModel tree generator).1.outcome = .error failure := by
  rw [obtainModel_eq_error]
  constructor
  · intro fails
    cases fails with
    | loading unmodelled unloaded fails => exact ⟨unmodelled, unloaded, fails⟩
  · rintro ⟨unmodelled, unloaded, fails⟩
    exact .loading unmodelled unloaded fails

theorem failsIn_rendering_iff :
    FailsIn directory tree generator .rendering failure ↔
      ∃ model, (obtainModel tree generator).1.outcome = .ok model ∧
        (renderModel generator.configuration generator.commandLine model).outcome =
          .error failure := by
  constructor
  · intro fails
    cases fails with
    | rendering obtained fails => exact ⟨_, obtained, fails⟩
  · rintro ⟨model, obtained, fails⟩
    exact .rendering obtained fails

variable (directory) in
/-- Rendering fails with the loading, or because of a file of the model. -/
theorem render_eq_error :
    (render tree generator).1.outcome = .error failure ↔
      FailsIn directory tree generator .loading failure ∨
        FailsIn directory tree generator .rendering failure := by
  rw [failsIn_loading_iff, failsIn_rendering_iff, render_eq_bind]
  rcases result : obtainModel tree generator with ⟨⟨records, outcome⟩, after⟩
  cases outcome with
  | error other =>
      rw [Action.bind_of_error result]
      simp
  | ok model =>
      rw [Action.bind_of_ok result]
      constructor
      · exact fun fails => .inr ⟨model, rfl, fails⟩
      · rintro (same | ⟨_, same, fails⟩)
        · cases same
        · cases same
          exact fails

/-- Where a step fails, generating code does, and only the writing may have touched files. -/
theorem FailsIn.generate {phase : Phase} (fails : FailsIn directory tree generator phase failure) :
    (generate directory (generator, tree)).1.outcome = .error failure ∧
      (phase ≠ .writing → (generate directory (generator, tree)).2.2 = tree) := by
  have kept := (advance_render tree generator).configuration_eq
  have early : (render tree generator).1.outcome = .error failure →
      (Generator.generate directory (generator, tree)).1.outcome = .error failure ∧
        (Generator.generate directory (generator, tree)).2.2 = tree := by
    intro rendering
    rcases result : render tree generator with ⟨⟨records, outcome⟩, after⟩
    rw [result] at rendering
    obtain rfl : outcome = .error failure := rendering
    rw [generate_of_error result]
    exact ⟨rfl, rfl⟩
  rcases result : render tree generator with ⟨⟨records, outcome⟩, after⟩
  rw [result] at kept
  cases fails with
  | loading unmodelled unloaded fails =>
      have both := early ((render_eq_error directory).2 (.inl (.loading unmodelled unloaded fails)))
      exact ⟨both.1, fun _ => both.2⟩
  | rendering obtained fails =>
      have both := early ((render_eq_error directory).2 (.inr (.rendering obtained fails)))
      exact ⟨both.1, fun _ => both.2⟩
  | configuring rendered fails =>
      rw [result] at rendered
      obtain rfl : outcome = .ok _ := rendered
      rw [generate_of_unusable result (kept ▸ fails)]
      exact ⟨rfl, fun _ => rfl⟩
  | @writing _ files output rendered given fails =>
      rw [result] at rendered
      obtain rfl : outcome = .ok files := rendered
      rw [← kept] at given fails
      rcases writing : output.writeAll (contentsOf after.configuration files) tree with
        ⟨⟨more, outcome⟩, changed⟩
      rw [writing] at fails
      obtain rfl : outcome = .error failure := fails
      rw [generate_of_write_error result given writing]
      exact ⟨rfl, fun different => absurd rfl different⟩

/-- A generation that fails does so in one of its steps. -/
theorem exists_failsIn (fails : (generate directory (generator, tree)).1.outcome = .error failure) :
    ∃ phase, FailsIn directory tree generator phase failure := by
  have steps := generates directory tree generator
  generalize generate directory (generator, tree) = result at fails steps
  cases steps with
  | unrendered stops =>
      cases fails
      rcases (render_eq_error directory).1 (by rw [stops]) with early | late
      · exact ⟨.loading, early⟩
      · exact ⟨.rendering, late⟩
  | unusable renders unusable =>
      cases fails
      exact ⟨.configuring, .configuring (by rw [renders]) unusable⟩
  | unwritten renders usable stops =>
      cases fails
      exact ⟨.writing, .writing (by rw [renders]) usable (by rw [stops])⟩
  | written => cases fails

end Phases

/-- A generator whose loading fails keeps what it had. -/
theorem snd_load_of_error {failure : Failure}
    (fails : (load tree generator).1.outcome = .error failure) :
    (load tree generator).2 = generator := by
  rcases result : loading tree generator with ⟨⟨records, outcome⟩, loader⟩
  cases outcome with
  | error other => rw [load_of_error result]
  | ok schemas =>
      rw [load_of_ok result] at fails
      cases fails

/--
A generation that fails does so in one of its steps.  Unless that is the writing,
all files are as they were before, and where the loading fails, in a call of its
own or on the way to the model, the generator keeps what it had, too.
-/
theorem generate_keepsFiles (directory : String) (generator : Generator) (tree : FileTree) :
    (∀ failure, (generate directory (generator, tree)).1.outcome = .error failure ↔
      ∃ phase, FailsIn directory tree generator phase failure) ∧
    (∀ phase failure, FailsIn directory tree generator phase failure → phase ≠ .writing →
      (generate directory (generator, tree)).2.2 = tree) ∧
    (∀ failure, (load tree generator).1.outcome = .error failure →
      (load tree generator).2 = generator) ∧
    (∀ failure, FailsIn directory tree generator .loading failure →
      (generate directory (generator, tree)).2 = (generator, tree)) := by
  refine ⟨fun failure => ⟨exists_failsIn, fun ⟨phase, fails⟩ => fails.generate.1⟩,
    fun phase failure fails early => fails.generate.2 early,
    fun failure fails => snd_load_of_error fails, fun failure fails => ?_⟩
  have files := fails.generate.2 (by decide)
  cases fails with
  | loading unmodelled unloaded fails =>
      refine Prod.ext ?_ files
      rw [fst_snd_generate, snd_render, obtainModel_of_unmodelled unmodelled]
      rcases result : load tree generator with ⟨⟨records, outcome⟩, after⟩
      have kept := snd_load_of_error fails
      rw [result] at fails kept
      obtain rfl : outcome = .error failure := fails
      rw [buildModel_of_load_error unloaded result]
      exact kept

/-- A document that refers to a torn one, beside a directory with an older file. -/
def tornTree : FileTree where
  entries := [
    (["a.xsd"], Loader.textFile (
      "<schema xmlns='http://www.w3.org/2001/XMLSchema'>" ++
      "<complexType name='Lamp'/><include schemaLocation='b.xsd'/></schema>")),
    (["b.xsd"], Loader.textFile "<schema"),
    (["out"], .directory),
    (["out", "Lamp.cs"], Loader.textFile "lamp")]
  workingDirectory := []

def tornGenerator : Generator :=
  .new (.ofString "a.xsd") { cleanOutput := .boolean true } "generate"

theorem generate_keepsFiles_tornTree :
    (load tornTree tornGenerator).1.outcome =
        .error (.schema (.ofLocation ["b.xsd"]) .notWellFormed) ∧
      (load tornTree tornGenerator).2 = tornGenerator ∧
      (generate "out" (tornGenerator, tornTree)).1.outcome =
        .error (.schema (.ofLocation ["b.xsd"]) .notWellFormed) ∧
      (generate "out" (tornGenerator, tornTree)).2 = (tornGenerator, tornTree) := by
  have main := generate_keepsFiles "out" tornGenerator tornTree
  have torn : (load tornTree tornGenerator).1.outcome.map (fun _ => ()) =
      .error (.schema (.ofLocation ["b.xsd"]) .notWellFormed) := by
    simp only [tornTree, Loader.textFile, String.toList_append, String.reduceToList]
    decide +kernel
  have fails : (load tornTree tornGenerator).1.outcome =
      .error (.schema (.ofLocation ["b.xsd"]) .notWellFormed) := by
    cases result : (load tornTree tornGenerator).1.outcome with
    | ok catalog =>
        rw [result] at torn
        cases torn
    | error failure =>
        rw [result] at torn
        exact congrArg Except.error (Except.error.inj torn)
  have inLoading : FailsIn "out" tornTree tornGenerator .loading _ := .loading rfl rfl fails
  exact ⟨fails, main.2.2.1 _ fails, (main.1 _).2 ⟨_, inLoading⟩, main.2.2.2 _ inLoading⟩

end SchemaBinding.Generator
