import SchemaBinding.Proofs.Comments
import SchemaBinding.Proofs.Histories
import SchemaBinding.Proofs.Rebuilding

/-!
# Sessions of a generator

A generator is asked to load, to build its model, to render and to generate, in
any order and while its files change.  Beside its state stands what was loaded
last and what its model was built from.  These differ where schemas are loaded
again after a model was built: what is rendered then is the model of before,
until it is built again.
-/

namespace SchemaBinding.Generator

inductive Call where
  | load
  | buildModel
  | render
  | generate (directory : String)

def next (generator : Generator) : FileTree × Call → Generator
  | (tree, .load) => (load tree generator).2
  | (tree, .buildModel) => (buildModel tree generator).2
  | (tree, .render) => (render tree generator).2
  | (tree, .generate directory) => (generate directory (generator, tree)).2.1

def after (start : Generator) (history : List (FileTree × Call)) : Generator :=
  history.foldl next start

/-- The catalogue of the schemas that a new loader finds, unless it fails. -/
def fresh? (start : Generator) (tree : FileTree) : Option Catalog :=
  (loading tree start).1.outcome.toOption.map (fun _ => (loading tree start).2.catalog)

/-- What a generator ought to go by, and what it goes by. -/
structure Standing where
  /-- The catalogue of the last loading that succeeded. -/
  latest : Option Catalog
  /-- The catalogue whose model was built last. -/
  built : Option Catalog

namespace Standing

/-- Whatever needs a catalogue loads one if there is none, and a model is built if there is none. -/
def next (start : Generator) (standing : Standing) : FileTree × Call → Standing
  | (tree, .load) => { standing with latest := (start.fresh? tree).or standing.latest }
  | (tree, .buildModel) =>
      let latest := standing.latest.or (start.fresh? tree)
      ⟨latest, latest⟩
  | (tree, .render) | (tree, .generate _) =>
      let latest := standing.latest.or (start.fresh? tree)
      ⟨latest, standing.built.or latest⟩

end Standing

def standing (start : Generator) (history : List (FileTree × Call)) : Standing :=
  history.foldl (Standing.next start) ⟨none, none⟩

structure Follows (start generator : Generator) (standing : Standing) : Prop where
  path_eq : generator.path = start.path
  configuration_eq : generator.configuration = start.configuration
  commandLine_eq : generator.commandLine = start.commandLine
  unloaded : standing.latest = none → generator.catalog = none ∧ standing.built = none
  loaded : ∀ catalog, standing.latest = some catalog →
    generator.catalog = some catalog ∨ generator.catalog = some catalog.completed
  model_eq : generator.model = standing.built.map (fun catalog => (modelOf catalog).value.2)

section Step

variable {start generator : Generator} {standing : Standing} {tree : FileTree}
variable (follows : Follows start generator standing)

include follows

theorem Follows.loading_eq (tree : FileTree) : loading tree generator = loading tree start := by
  rw [loading, follows.path_eq, follows.configuration_eq]
  rfl

theorem load_of_fresh {catalog : Catalog} (found : start.fresh? tree = some catalog) :
    ∃ records, load tree generator =
      (⟨records, .ok catalog⟩, { generator with catalog := some catalog }) := by
  rcases result : loading tree start with ⟨⟨records, outcome⟩, loader⟩
  rw [fresh?, result] at found
  rw [← follows.loading_eq tree] at result
  cases outcome with
  | error failure => cases found
  | ok schemas =>
      cases found
      exact ⟨_, load_of_ok result⟩

theorem load_of_not_fresh (missing : start.fresh? tree = none) :
    ∃ records failure, load tree generator = (⟨records, .error failure⟩, generator) := by
  rcases result : loading tree start with ⟨⟨records, outcome⟩, loader⟩
  rw [fresh?, result] at missing
  rw [← follows.loading_eq tree] at result
  cases outcome with
  | ok schemas => cases missing
  | error failure => exact ⟨records, failure, load_of_error result⟩

theorem Follows.of_load :
    Follows start (load tree generator).2 (standing.next start (tree, .load)) := by
  cases found : start.fresh? tree with
  | none =>
      obtain ⟨records, failure, fails⟩ := load_of_not_fresh follows found
      have same : standing.next start (tree, .load) = standing := by
        rw [Standing.next, found, Option.none_or]
      rw [fails, same]
      exact follows
  | some catalog =>
      obtain ⟨records, loads⟩ := load_of_fresh follows found
      rw [loads, Standing.next, found, Option.some_or]
      refine ⟨follows.path_eq, follows.configuration_eq, follows.commandLine_eq, ?_, ?_,
        follows.model_eq⟩
      · intro absent
        cases absent
      · rintro _ ⟨⟩
        exact .inl rfl

theorem Follows.of_built (catalog : Catalog) :
    Follows start (generator.built catalog) ⟨some catalog, some catalog⟩ where
  path_eq := follows.path_eq
  configuration_eq := follows.configuration_eq
  commandLine_eq := follows.commandLine_eq
  unloaded absent := by cases absent
  loaded := by
    rintro _ ⟨⟩
    exact .inr rfl
  model_eq := rfl

/-- A model is built from what was loaded last, or from what is loaded now. -/
theorem buildModel_of_some {catalog : Catalog}
    (given : standing.latest.or (start.fresh? tree) = some catalog) :
    (buildModel tree generator).1.outcome = .ok (modelOf catalog).value.2 ∧
      (buildModel tree generator).2 = generator.built catalog := by
  cases latest : standing.latest with
  | some other =>
      rw [latest, Option.some_or] at given
      cases given
      rcases follows.loaded catalog latest with loaded | loaded
      · rw [buildModel_eq_built loaded]
        exact ⟨rfl, rfl⟩
      · -- The model was built before, and its catalogue is complete.
        rw [buildModel_eq_built loaded, value_modelOf_completed, built_completed]
        exact ⟨rfl, rfl⟩
  | none =>
      rw [latest, Option.none_or] at given
      obtain ⟨records, loads⟩ := load_of_fresh follows given
      rw [buildModel_of_load_ok (follows.unloaded latest).1 loads, fst_value_modelOf]
      exact ⟨rfl, rfl⟩

theorem snd_buildModel_of_none (missing : standing.latest.or (start.fresh? tree) = none) :
    (buildModel tree generator).2 = generator := by
  obtain ⟨latest, found⟩ := Option.or_eq_none_iff.1 missing
  obtain ⟨records, failure, fails⟩ := load_of_not_fresh follows found
  rw [buildModel_of_load_error (follows.unloaded latest).1 fails]

theorem Follows.of_buildModel :
    Follows start (buildModel tree generator).2 (standing.next start (tree, .buildModel)) := by
  cases given : standing.latest.or (start.fresh? tree) with
  | some catalog =>
      rw [(buildModel_of_some follows given).2, Standing.next, given]
      exact follows.of_built catalog
  | none =>
      obtain ⟨latest, built⟩ := standing
      obtain ⟨rfl, -⟩ := Option.or_eq_none_iff.1 given
      obtain rfl := (follows.unloaded rfl).2
      rw [snd_buildModel_of_none follows given, Standing.next, given]
      exact follows

/-- The model that is rendered is the one that was built, if there is one. -/
theorem obtainModel_of_some {catalog : Catalog}
    (given : (standing.next start (tree, .render)).built = some catalog) :
    (obtainModel tree generator).1.outcome = .ok (modelOf catalog).value.2 := by
  have modelled := follows.model_eq
  cases built : standing.built with
  | some other =>
      rw [Standing.next, built, Option.some_or] at given
      cases given
      rw [built] at modelled
      rw [obtainModel_of_modelled modelled]
  | none =>
      rw [Standing.next, built, Option.none_or] at given
      rw [built] at modelled
      rw [obtainModel_of_unmodelled modelled]
      exact (buildModel_of_some follows given).1

theorem Follows.of_obtainModel :
    Follows start (obtainModel tree generator).2 (standing.next start (tree, .render)) := by
  have modelled := follows.model_eq
  cases built : standing.built with
  | some catalog =>
      rw [built] at modelled
      rw [obtainModel_of_modelled modelled]
      obtain ⟨latest, built⟩ := standing
      cases latest with
      | none =>
          have unbuilt := (follows.unloaded rfl).2
          rw [built] at unbuilt
          cases unbuilt
      | some other =>
          cases built
          exact follows
  | none =>
      have same : standing.next start (tree, .render) =
          standing.next start (tree, .buildModel) := by
        rw [Standing.next, Standing.next, built, Option.none_or]
      rw [built] at modelled
      rw [obtainModel_of_unmodelled modelled, same]
      exact follows.of_buildModel

theorem Follows.of_next (event : FileTree × Call) :
    Follows start (generator.next event) (standing.next start event) := by
  obtain ⟨tree, call⟩ := event
  cases call with
  | load => exact follows.of_load
  | buildModel => exact follows.of_buildModel
  | render =>
      rw [next, snd_render]
      exact follows.of_obtainModel
  | generate directory =>
      rw [next, fst_snd_generate, snd_render]
      exact follows.of_obtainModel

end Step

theorem follows_after (path : FilePath) (configuration : Configuration) (line : String)
    (history : List (FileTree × Call)) :
    Follows (.new path configuration line) (after (.new path configuration line) history)
      (standing (.new path configuration line) history) := by
  induction history using List.reverseRecOn with
  | nil =>
      refine ⟨rfl, rfl, rfl, fun _ => ⟨rfl, rfl⟩, ?_, rfl⟩
      rintro _ ⟨⟩
  | append_singleton history event ih =>
      rw [after, standing, List.foldl_append, List.foldl_append]
      exact ih.of_next event

/-- The next files that are rendered or generated are those of a model. -/
structure Shows (start generator : Generator) (tree : FileTree) (model : Model) : Prop where
  rendered : (render tree generator).1.outcome =
    (renderModel start.configuration start.commandLine model).outcome
  generated : ∀ directory, (generate directory (generator, tree)).1.outcome =
    (finish start.configuration start.commandLine directory (pure model) tree).1.outcome
  written : ∀ directory, (generate directory (generator, tree)).2.2 =
    (finish start.configuration start.commandLine directory (pure model) tree).2

/-- How a model was obtained is reported and not more. -/
theorem finish_of_obtained (configuration : Configuration) (line directory : String)
    (records : List Record) (model : Model) (tree : FileTree) :
    (finish configuration line directory ⟨records, .ok model⟩ tree).1.outcome =
        (finish configuration line directory (pure model) tree).1.outcome ∧
      (finish configuration line directory ⟨records, .ok model⟩ tree).2 =
        (finish configuration line directory (pure model) tree).2 := by
  have joined : ∀ early : List Record, (⟨early, .ok model⟩ : Run Model) >>=
      renderModel configuration line =
    ⟨early ++ (renderModel configuration line model).records,
      (renderModel configuration line model).outcome⟩ := fun _ => rfl
  have plain : (pure model : Run Model) = ⟨[], .ok model⟩ := rfl
  rw [finish, finish, plain, joined, joined]
  cases (renderModel configuration line model).outcome with
  | error failure => exact ⟨rfl, rfl⟩
  | ok files => exact ⟨rfl, rfl⟩

theorem Follows.shows {start generator : Generator} {standing : Standing} {tree : FileTree}
    {catalog : Catalog} (follows : Follows start generator standing)
    (given : (standing.next start (tree, .render)).built = some catalog) :
    Shows start generator tree (modelOf catalog).value.2 := by
  have outcome := obtainModel_of_some follows given
  rcases obtained : obtainModel tree generator with ⟨⟨records, ending⟩, left⟩
  rw [obtained] at outcome
  obtain rfl : ending = _ := outcome
  have ends : ∀ directory,
      (generate directory (generator, tree)).1.outcome =
          (finish start.configuration start.commandLine directory
            (pure (modelOf catalog).value.2) tree).1.outcome ∧
        (generate directory (generator, tree)).2.2 =
          (finish start.configuration start.commandLine directory
            (pure (modelOf catalog).value.2) tree).2 := by
    intro directory
    have whole := generate_eq_finish generator directory tree
    rw [obtained, follows.configuration_eq, follows.commandLine_eq] at whole
    have finished := finish_of_obtained start.configuration start.commandLine directory records
      (modelOf catalog).value.2 tree
    exact ⟨(congrArg (fun run => run.1.outcome) whole).trans finished.1,
      (congrArg Prod.snd whole).trans finished.2⟩
  refine ⟨?_, fun directory => (ends directory).1, fun directory => (ends directory).2⟩
  rw [render_eq_bind, Action.bind_of_ok obtained, follows.configuration_eq,
    follows.commandLine_eq]
  rfl

/--
Whenever schemas are loaded again after a model was built, the model is built again
after that.
-/
def IsRebuilt (start : Generator) (history : List (FileTree × Call)) : Prop :=
  ∀ earlier tree later, history = earlier ++ (tree, .load) :: later →
    (start.fresh? tree).isSome = true → (standing start earlier).built.isSome = true →
    ∃ other, (other, .buildModel) ∈ later

theorem standing_concat (start : Generator) (history : List (FileTree × Call))
    (event : FileTree × Call) :
    standing start (history ++ [event]) = (standing start history).next start event :=
  List.foldl_append

theorem IsRebuilt.of_concat {start : Generator} {history : List (FileTree × Call)}
    {event : FileTree × Call} (rebuilt : IsRebuilt start (history ++ [event]))
    (different : event.2 ≠ .buildModel) : IsRebuilt start history := by
  intro earlier tree later split found built
  have longer : history ++ [event] = earlier ++ (tree, .load) :: (later ++ [event]) :=
    concat_eq_append_cons_iff.2 (.inr ⟨later, rfl, split⟩)
  obtain ⟨other, member⟩ := rebuilt earlier tree (later ++ [event]) longer found built
  refine ⟨other, (List.mem_append.1 member).resolve_right (fun last => different ?_)⟩
  rw [← List.mem_singleton.1 last]

/-- A model that is not there yet, or that is the one of what was loaded last, is shown so. -/
theorem Standing.built_next_render {start : Generator} {standing : Standing} (tree : FileTree)
    (current : standing.built = none ∨ standing.built = standing.latest) :
    (standing.next start (tree, .render)).built =
      (standing.next start (tree, .render)).latest := by
  rw [Standing.next]
  dsimp only
  rcases current with unbuilt | current
  · rw [unbuilt, Option.none_or]
  · rw [current, ← Option.or_assoc, Option.or_self]

/-- A model that is always built again is the one of what was loaded last. -/
theorem IsRebuilt.built_eq {start : Generator} {history : List (FileTree × Call)}
    (rebuilt : IsRebuilt start history) :
    (standing start history).built = none ∨
      (standing start history).built = (standing start history).latest := by
  induction history using List.reverseRecOn with
  | nil => exact .inl rfl
  | append_singleton history event ih =>
      obtain ⟨tree, call⟩ := event
      rw [standing_concat]
      cases call with
      | buildModel => exact .inr rfl
      | load =>
          cases found : start.fresh? tree with
          | none =>
              rw [Standing.next, found, Option.none_or]
              exact ih (rebuilt.of_concat (by simp))
          | some catalog =>
              -- Nothing comes after this loading, so no model was there before it.
              refine .inl (Option.not_isSome_iff_eq_none.1 (fun built => ?_))
              obtain ⟨other, member⟩ :=
                rebuilt history tree [] rfl (by rw [found, Option.isSome_some]) built
              exact List.not_mem_nil member
      | render => exact .inr (Standing.built_next_render tree (ih (rebuilt.of_concat (by simp))))
      | generate directory =>
          exact .inr (Standing.built_next_render tree (ih (rebuilt.of_concat (by simp))))

/-- Nothing is out of date where the model was built at the end. -/
theorem isRebuilt_concat_buildModel (start : Generator) (history : List (FileTree × Call))
    (tree : FileTree) : IsRebuilt start (history ++ [(tree, .buildModel)]) := by
  intro earlier other later split _ _
  rcases concat_eq_append_cons_iff.1 split with ⟨-, -, equal⟩ | ⟨rest, rfl, -⟩
  · cases equal
  · exact ⟨tree, List.mem_append_right rest (List.mem_singleton_self _)⟩

/-- What is shown next is the model of what was loaded last. -/
def ShowsLatest (start : Generator) (history : List (FileTree × Call)) (tree : FileTree) : Prop :=
  ∀ catalog, (standing start (history ++ [(tree, .render)])).latest = some catalog →
    Shows start (after start history) tree (modelOf catalog).value.2

section Output

variable (path : FilePath) (configuration : Configuration) (line : String)
variable (history : List (FileTree × Call)) (tree : FileTree)

/-- What is rendered and generated is the model that was built last, or one that is built now. -/
theorem shows_built {catalog : Catalog}
    (given : (standing (.new path configuration line) (history ++ [(tree, .render)])).built =
      some catalog) :
    Shows (.new path configuration line) (after (.new path configuration line) history) tree
      (modelOf catalog).value.2 := by
  rw [standing_concat] at given
  exact (follows_after path configuration line history).shows given

/--
What is rendered and generated is the model that was built last, or one that is
built now.  That is the model of what was loaded last if after every loading, where
there was a model before it, the model is built again.
-/
theorem showsLatest :
    (∀ catalog, (standing (.new path configuration line)
        (history ++ [(tree, .render)])).built = some catalog →
      Shows (.new path configuration line) (after (.new path configuration line) history) tree
        (modelOf catalog).value.2) ∧
    (IsRebuilt (.new path configuration line) history →
      ShowsLatest (.new path configuration line) history tree) := by
  refine ⟨fun catalog => shows_built path configuration line history tree, ?_⟩
  intro rebuilt catalog latest
  refine shows_built path configuration line history tree ?_
  rw [standing_concat] at latest ⊢
  rw [Standing.built_next_render tree rebuilt.built_eq, latest]

end Output

/-- A model is built, the document changes, and it is loaded again. -/
def changedHistory : List (FileTree × Call) :=
  [(soleTree "Lamp", .load), (soleTree "Lamp", .buildModel), (soleTree "Vase", .load)]

/-- The model is built again after the document was loaded again, and it is shown. -/
def rebuiltHistory : List (FileTree × Call) :=
  changedHistory ++ [(soleTree "Vase", .buildModel)]

theorem showsLatest_rebuiltHistory :
    ∃ catalog, (standing lampGenerator (rebuiltHistory ++ [(soleTree "Vase", .render)])).latest =
        some catalog ∧
      catalog.complexTypes.contains "Vase" = true ∧
      Shows lampGenerator (after lampGenerator rebuiltHistory) (soleTree "Vase")
        (modelOf catalog).value.2 := by
  have declared : (standing lampGenerator
      (rebuiltHistory ++ [(soleTree "Vase", .render)])).latest.map
        (·.complexTypes.contains "Vase") = some true := by decide +kernel
  obtain ⟨catalog, latest, vase⟩ := Option.map_eq_some_iff.1 declared
  have rebuilt := isRebuilt_concat_buildModel lampGenerator changedHistory (soleTree "Vase")
  exact ⟨catalog, latest, vase, (showsLatest (.ofString "a.xsd") {} "generate" rebuiltHistory
    (soleTree "Vase")).2 rebuilt catalog latest⟩

def fileNamesOf (generator : Generator) (catalog : Catalog) : Option (List String) :=
  (renderModel generator.configuration generator.commandLine
    (modelOf catalog).value.2).outcome.toOption.map (fun files => files.map Prod.fst)

theorem not_showsLatest_changedHistory :
    ¬ ShowsLatest lampGenerator changedHistory (soleTree "Vase") := by
  intro shows
  have old : (standing lampGenerator (changedHistory ++ [(soleTree "Vase", .render)])).built.map
      (fileNamesOf lampGenerator) = some (some ["Lamp.cs"]) := by
    simp only [changedHistory, soleTree, Loader.textFile, String.toList_append, String.reduceToList]
    decide +kernel
  have new : (standing lampGenerator (changedHistory ++ [(soleTree "Vase", .render)])).latest.map
      (fileNamesOf lampGenerator) = some (some ["Vase.cs"]) := by
    simp only [changedHistory, soleTree, Loader.textFile, String.toList_append, String.reduceToList]
    decide +kernel
  obtain ⟨catalog, built, oldNames⟩ := Option.map_eq_some_iff.1 old
  obtain ⟨other, latest, newNames⟩ := Option.map_eq_some_iff.1 new
  have shown : Shows lampGenerator (after lampGenerator changedHistory) (soleTree "Vase")
      (modelOf catalog).value.2 :=
    shows_built (.ofString "a.xsd") {} "generate" changedHistory (soleTree "Vase") built
  have same := shown.rendered.symm.trans (shows other latest).rendered
  rw [fileNamesOf] at oldNames newNames
  rw [same, newNames] at oldNames
  exact absurd oldNames (by decide)

end SchemaBinding.Generator
