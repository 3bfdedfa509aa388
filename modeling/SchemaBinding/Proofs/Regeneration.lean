import SchemaBinding.Proofs.Comments
import SchemaBinding.Proofs.Overwriting
import SchemaBinding.Proofs.Reloading

/-!
# Generating again

A generation that succeeds can be repeated on the files that it left, as long as the
schemas are loaded as before.  Nothing but the comments of its files changes then.
-/

namespace SchemaBinding.Generator

open CSharp (DiffersInComment)
open FilePath (IsEntryName IsFileName)
open Loader (LoadsAlike)

variable {tree after : FileTree} {path : FilePath} {configuration : Configuration}
variable {line otherLine : String}

/-- A new generator builds its model from what it loads. -/
theorem obtainModel_new_eq_ok {records : List Record} {model : Model} {left : Generator}
    (obtains : obtainModel tree (.new path configuration line) = (⟨records, .ok model⟩, left)) :
    ∃ early schemas loader,
      loading tree (.new path configuration line) = (⟨early, .ok schemas⟩, loader) ∧
      model = (modelOf loader.catalog).value.2 := by
  rw [obtainModel_of_unmodelled rfl] at obtains
  rcases result : loading tree (.new path configuration line) with ⟨⟨early, outcome⟩, loader⟩
  cases outcome with
  | error failure =>
      rw [buildModel_of_load_error rfl (load_of_error result)] at obtains
      cases obtains
  | ok schemas =>
      rw [buildModel_of_load_ok rfl (load_of_ok result)] at obtains
      cases obtains
      exact ⟨early, schemas, loader, rfl, rfl⟩

theorem exists_obtainModel_new {early : List Record} {schemas : List Schema} {loader : Loader}
    (loads : loading tree (.new path configuration line) = (⟨early, .ok schemas⟩, loader)) :
    ∃ records left, obtainModel tree (.new path configuration line) =
      (⟨records, .ok (modelOf loader.catalog).value.2⟩, left) := by
  rw [obtainModel_of_unmodelled rfl, buildModel_of_load_ok rfl (load_of_ok loads)]
  exact ⟨_, _, rfl⟩

/-- A new generator succeeds where what it loads is rendered to files that can be written. -/
theorem exists_generate_new {place : String} {output : Output} {files : List (String × String)}
    {early middle late : List Record} {schemas : List Schema} {loader : Loader}
    {written : List FilePath}
    (loads : loading tree (.new path configuration line) = (⟨early, .ok schemas⟩, loader))
    (renders : renderModel configuration line (modelOf loader.catalog).value.2 =
      ⟨middle, .ok files⟩)
    (usable : outputOf configuration place = .ok output)
    (writes : output.writeAll (contentsOf configuration files) tree =
      (⟨late, .ok written⟩, after)) :
    ∃ records left, generate place (.new path configuration line, tree) =
      (⟨records, .ok written⟩, left, after) := by
  obtain ⟨records, left, obtains⟩ := exists_obtainModel_new loads
  obtain rfl : left.configuration = configuration := by
    have advance := advance_obtainModel tree (.new path configuration line)
    rw [obtains] at advance
    exact advance.configuration_eq
  have told : Action.ofRun (renderModel left.configuration line (modelOf loader.catalog).value.2)
      left = (⟨middle, .ok files⟩, left) := congrArg (fun run => (run, left)) renders
  have rendering : render tree (.new path left.configuration line) =
      (⟨records ++ middle, .ok files⟩, left) := by
    rw [render_eq_bind, Action.bind_of_ok obtains, new, told]
  exact ⟨_, left, generate_of_write_ok rendering usable writes⟩

/-- A configuration lets every text be written, or none. -/
theorem contentOf_cases (configuration : Configuration) :
    (∀ text, contentOf configuration text = .text text) ∨
      ∀ text other, contentOf configuration text ≠ .text other := by
  unfold contentOf
  cases configuration.misnaming? with
  | some place => cases place <;> exact .inr fun _ _ same => by cases same
  | none =>
      cases configuration.isUnpaired with
      | true => exact .inr fun _ _ same => by cases same
      | false => exact .inl fun _ => rfl

theorem contentsOf_eq_texts (written : ∀ text, contentOf configuration text = .text text)
    (files : List (String × String)) : contentsOf configuration files = Output.texts files := by
  rw [contentsOf, Output.texts]
  exact List.map_congr_left fun file _ => by rw [written]

/-- What a configuration lets be written once it lets be written again. -/
theorem contentsOf_of_writeAll {output : Output} {files : List (String × String)}
    {records : List Record} {written : List FilePath}
    (writes : output.writeAll (contentsOf configuration files) tree =
      (⟨records, .ok written⟩, after)) {others : List (String × String)}
    (same : others.map Prod.fst = files.map Prod.fst) :
    contentsOf configuration others = Output.texts others := by
  rcases contentOf_cases configuration with all | none
  · exact contentsOf_eq_texts all others
  · cases files with
    | nil =>
        obtain rfl := List.map_eq_nil_iff.1 same
        rfl
    | cons file rest =>
        rw [Output.writeAll_eq_bind] at writes
        obtain ⟨_, _, prepared, _, _, writesEach, rfl⟩ := Action.bind_eq_ok writes
        obtain ⟨_, _, _, _, first, _, rfl⟩ := Action.bind_eq_ok writesEach
        obtain ⟨_, _, text, isText, _⟩ := Output.write_eq_ok first
        exact absurd isText (none file.2 text)

variable {directory : Location} {catalog : Catalog} {output : Output}
variable {files : List (String × String)}

structure Produces (configuration : Configuration) (line : String) (directory : Location)
    (tree after : FileTree) (catalog : Catalog) (output : Output)
    (files : List (String × String)) : Prop where
  rendered : ∃ records,
    renderModel configuration line (modelOf catalog).value.2 = ⟨records, .ok files⟩
  usable : outputOf configuration (FilePath.ofLocation directory).toString = .ok output
  leads : output.directory = .ofLocation directory
  distinct : (files.map Prod.fst).Nodup
  writable : ∀ others, others.map Prod.fst = files.map Prod.fst →
    contentsOf configuration others = Output.texts others
  leaves : output.Leaves directory files tree after

section New

variable (sound : tree.WellFormed) (plain : ∀ name ∈ directory, IsEntryName name)
include sound plain

/-- A new generator that succeeds produces the files for what it loads. -/
theorem exists_produces {records : List Record} {written : List FilePath} {left : Generator}
    (undivided : ∀ settings, configuration.outputSettings = .ok settings →
      '/' ∉ settings.fileExtension.display.toList)
    (generates : generate (FilePath.ofLocation directory).toString
      (.new path configuration line, tree) = (⟨records, .ok written⟩, left, after)) :
    ∃ early schemas loader output files,
      loading tree (.new path configuration line) = (⟨early, .ok schemas⟩, loader) ∧
      written = files.map (fun file => .ofLocation (directory ++ [file.1])) ∧
      Produces configuration line directory tree after loader.catalog output files := by
  obtain ⟨_, middle, _, model, files, output, obtained, renders, usable, writes, -⟩ :=
    generate_eq_ok generates
  obtain ⟨early, schemas, loader, loads, rfl⟩ := obtainModel_new_eq_ok obtained
  obtain ⟨settings, given, isOutput⟩ := outputOf_eq_ok usable
  obtain ⟨pieces, rendered⟩ := exists_rendersTo renders
  obtain ⟨named, distinct⟩ :=
    rendered.plain given (isTitled_modelOf loader.catalog) (undivided settings given)
  have leads : output.directory = .ofLocation directory := by
    rw [isOutput]
    exact FilePath.ofString_toString_ofLocation fun name member => (plain name member).toIsFileName
  have writable : ∀ others : List (String × String), others.map Prod.fst = files.map Prod.fst →
      contentsOf configuration others = Output.texts others :=
    fun _ same => contentsOf_of_writeAll writes same
  have writesTexts : output.writeAll (Output.texts files) tree = (⟨_, .ok written⟩, after) :=
    writable files rfl ▸ writes
  obtain ⟨isWritten, leaves⟩ :=
    Output.leaves_of_writeAll sound plain leads named distinct writesTexts
  exact ⟨early, schemas, loader, output, files, loads, isWritten,
    ⟨middle, renders⟩, usable, leads, distinct, writable, leaves⟩

end New

theorem names_eq {others : List (String × String)}
    (each : List.Forall₂ (RenderedAlike configuration line otherLine) files others) :
    others.map Prod.fst = files.map Prod.fst := by
  induction each with
  | nil => rfl
  | cons first _ ih => rw [List.map_cons, List.map_cons, ih, first.name_eq]

/-- The same model is rendered to the same files, but for the line in their comments. -/
theorem Produces.rendered_again
    (produces : Produces configuration line directory tree after catalog output files)
    (otherLine : String) :
    ∃ records others,
      renderModel configuration otherLine (modelOf catalog).value.2 = ⟨records, .ok others⟩ ∧
      List.Forall₂ (RenderedAlike configuration line otherLine) files others := by
  obtain ⟨records, rendered⟩ := produces.rendered
  have alike : Run.Alike (List.Forall₂ (RenderedAlike configuration line otherLine))
      (renderModel configuration line (modelOf catalog).value.2)
      (renderModel configuration otherLine (modelOf catalog).value.2) :=
    alike_renderModel ⟨_, _, rfl⟩ _
  rw [rendered] at alike
  generalize renderModel configuration otherLine (modelOf catalog).value.2 = again at alike
  cases alike with
  | returns each => exact ⟨_, _, rfl, each⟩

/--
Where the documents are loaded as before, the same files are produced again, and
nothing changes but their comments.
-/
theorem Produces.again (sound : tree.WellFormed) (plain : ∀ name ∈ directory, IsEntryName name)
    {early : List Record} {schemas : List Schema} {loader : Loader}
    (loads : loading tree (.new path configuration line) = (⟨early, .ok schemas⟩, loader))
    (produces : Produces configuration line directory tree after loader.catalog output files)
    (alike : LoadsAlike tree after path.toString configuration.recurse.isTrue loader.visited)
    (otherLine : String) :
    ∃ records left later,
      generate (FilePath.ofLocation directory).toString (.new path configuration otherLine, after) =
        (⟨records, .ok (files.map (fun file => .ofLocation (directory ++ [file.1])))⟩,
          left, later) ∧
      after.HoldsAlike (DiffersInComment configuration line otherLine) later := by
  have soundAfter := sound.changes plain produces.leaves.changes
  obtain ⟨middle, others, renders, each⟩ := produces.rendered_again otherLine
  have names := names_eq each
  have texts : List.Forall₂ (Output.TextsAlike (DiffersInComment configuration line otherLine))
      files others := each.imp fun _ _ alike => ⟨alike.name_eq, alike.text⟩
  obtain ⟨late, later, writes⟩ := produces.leaves.exists_writeAll sound plain produces.leads names
  obtain ⟨-, leavesAgain⟩ := Output.leaves_of_writeAll soundAfter plain produces.leads
    (fun file member => by
      obtain ⟨first, inside, same⟩ := List.mem_map.1 (names ▸ List.mem_map_of_mem member)
      exact same ▸ (produces.leaves.fits first inside).named.toIsFileName)
    (names ▸ produces.distinct) writes
  obtain ⟨more, schemasAgain, loadsAgain⟩ := Loader.load_again loads alike
  have loadsOther : loading after (.new path configuration otherLine) =
    (⟨more, .ok schemasAgain⟩, loader) := loadsAgain
  obtain ⟨records, left, generates⟩ := exists_generate_new loadsOther renders produces.usable
    (by rw [produces.writable others names]; exact writes)
  have sameWritten : others.map (fun file => FilePath.ofLocation (directory ++ [file.1])) =
      files.map (fun file => .ofLocation (directory ++ [file.1])) := by
    have mapped := congrArg (List.map fun name => FilePath.ofLocation (directory ++ [name])) names
    rwa [List.map_map, List.map_map] at mapped
  rw [sameWritten] at generates
  have spares := FileTree.spares_of_changes soundAfter plain leavesAgain.changes
  exact ⟨records, left, later, generates, spares.keepsDirectories.workingDirectory_eq,
    produces.leaves.alike (fun _ => .inl rfl) leavesAgain texts⟩

end SchemaBinding.Generator
