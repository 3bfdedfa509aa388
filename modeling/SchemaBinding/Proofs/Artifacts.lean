import Mathlib.Data.List.Induction
import SchemaBinding.Proofs.FieldTypes
import SchemaBinding.Proofs.Names
import SchemaBinding.Proofs.Reports
import SchemaBinding.Proofs.Writing

/-!
# Files of artifacts

Every artifact is rendered to a file that is called after it.  Artifacts of one
name share one file, in the place of the first of them and with the text of the
last, and a warning is given for each that takes the place of another one.
-/

namespace SchemaBinding

open Text

namespace Run

variable {α β : Type}

/-- A sequence that succeeds consists of two runs that succeed. -/
theorem bind_eq_ok {first : Run α} {next : α → Run β} {records : List Record} {value : β}
    (result : first >>= next = ⟨records, .ok value⟩) :
    ∃ early inner late, first = ⟨early, .ok inner⟩ ∧ next inner = ⟨late, .ok value⟩ ∧
      records = early ++ late := by
  obtain ⟨early, outcome⟩ := first
  cases outcome with
  | error failure => cases result
  | ok inner =>
      rcases later : next inner with ⟨late, outcome⟩
      have joined : (⟨early, .ok inner⟩ : Run α) >>= next =
          ⟨early ++ (next inner).records, (next inner).outcome⟩ := rfl
      rw [joined, later] at result
      cases result
      exact ⟨early, inner, late, rfl, later, rfl⟩

end Run

section Lists

variable {α β : Type}

theorem nodup_eraseDups [DecidableEq α] (items : List α) :
    items.eraseDups.Nodup := by
  induction items using List.reverseRecOn with
  | nil => exact List.nodup_nil
  | append_singleton items item ih =>
      rw [eraseDups_concat]
      split
      · simpa using ih
      · next fresh =>
          refine List.nodup_append'.2 ⟨ih, List.nodup_singleton _, ?_⟩
          simpa using fresh

/-- Nothing is lost among distinct items, and something is lost among others. -/
theorem length_eraseDups_eq_iff [DecidableEq α] (items : List α) :
    items.eraseDups.length = items.length ↔ items.Nodup := by
  have shorter : ∀ items : List α, items.eraseDups.length ≤ items.length := fun items =>
    (nodup_eraseDups items).length_le_of_subset fun _ member => List.mem_eraseDups.1 member
  induction items using List.reverseRecOn with
  | nil => simp
  | append_singleton items item ih =>
      have before := shorter items
      rw [eraseDups_concat, List.length_append, List.length_append, List.length_singleton]
      by_cases known : item ∈ items
      · rw [if_pos known, List.length_nil]
        refine iff_of_false (by omega) (fun distinct => ?_)
        exact (List.nodup_append'.1 distinct).2.2 known (List.mem_singleton_self item)
      · rw [if_neg known, List.length_singleton, Nat.add_right_cancel_iff]
        refine ih.trans ⟨fun distinct => ?_, fun distinct => (List.nodup_append'.1 distinct).1⟩
        exact List.nodup_append'.2 ⟨distinct, List.nodup_singleton item, by simpa using known⟩

theorem exists_append_of_forall₂ {related : α → β → Prop} {before later : List α} {item : α}
    {others : List β} (each : List.Forall₂ related (before ++ item :: later) others) :
    ∃ first other last, others = first ++ other :: last ∧ related item other ∧
      List.Forall₂ related later last := by
  induction before generalizing others with
  | nil =>
      cases each with
      | cons here rest => exact ⟨[], _, _, rfl, here, rest⟩
  | cons begin before ih =>
      cases each with
      | @cons _ other _ _ here rest =>
          obtain ⟨first, found, last, rfl, holds, more⟩ := ih rest
          exact ⟨other :: first, found, last, rfl, holds, more⟩

end Lists

namespace Model

structure IsTitled (model : Model) : Prop where
  enums : ∀ kept ∈ model.enums, kept.name = Naming.typeName kept.originalName
  classes : ∀ kept ∈ model.classes, kept.name = Naming.typeName kept.originalName

theorem IsTitled.names_eq {model : Model} (titled : model.IsTitled) :
    model.artifacts.map Artifact.name = model.represented.map Naming.typeName := by
  rw [artifacts, represented, List.map_append, List.map_append, List.map_map, List.map_map,
    List.map_map, List.map_map]
  exact congrArg₂ (· ++ ·) (List.map_congr_left titled.enums) (List.map_congr_left titled.classes)

end Model

namespace Emission

variable (catalog : Catalog) {emission : Emission}

theorem isTitled_addEnums (titled : emission.model.IsTitled) :
    (emission.addEnums catalog).model.IsTitled := by
  obtain ⟨names, added⟩ := exists_addEnums catalog emission
  rw [added]
  refine ⟨fun kept member => ?_, titled.classes⟩
  rcases List.mem_append.1 member with before | here
  · exact titled.enums kept before
  · obtain ⟨⟨name, type⟩, _, given⟩ := List.mem_filterMap.1 here
    cases type with
    | primitive kind => cases given
    | enumeration other =>
        cases given
        rfl

theorem isTitled_emitClasses (titled : emission.model.IsTitled) (types : List MergedType) :
    (emission.emitClasses catalog types).value.model.IsTitled := by
  obtain ⟨entered, left, serves⟩ := exists_serves_emitClasses catalog emission types
  rw [serves.after_eq]
  refine ⟨titled.enums, fun kept member => ?_⟩
  rcases List.mem_append.1 member with before | here
  · exact titled.classes kept before
  · obtain ⟨request, _, rfl⟩ := List.mem_map.1 here
    rfl

end Emission

open Emission in
/-- The artifacts of any catalogue have the sanitized names of their types. -/
theorem isTitled_modelOf (catalog : Catalog) :
    (Generator.modelOf catalog).value.2.IsTitled := by
  have collected : (empty.collectRoots catalog.classifyAll.value).value.model.IsTitled := by
    rw [model_collectRoots]
    exact ⟨fun _ member => absurd member List.not_mem_nil,
      fun _ member => absurd member List.not_mem_nil⟩
  rw [value_modelOf, value_emit]
  exact isTitled_emitClasses _ (isTitled_emitClasses _ (isTitled_addEnums _ collected) _) _

namespace CSharp

variable {configuration : Configuration}

def extensionOf (settings : OutputSettings) : String :=
  if settings.fileExtension.isTrue then settings.fileExtension.display else "cs"

theorem fileName_of_settings {settings : OutputSettings}
    (given : configuration.outputSettings = .ok settings) (artifact : Artifact) :
    fileName configuration artifact =
      .ok (artifact.name ++ "." ++ extensionOf settings) := by
  rw [fileName, given]
  rfl

/-- A name with an ending that names no directories is the name of a file. -/
theorem isFileName_append {name extension : String} (isName : IsName name)
    (undivided : '/' ∉ extension.toList) :
    FilePath.IsFileName (name ++ "." ++ extension) := by
  obtain ⟨first, rest, spelled⟩ : ∃ first rest, name.toList = first :: rest :=
    List.exists_cons_of_ne_nil (fun none => isName.ne_empty (String.toList_inj.1 none))
  have plain : ∀ c, Identifier.isPart c = false → c ∉ name.toList := by
    intro c apart member
    rw [List.all_eq_true.1 isName.all_isPart c member] at apart
    cases apart
  have begins : ∀ other : String, other.toList.head? = some '.' →
      name ++ "." ++ extension ≠ other := by
    rintro other dotted rfl
    rw [String.toList_append, String.toList_append, spelled] at dotted
    refine plain '.' (by decide) ?_
    rw [spelled, ← Option.some.inj dotted]
    exact List.mem_cons_self
  refine ⟨fun none => ?_, begins "." rfl, begins ".." rfl, ?_⟩
  · have chars := congrArg String.toList none
    rw [String.toList_append, String.toList_append, spelled] at chars
    cases chars
  · rw [String.toList_append, String.toList_append]
    simpa using ⟨plain '/' (by decide), undivided⟩

end CSharp

namespace Generator

variable {configuration : Configuration} {commandLine : String}

def overwriteRecord (name : String) : Record :=
  .warning s!"Artifact {name} overwrites an artifact with the same file name"

/-- The files with one more, in the place of an earlier one of its name. -/
def putPair (files : List (String × String)) (file : String × String) : List (String × String) :=
  putFile files file.1 file.2

theorem length_putPair (files : List (String × String)) (file : String × String) :
    (putPair files file).length =
      files.length + if file.1 ∈ files.map Prod.fst then 0 else 1 := by
  have keys : ((putPair files file).map Prod.fst).length = _ :=
    congrArg List.length Model.keys_assign
  rw [List.length_map, List.length_append, List.length_map] at keys
  rw [keys]
  split <;> rfl

/-- Files have the distinct names that were given, in the order in which they came first. -/
theorem keys_foldl_putPair (pieces : List (String × String)) :
    (pieces.foldl putPair []).map Prod.fst = (pieces.map Prod.fst).eraseDups := by
  induction pieces using List.reverseRecOn with
  | nil => rfl
  | append_singleton pieces piece ih =>
      rw [List.foldl_append, List.foldl_cons, List.foldl_nil, putPair, putFile,
        Model.keys_assign, ih, List.map_append, List.map_singleton, eraseDups_concat]
      simp only [List.mem_eraseDups]

/-- A file keeps its text unless a later one has its name. -/
theorem mem_foldl_putPair {files later : List (String × String)} {file : String × String}
    (member : file ∈ files) (last : file.1 ∉ later.map Prod.fst) :
    file ∈ later.foldl putPair files := by
  induction later generalizing files with
  | nil => exact member
  | cons next rest ih =>
      obtain ⟨different, others⟩ := not_or.1 (mt List.mem_cons.2 last)
      exact ih ((Model.mem_assign file).2 (.inr ⟨different, member⟩)) others

structure IsRendered (configuration : Configuration) (commandLine : String)
    (artifact : Artifact) (file : String × String) : Prop where
  named : CSharp.fileName configuration artifact = .ok file.1
  written : CSharp.source configuration commandLine artifact = .ok file.2

theorem renderNext_eq_ok {files after : List (String × String)} {artifact : Artifact}
    {records : List Record}
    (renders : renderNext configuration commandLine files artifact = ⟨records, .ok after⟩) :
    ∃ file, IsRendered configuration commandLine artifact file ∧ after = putPair files file ∧
      records = if file.1 ∈ files.map Prod.fst then [overwriteRecord file.1] else [] := by
  unfold renderNext at renders
  obtain ⟨_, name, _, named, more, rfl⟩ := Run.bind_eq_ok renders
  obtain ⟨rfl, isName⟩ := Run.mk.inj named
  by_cases known : name ∈ files.map Prod.fst
  · have present : files.any (·.1 == name) = true := by simpa using known
    rw [if_pos present] at more
    obtain ⟨_, _, _, told, rest, rfl⟩ := Run.bind_eq_ok more
    obtain ⟨_, text, _, written, put, rfl⟩ := Run.bind_eq_ok rest
    cases told
    obtain ⟨rfl, isText⟩ := Run.mk.inj written
    cases put
    exact ⟨(name, text), ⟨isName, isText⟩, rfl, by rw [if_pos known]; rfl⟩
  · have absent : ¬ files.any (·.1 == name) = true := by simpa using known
    rw [if_neg absent] at more
    obtain ⟨_, text, _, written, put, rfl⟩ := Run.bind_eq_ok more
    obtain ⟨rfl, isText⟩ := Run.mk.inj written
    cases put
    exact ⟨(name, text), ⟨isName, isText⟩, rfl, by rw [if_neg known]; rfl⟩

/-- How artifacts are rendered beside files: one file each, and a warning for each lost one. -/
structure RendersTo (configuration : Configuration) (commandLine : String)
    (artifacts : List Artifact) (files : List (String × String)) (records : List Record)
    (after pieces : List (String × String)) : Prop where
  each : List.Forall₂ (IsRendered configuration commandLine) artifacts pieces
  after_eq : after = pieces.foldl putPair files
  warned : ∀ record ∈ records, ∃ name, record = overwriteRecord name
  lost : records.length + after.length = files.length + pieces.length

theorem exists_rendersTo {artifacts : List Artifact} {files after : List (String × String)}
    {records : List Record}
    (renders : artifacts.foldlM (renderNext configuration commandLine) files =
      ⟨records, .ok after⟩) :
    ∃ pieces, RendersTo configuration commandLine artifacts files records after pieces := by
  induction artifacts generalizing files records with
  | nil =>
      cases renders
      exact ⟨[], .nil, rfl, fun _ member => absurd member List.not_mem_nil, by simp⟩
  | cons artifact rest ih =>
      rw [List.foldlM_cons] at renders
      obtain ⟨early, middle, late, first, others, rfl⟩ := Run.bind_eq_ok renders
      obtain ⟨file, isRendered, rfl, told⟩ := renderNext_eq_ok first
      obtain ⟨pieces, more⟩ := ih others
      refine ⟨file :: pieces, .cons isRendered more.each, more.after_eq, ?_, ?_⟩
      · intro record member
        rcases List.mem_append.1 member with here | later
        · rw [told] at here
          split at here
          · exact ⟨file.1, List.mem_singleton.1 here⟩
          · exact absurd here List.not_mem_nil
        · exact more.warned record later
      · have lost := more.lost
        rw [length_putPair] at lost
        rw [List.length_append, List.length_cons, told]
        by_cases known : file.1 ∈ files.map Prod.fst
        · rw [if_pos known] at lost ⊢
          rw [List.length_singleton]
          omega
        · rw [if_neg known] at lost ⊢
          rw [List.length_nil]
          omega

def overwriteText : String :=
  " overwrites an artifact with the same file name"

def warnsOfOverwriting (record : Record) : Bool :=
  Loader.isWarning record && overwriteText.toList.isSuffixOf record.message.toList

theorem warnsOfOverwriting_overwriteRecord (name : String) :
    warnsOfOverwriting (overwriteRecord name) = true := by
  have ends : overwriteText.toList <:+ (overwriteRecord name).message.toList := by
    refine ⟨("Artifact " ++ name).toList, ?_⟩
    rw [← String.toList_append]
    rfl
  rw [warnsOfOverwriting, List.isSuffixOf_iff_suffix.2 ends]
  rfl

/-- A warning of a reference that leads nowhere is another one. -/
theorem not_warnsOfOverwriting_skippedRecord (location : String) (source : FilePath) :
    warnsOfOverwriting (Loader.skippedRecord location source) = false := by
  rw [warnsOfOverwriting, Bool.and_eq_false_iff]
  refine .inr (Bool.eq_false_iff.2 fun ends => ?_)
  have skipped : ", skipped".toList <:+
      (Loader.skippedRecord location source).message.toList := by
    refine ⟨(Failure.missingDocument location source).message.toList, ?_⟩
    rw [← String.toList_append]
    rfl
  have both : ", skipped".toList <:+ overwriteText.toList :=
    List.suffix_of_suffix_length_le skipped (List.isSuffixOf_iff_suffix.1 ends) (by decide)
  revert both
  decide

theorem not_warnsOfOverwriting {record : Record} (mild : Loader.isWarning record = false) :
    warnsOfOverwriting record = false := by
  rw [warnsOfOverwriting, mild, Bool.false_and]

section Steps

variable {generator after : Generator} {tree changed : FileTree} {records : List Record}

/-- A generator that its own steps, on any files, and changes of its settings lead to. -/
inductive Reachable : Generator → Prop where
  | new (path : FilePath) (configuration : Configuration) (commandLine : String) :
      Reachable (.new path configuration commandLine)
  | configure (configuration : Configuration) {generator : Generator}
      (before : Reachable generator) : Reachable { generator with configuration }
  | load (tree : FileTree) {generator : Generator} (before : Reachable generator) :
      Reachable (load tree generator).2
  | buildModel (tree : FileTree) {generator : Generator} (before : Reachable generator) :
      Reachable (buildModel tree generator).2
  | render (tree : FileTree) {generator : Generator} (before : Reachable generator) :
      Reachable (render tree generator).2
  | generate (directory : String) (tree : FileTree) {generator : Generator}
      (before : Reachable generator) : Reachable (generate directory (generator, tree)).2.1

/-- The model, if there is one, was built from a catalogue. -/
def IsModelled (generator : Generator) : Prop :=
  ∀ model, generator.model = some model → ∃ catalog, model = (modelOf catalog).value.2

theorem IsModelled.advance (modelled : generator.IsModelled) (advance : generator.Advance after) :
    after.IsModelled := by
  cases advance with
  | same => exact modelled
  | loaded catalog => exact modelled
  | modelled catalog =>
      intro model given
      exact ⟨catalog, (Option.some.inj given).symm⟩

theorem Reachable.isModelled (reachable : generator.Reachable) : generator.IsModelled := by
  induction reachable with
  | new path configuration commandLine =>
      intro model given
      cases given
  | configure configuration before ih => exact ih
  | load tree before ih => exact ih.advance (advance_load tree _)
  | buildModel tree before ih => exact ih.advance (advance_buildModel tree _)
  | render tree before ih => exact ih.advance (advance_render tree _)
  | generate directory tree before ih => exact ih.advance (advance_generate directory _ tree)

theorem obtainModel_keeps_model {model : Model}
    (obtained : obtainModel tree generator = (⟨records, .ok model⟩, after)) :
    after.model = some model := by
  have obtains := obtains tree generator
  rw [obtained] at obtains
  cases obtains with
  | held modelled => exact modelled
  | built => rfl
  | loaded => rfl

/-- No file is rendered while a model is obtained, and none is reported to be lost. -/
theorem not_warnsOfOverwriting_obtainModel {model : Model}
    (obtained : obtainModel tree generator = (⟨records, .ok model⟩, after)) :
    ∀ record ∈ records, warnsOfOverwriting record = false := by
  have built : ∀ catalog, ∀ record ∈ (modelOf catalog).records,
      warnsOfOverwriting record = false :=
    fun catalog record member => not_warnsOfOverwriting (calm_modelOf catalog record member)
  have obtains := obtains tree generator
  rw [obtained] at obtains
  cases obtains with
  | held => exact fun _ member => absurd member List.not_mem_nil
  | built => exact built _
  | @loaded early _ loader _ _ loads =>
      intro record member
      rcases List.mem_append.1 member with before | late
      · rcases List.mem_append.1 before with early | told
        · cases warns : Loader.isWarning record with
          | false => exact not_warnsOfOverwriting warns
          | true =>
              obtain ⟨location, source, rfl⟩ :=
                Loader.exists_skippedRecord_of_load loads early warns
              exact not_warnsOfOverwriting_skippedRecord location source
        · obtain rfl := List.mem_singleton.1 told
          exact not_warnsOfOverwriting rfl
      · exact built loader.catalog record late

theorem contentOf_eq_text {text content : String}
    (isText : contentOf configuration text = .text content) : content = text := by
  unfold contentOf at isText
  split at isText
  · cases isText
  · cases isText
  · split at isText
    · cases isText
    · exact (Content.text.inj isText).symm

/-- A generation that succeeds obtains a model, renders it and writes the files. -/
theorem generate_eq_ok {directory : String} {written : List FilePath}
    (generates : generate directory (generator, tree) =
      (⟨records, .ok written⟩, after, changed)) :
    ∃ early middle late model files output,
      obtainModel tree generator = (⟨early, .ok model⟩, after) ∧
      renderModel generator.configuration generator.commandLine model = ⟨middle, .ok files⟩ ∧
      outputOf generator.configuration directory = .ok output ∧
      output.writeAll (contentsOf generator.configuration files) tree =
        (⟨late, .ok written⟩, changed) ∧
      records = early ++ middle ++ (late ++ [generatedRecord directory written]) := by
  have steps := Generator.generates directory tree generator
  rw [generates] at steps
  cases steps with
  | written renders usable writes =>
      rw [render_eq_bind] at renders
      obtain ⟨early, model, held, middle, obtained, ofModel, rfl⟩ := Action.bind_eq_ok renders
      obtain ⟨rendered, rfl⟩ := Prod.mk.inj ofModel
      exact ⟨early, middle, _, model, _, _, obtained, rendered, usable, writes, rfl⟩

/-- Files are written with success: each of them is read with its text. -/
theorem writeAll_contentsOf {output : Output} {files : List (String × String)}
    {written : List FilePath}
    (writes : output.writeAll (contentsOf configuration files) tree =
      (⟨records, .ok written⟩, changed))
    (plain : ∀ file ∈ files, FilePath.IsFileName file.1) (distinct : (files.map Prod.fst).Nodup) :
    written = files.map (fun file => output.pathOf file.1) ∧
      (∀ record ∈ records, warnsOfOverwriting record = false) ∧
      ∀ file ∈ files,
        changed.read (output.pathOf file.1) = .ok (Utf8.encode file.2.toList) := by
  rw [Output.writeAll_eq_bind] at writes
  obtain ⟨early, deleted, prepared, late, prepares, writesEach, rfl⟩ :=
    Action.bind_eq_ok writes
  have keys : (contentsOf configuration files).map Prod.fst = files.map Prod.fst := by
    rw [contentsOf, List.map_map]
    rfl
  have plainContents : ∀ file ∈ contentsOf configuration files, FilePath.IsFileName file.1 := by
    intro file member
    obtain ⟨given, inside, rfl⟩ := List.mem_map.1 member
    exact plain given inside
  obtain ⟨rfl, rfl, each⟩ :=
    Output.writeEach_eq_ok writesEach plainContents (keys ▸ distinct)
  refine ⟨?_, fun record member => ?_, fun file member => ?_⟩
  · rw [contentsOf, List.map_map]
    rfl
  · refine not_warnsOfOverwriting ?_
    rcases List.mem_append.1 member with before | here
    · rw [Output.mem_records_prepare prepares before]
      rfl
    · obtain ⟨path, _, rfl⟩ := List.mem_map.1 here
      rfl
  · obtain ⟨text, isText, read⟩ := each _ (List.mem_map_of_mem member)
    rw [contentOf_eq_text isText] at read
    exact read

end Steps

/-- The files of a generation that succeeded correspond to the artifacts of its model. -/
structure FilesMatch (configuration : Configuration) (commandLine directory : String)
    (model : Model) (names : List String) (records : List Record) (written : List FilePath)
    (files : FileTree) : Prop where
  named : List.Forall₂ (fun artifact name => CSharp.fileName configuration artifact = .ok name)
    model.artifacts names
  written_eq : written =
    names.eraseDups.map (fun name => (FilePath.ofString directory).join (.ofString name))
  /-- Each file holds the last artifact that is called after it. -/
  last_read : ∀ before artifact later name, model.artifacts = before ++ artifact :: later →
    CSharp.fileName configuration artifact = .ok name →
    (∀ other ∈ later, CSharp.fileName configuration other ≠ .ok name) →
    ∃ text, CSharp.source configuration commandLine artifact = .ok text ∧
      files.read ((FilePath.ofString directory).join (.ofString name)) =
        .ok (Utf8.encode text.toList)
  warnings : (records.filter warnsOfOverwriting).length + written.length =
    model.artifacts.length
  all_written_iff : written.length = model.artifacts.length ↔
    (model.represented.map Identifier.sanitize).Nodup

section Match

variable {generator after : Generator} {tree changed : FileTree} {records : List Record}
variable {settings : OutputSettings} {artifacts : List Artifact} {pieces : List (String × String)}

/-- The rendered files are called after their artifacts. -/
theorem names_pieces (given : configuration.outputSettings = .ok settings)
    (each : List.Forall₂ (IsRendered configuration commandLine) artifacts pieces) :
    pieces.map Prod.fst =
      (artifacts.map Artifact.name).map
        (fun name => name ++ "." ++ CSharp.extensionOf settings) := by
  induction each with
  | nil => rfl
  | cons isRendered _ ih =>
      have named := isRendered.named
      rw [CSharp.fileName_of_settings given] at named
      rw [List.map_cons, List.map_cons, List.map_cons, ih, ← Except.ok.inj named]

theorem named_of_isRendered
    (each : List.Forall₂ (IsRendered configuration commandLine) artifacts pieces) :
    List.Forall₂ (fun artifact name => CSharp.fileName configuration artifact = .ok name)
      artifacts (pieces.map Prod.fst) := by
  induction each with
  | nil => exact .nil
  | cons isRendered _ ih => exact .cons isRendered.named ih

/-- A name that no artifact has is the name of none of their files. -/
theorem not_mem_names {name : String}
    (each : List.Forall₂ (IsRendered configuration commandLine) artifacts pieces)
    (others : ∀ other ∈ artifacts, CSharp.fileName configuration other ≠ .ok name) :
    name ∉ pieces.map Prod.fst := by
  induction each with
  | nil => exact List.not_mem_nil
  | cons isRendered _ ih =>
      rw [List.map_cons, List.mem_cons, not_or]
      refine ⟨fun same => others _ List.mem_cons_self (same ▸ isRendered.named), ih ?_⟩
      exact fun other member => others other (List.mem_cons_of_mem _ member)

theorem append_injective (extension : String) :
    Function.Injective (fun name : String => name ++ "." ++ extension) := by
  intro name other same
  have chars := congrArg String.toList same
  rw [String.toList_append, String.toList_append, String.toList_append, String.toList_append]
    at chars
  exact String.toList_inj.1 (List.append_cancel_right (List.append_cancel_right chars))

/-- No artifact of a reachable model has a file outside the output directory. -/
theorem isFileName_pieces {model : Model} (titled : model.IsTitled)
    (undivided : '/' ∉ settings.fileExtension.display.toList)
    (names : pieces.map Prod.fst = (model.artifacts.map Artifact.name).map
      (fun name => name ++ "." ++ CSharp.extensionOf settings)) :
    ∀ name ∈ pieces.map Prod.fst, FilePath.IsFileName name := by
  intro name member
  rw [names, titled.names_eq] at member
  obtain ⟨title, isTitle, rfl⟩ := List.mem_map.1 member
  obtain ⟨type, _, rfl⟩ := List.mem_map.1 isTitle
  refine CSharp.isFileName_append (isName_sanitize type) ?_
  unfold CSharp.extensionOf
  split
  · exact undivided
  · decide

/-- The files of a reachable model have distinct names, none with a separator. -/
theorem RendersTo.plain {model : Model} {files : List (String × String)}
    (rendered : RendersTo configuration commandLine model.artifacts [] records files pieces)
    (given : configuration.outputSettings = .ok settings) (titled : model.IsTitled)
    (undivided : '/' ∉ settings.fileExtension.display.toList) :
    (∀ file ∈ files, FilePath.IsFileName file.1) ∧ (files.map Prod.fst).Nodup := by
  have keys : files.map Prod.fst = (pieces.map Prod.fst).eraseDups := by
    rw [rendered.after_eq, keys_foldl_putPair]
  refine ⟨fun file member => ?_, keys ▸ nodup_eraseDups _⟩
  have key := List.mem_map_of_mem (f := Prod.fst) member
  rw [keys, List.mem_eraseDups] at key
  exact isFileName_pieces titled undivided (names_pieces given rendered.each) _ key

/-- A usable output is where it was asked for, with the settings that were given. -/
theorem outputOf_eq_ok {directory : String} {output : Output}
    (usable : outputOf configuration directory = .ok output) :
    ∃ settings, configuration.outputSettings = .ok settings ∧
      output = ⟨.ofString directory, configuration.cleanOutput.isTrue,
        settings.atomicWrite.isTrue⟩ := by
  unfold outputOf at usable
  cases given : configuration.outputSettings with
  | error failure =>
      rw [given] at usable
      cases usable
  | ok settings =>
      rw [given] at usable
      exact ⟨settings, rfl, (Except.ok.inj usable).symm⟩

/-- Of all that is reported only the rendering tells of lost artifacts. -/
theorem filter_warnsOfOverwriting {early middle late : List Record} {last : Record}
    (before : ∀ record ∈ early, warnsOfOverwriting record = false)
    (warned : ∀ record ∈ middle, ∃ name, record = overwriteRecord name)
    (after : ∀ record ∈ late, warnsOfOverwriting record = false)
    (mild : Loader.isWarning last = false) :
    (early ++ middle ++ (late ++ [last])).filter warnsOfOverwriting = middle := by
  have all : ∀ record ∈ middle, warnsOfOverwriting record = true := by
    intro record member
    obtain ⟨name, rfl⟩ := warned record member
    exact warnsOfOverwriting_overwriteRecord name
  rw [List.filter_append, List.filter_append, List.filter_append, List.filter_eq_self.2 all,
    List.filter_eq_nil_iff.2 (by simpa using before),
    List.filter_eq_nil_iff.2 (by simpa using after)]
  simp [not_warnsOfOverwriting mild]

/--
Generated files correspond to artifacts: the returned paths are those of the
distinct names of files, each file holds the last artifact of its name, and as
many warnings are given as artifacts are lost.  None is lost exactly if the names
of the types are distinct once they are sanitized.
-/
theorem generate_filesMatch {directory : String} {written : List FilePath}
    (reachable : generator.Reachable)
    (undivided : ∀ settings, generator.configuration.outputSettings = .ok settings →
      '/' ∉ settings.fileExtension.display.toList)
    (generates : generate directory (generator, tree) =
      (⟨records, .ok written⟩, after, changed)) :
    ∃ model names, after.model = some model ∧
      FilesMatch generator.configuration generator.commandLine directory model names records
        written changed := by
  obtain ⟨early, middle, late, model, files, output, obtained, renders, usable, writes, rfl⟩ :=
    generate_eq_ok generates
  have kept := obtainModel_keeps_model obtained
  obtain ⟨settings, given, rfl⟩ := outputOf_eq_ok usable
  obtain ⟨pieces, rendered⟩ := exists_rendersTo renders
  have titled : model.IsTitled := by
    have advanced := advance_obtainModel tree generator
    rw [obtained] at advanced
    obtain ⟨catalog, rfl⟩ := reachable.isModelled.advance advanced model kept
    exact isTitled_modelOf catalog
  have names := names_pieces given rendered.each
  obtain ⟨plain, distinct⟩ := rendered.plain given titled (undivided settings given)
  obtain rfl := rendered.after_eq
  have keys := keys_foldl_putPair pieces
  have counted := congrArg List.length keys
  rw [List.length_map] at counted
  obtain ⟨rfl, quiet, read⟩ := writeAll_contentsOf writes plain distinct
  have total : pieces.length = model.artifacts.length := rendered.each.length_eq.symm
  refine ⟨model, pieces.map Prod.fst, kept, named_of_isRendered rendered.each, ?_, ?_, ?_, ?_⟩
  · rw [← keys, List.map_map]
    rfl
  · intro before artifact later name split named others
    have each := rendered.each
    rw [split] at each
    obtain ⟨first, ⟨key, text⟩, last, rfl, isRendered, rest⟩ := exists_append_of_forall₂ each
    obtain rfl : name = key := Except.ok.inj (named.symm.trans isRendered.named)
    refine ⟨text, isRendered.written, read (name, text) ?_⟩
    rw [List.foldl_append, List.foldl_cons]
    exact mem_foldl_putPair ((Model.mem_assign _).2 (.inl rfl)) (not_mem_names rest others)
  · have lost := rendered.lost
    rw [filter_warnsOfOverwriting (not_warnsOfOverwriting_obtainModel obtained) rendered.warned
      quiet rfl, List.length_map, lost, total, List.length_nil, Nat.zero_add]
  · rw [List.length_map, counted, ← total, ← List.length_map (f := Prod.fst),
      length_eraseDups_eq_iff, names, titled.names_eq,
      List.nodup_map_iff (append_injective _)]
    exact Iff.rfl

end Match

/-- Two types whose names are told apart by nothing that an identifier shows. -/
def twinTree : FileTree where
  entries := [
    (["a.xsd"], Loader.textFile (
      "<schema xmlns='http://www.w3.org/2001/XMLSchema'>" ++
      "<simpleType name='Lamp-x'><restriction><enumeration value='on'/></restriction>" ++
      "</simpleType><complexType name='Lamp.x'/></schema>"))]
  workingDirectory := []

def twinGenerator : Generator :=
  .new (.ofString "a.xsd") {} "generate"

theorem generate_filesMatch_twinTree :
    (generate "out" (twinGenerator, twinTree)).1.outcome = .ok [⟨"", ["out", "Lamp_x.cs"]⟩] ∧
      ∃ model names, (generate "out" (twinGenerator, twinTree)).2.1.model = some model ∧
        FilesMatch {} "generate" "out" model names
          (generate "out" (twinGenerator, twinTree)).1.records [⟨"", ["out", "Lamp_x.cs"]⟩]
          (generate "out" (twinGenerator, twinTree)).2.2 := by
  have succeeds : (generate "out" (twinGenerator, twinTree)).1.outcome =
      .ok [⟨"", ["out", "Lamp_x.cs"]⟩] := by
    simp only [twinTree, Loader.textFile, String.toList_append, String.reduceToList]
    decide +kernel
  refine ⟨succeeds, ?_⟩
  rcases result : generate "out" (twinGenerator, twinTree) with
    ⟨⟨records, outcome⟩, after, changed⟩
  rw [result] at succeeds
  obtain rfl : outcome = .ok [⟨"", ["out", "Lamp_x.cs"]⟩] := succeeds
  refine generate_filesMatch (.new _ _ _) (fun settings given => ?_) result
  cases given
  decide

end Generator

end SchemaBinding
