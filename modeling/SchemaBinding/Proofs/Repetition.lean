import SchemaBinding.Proofs.CommandLines
import SchemaBinding.Proofs.InertOptions
import SchemaBinding.Proofs.Invocations
import SchemaBinding.Proofs.Regeneration

/-!
# Running again

A run that succeeded can be repeated on the tree that it left: it ends in the same
way, and it changes nothing but the command lines in the comments of the files.
These differ only where the first run has made what its command line names, which
is shown in full as long as nothing is there.
-/

namespace SchemaBinding.CommandLine

open CSharp (DiffersInComment)
open Generator (generate loading)
open Loader (directivesOf resolveLocation)

variable {tree after : FileTree}

namespace Invocation

variable {invocation : Invocation} {generator : Generator} {place directory : Location}

def doneLine (invocation : Invocation) (written : List FilePath) : String :=
  s!"Generated {written.length} file(s) in {invocation.output.toString}"

/-- The output of an invocation is apart from all that a run of it reads. -/
structure IsApart (invocation : Invocation) (generator : Generator) (tree : FileTree) : Prop where
  outside : ¬ invocation.path.parts <+: invocation.output.parts
  documents : ∀ source ∈ (loading tree generator).2.visited,
    ¬ invocation.output.parts <+: source.parts
  configuration : ∀ path, invocation.configuration = some path →
    ¬ invocation.output.parts <+: path.parts

structure IsRepeatable (invocation : Invocation) (generator : Generator)
    (tree after : FileTree) : Prop extends IsApart invocation generator tree where
  /-- No file is written outside the output. -/
  undivided : ∀ settings, generator.configuration.outputSettings = .ok settings →
    '/' ∉ settings.fileExtension.display.toList
  /-- References that led nowhere lead nowhere still. -/
  passedOver : ∀ source ∈ (loading tree generator).2.visited,
    ∀ directive ∈ directivesOf tree source, ∀ location, directive.location = some location →
      resolveLocation tree location source = .error (.missingDocument location source) →
      resolveLocation after location source = .error (.missingDocument location source)
  /-- The namespace, too, is looked up as a path, for which it must not be too long. -/
  targetNamespace : ∀ name, invocation.targetNamespace = some name →
    ∃ known, after.pathExists (.ofString name) = .ok known

theorem configurationOf_eq_ok {configuration : Configuration} :
    invocation.configurationOf tree = .ok configuration ↔
      ∃ given, (match invocation.configuration with
        | some path => readConfiguration tree path
        | none => .ok {}) = .ok given ∧ configuration = invocation.override given := by
  unfold configurationOf
  rw [except_bind_eq_ok]
  refine exists_congr fun given => and_congr ?_ ?_
  · cases invocation.configuration <;> exact Iff.rfl
  · exact ⟨fun same => (Except.ok.inj same).symm, fun same => congrArg Except.ok same.symm⟩

theorem generatorOf_eq_ok : invocation.generatorOf tree = .ok generator ↔
    ∃ configuration line, invocation.configurationOf tree = .ok configuration ∧
      reconstruct tree parameters invocation.values = .ok line ∧
      generator = .new invocation.path configuration line := by
  unfold generatorOf
  rw [except_bind_eq_ok]
  refine exists_congr fun configuration => ?_
  rw [except_bind_eq_ok, ← exists_and_left]
  refine exists_congr fun line => and_congr_right fun _ => and_congr_right fun _ => ?_
  exact ⟨fun same => (Except.ok.inj same).symm, fun same => congrArg Except.ok same.symm⟩

/-- A run succeeds exactly if its generator can be made and generates. -/
theorem run_eq_ok {records : List Record} {line : String} :
    invocation.run tree = (⟨records, .ok line⟩, after) ↔
      ∃ generator left written, invocation.generatorOf tree = .ok generator ∧
        generate invocation.output.toString (generator, tree) =
          (⟨records, .ok written⟩, left, after) ∧
        line = invocation.doneLine written := by
  unfold Invocation.run
  cases invocation.generatorOf tree with
  | error failure =>
      exact iff_of_false (fun same => by cases same) (fun ⟨_, _, _, same, _⟩ => by cases same)
  | ok generator =>
      dsimp only
      rcases result : generate invocation.output.toString (generator, tree) with
        ⟨⟨told, outcome⟩, left, changed⟩
      cases outcome with
      | error failure =>
          refine iff_of_false (fun same => by cases same) ?_
          rintro ⟨_, _, _, same, generates, -⟩
          cases same
          rw [result] at generates
          cases generates
      | ok written =>
          constructor
          · intro same
            cases same
            exact ⟨generator, left, written, rfl, result, rfl⟩
          · rintro ⟨_, _, _, same, generates, rfl⟩
            cases same
            rw [result] at generates
            cases generates
            rfl

section Again

variable {configuration : Configuration} {line : String} {early : List Record}
variable {schemas : List Schema} {loader : Loader}
variable (placed : invocation.IsPlaced tree place directory)
variable (spares : FileTree.Spares directory tree after)
variable (repeatable :
  invocation.IsRepeatable (.new invocation.path configuration line) tree after)
include placed spares repeatable

/-- The configuration is read as before. -/
theorem configurationOf_again (read : invocation.configurationOf tree = .ok configuration) :
    invocation.configurationOf after = .ok configuration := by
  obtain ⟨given, found, rfl⟩ := configurationOf_eq_ok.1 read
  refine configurationOf_eq_ok.2 ⟨given, ?_, rfl⟩
  cases source : invocation.configuration with
  | none =>
      rw [source] at found
      exact found
  | some path =>
      rw [source] at found
      obtain ⟨place, leads⟩ := placed.configuration path source
      have apart := repeatable.configuration path source
      rw [placed.output_eq, leads.path_eq] at apart
      dsimp only at found ⊢
      unfold readConfiguration at found ⊢
      cases bytes : tree.read path with
      | error fault =>
          rw [bytes] at found
          cases found
      | ok content =>
          rw [bytes] at found
          rw [spares.read (fun other located => ?_) bytes]
          · exact found
          · obtain rfl := Except.ok.inj (leads.located.symm.trans located)
            exact apart

variable (loads : loading tree (.new invocation.path configuration line) =
  (⟨early, .ok schemas⟩, loader))
include loads

omit placed spares in
theorem IsRepeatable.not_above (output_eq : invocation.output = .ofLocation directory) :
    ∀ source ∈ loader.visited, ¬ directory <+: source.parts := by
  have documents := repeatable.documents
  rw [loads, output_eq] at documents
  exact documents

/-- The paths of the invocation lead to the same places. -/
theorem IsPlaced.again : invocation.IsPlaced after place directory where
  path := placed.path.spared spares fun bytes found => by
    have located := placed.path.located
    rw [← placed.path.ofString_toString] at located
    exact repeatable.not_above loads placed.output_eq _
      (Loader.mem_visited_of_file loads located found)
  output_eq := placed.output_eq
  names := placed.names
  configuration path given := by
    obtain ⟨place, leads⟩ := placed.configuration path given
    refine ⟨place, leads.spared spares fun _ _ => ?_⟩
    have apart := repeatable.configuration path given
    rw [placed.output_eq, leads.path_eq] at apart
    exact apart

theorem shownAlike_again : invocation.ShownAlike tree after where
  targetNamespace := repeatable.targetNamespace
  configuration path given := by
    obtain ⟨place, leads⟩ := placed.configuration path given
    obtain ⟨again, leadsAgain⟩ :=
      (placed.again spares repeatable loads).configuration path given
    rw [leads.pathExists, leadsAgain.pathExists]
  path := by
    rw [placed.path.pathExists, (placed.again spares repeatable loads).path.pathExists]

theorem loadsAlike_again (sound : tree.WellFormed) :
    Loader.LoadsAlike tree after invocation.path.toString configuration.recurse.isTrue
      loader.visited := by
  have located := placed.path.located
  rw [← placed.path.ofString_toString] at located
  have outside := repeatable.outside
  rw [placed.output_eq, placed.path.path_eq] at outside
  have passedOver := repeatable.passedOver
  rw [loads] at passedOver
  exact Loader.loadsAlike_of_spares sound spares loads
    (repeatable.not_above loads placed.output_eq) located placed.path.stands outside passedOver

end Again

/--
What a run leaves that is made again: the same files but for the command lines in
their comments, and exactly the same files if there are no comments, or if the
paths in the command line are there before the first run as they are after it.
-/
structure LeavesAgain (invocation : Invocation) (tree after later : FileTree) : Prop where
  alike : ∃ configuration line otherLine,
    invocation.configurationOf tree = .ok configuration ∧
      reconstruct tree parameters invocation.values = .ok line ∧
      reconstruct after parameters invocation.values = .ok otherLine ∧
      after.HoldsAlike (DiffersInComment configuration line otherLine) later
  exact_of_silent : (∀ configuration, invocation.configurationOf tree = .ok configuration →
    configuration.addGenerationComment.isTrue = false) →
    ∀ place, later.entry? place = after.entry? place
  exact_of_shown : tree.isDirectory invocation.output = true →
    (∀ name, invocation.targetNamespace = some name →
      after.pathExists (.ofString name) = tree.pathExists (.ofString name)) →
    ∀ place, later.entry? place = after.entry? place

/-- A run that succeeded ends in the same way on the tree that it left. -/
theorem run_again (sound : tree.WellFormed) (placed : invocation.IsPlaced tree place directory)
    {records : List Record} {line : String}
    (runs : invocation.run tree = (⟨records, .ok line⟩, after))
    (repeatable : ∀ generator, invocation.generatorOf tree = .ok generator →
      invocation.IsRepeatable generator tree after) :
    (after.workingDirectory = tree.workingDirectory ∧ invocation.IsPlaced after place directory ∧
      after.isDirectory invocation.output = true) ∧
      ∃ more later, invocation.run after = (⟨more, .ok line⟩, later) ∧
        invocation.LeavesAgain tree after later := by
  obtain ⟨generator, left, written, made, generates, rfl⟩ := run_eq_ok.1 runs
  have repeatable := repeatable generator made
  obtain ⟨configuration, told, configured, reconstructed, rfl⟩ := generatorOf_eq_ok.1 made
  rw [placed.output_eq] at generates
  obtain ⟨early, schemas, loader, output, files, loads, rfl, produces⟩ :=
    Generator.exists_produces sound placed.names repeatable.undivided generates
  have spares := FileTree.spares_of_changes sound placed.names produces.leaves.changes
  have placedAgain := placed.again spares repeatable loads
  have isDirectory : after.isDirectory invocation.output = true := by
    rw [placed.output_eq]
    exact produces.leaves.isDirectory
  have leads := leadsTo_of_isDirectory placed.names produces.leaves.isDirectory
  -- The generator of the second run differs from the first one in nothing but its line.
  obtain ⟨toldAgain, reconstructedAgain, sameLine⟩ := reconstruct_again
    (shownAlike_again placed spares repeatable loads)
    (placed.output_eq ▸ leads.pathExists) reconstructed
  have madeAgain := generatorOf_eq_ok.2
    ⟨configuration, toldAgain, configurationOf_again placed spares repeatable configured,
      reconstructedAgain, rfl⟩
  obtain ⟨more, leftAgain, later, generatesAgain, alike⟩ := produces.again sound placed.names loads
    (loadsAlike_again placed spares repeatable loads sound) toldAgain
  rw [← placed.output_eq] at generatesAgain
  refine ⟨⟨spares.keepsDirectories.workingDirectory_eq, placedAgain, isDirectory⟩, more, later,
    run_eq_ok.2 ⟨_, leftAgain, _, madeAgain, generatesAgain, rfl⟩,
    ⟨configuration, told, toldAgain, configured, reconstructed, reconstructedAgain, alike⟩,
    fun silent => (alike.mono fun _ _ differs =>
      differs.eq (silent configuration configured)).entry?_eq,
    fun here shown => ?_⟩
  rw [placed.output_eq] at here sameLine
  obtain rfl := sameLine (leadsTo_of_isDirectory placed.names here).pathExists shown
  exact (alike.mono fun _ _ differs => differs.eq_of_line).entry?_eq

end Invocation

/-- A run ends without an error if it shows help, or if its invocation succeeds. -/
theorem execute_cases {words : List String} {report : Report}
    (runs : execute words tree = (report, after)) (succeeds : report.ending.status = 0) :
    (Request.ofWords tree words = .help ∧ report = ⟨[], .help⟩ ∧ after = tree) ∨
      ∃ invocation records line, Request.ofWords tree words = .invoke invocation ∧
        invocation.run tree = (⟨records, .ok line⟩, after) ∧
        report = ⟨invocation.shownLines records, .done line⟩ := by
  unfold execute at runs
  split at runs
  · cases runs
    cases succeeds
  · next asks =>
      cases runs
      exact .inl ⟨asks, rfl, rfl⟩
  · cases runs
    cases succeeds
  · next invocation asks =>
      rcases result : invocation.run tree with ⟨⟨records, outcome⟩, changed⟩
      rw [result] at runs
      cases outcome with
      | error failure =>
          cases runs
          cases succeeds
      | ok line =>
          cases runs
          exact .inr ⟨invocation, records, line, asks, result, rfl⟩

/--
A run that ends without an error does so again with the same words on the tree that
it left, and it ends in the same way.  It leaves the same files but for the command
lines in their comments, and exactly the same if there are no comments, or if the
paths in the command line are there before the first run as they are after it.
-/
theorem execute_again {words : List String} {report : Report} (sound : tree.WellFormed)
    (runs : execute words tree = (report, after)) (succeeds : report.ending.status = 0)
    (repeatable : ∀ invocation generator, Request.ofWords tree words = .invoke invocation →
      invocation.generatorOf tree = .ok generator →
      invocation.IsRepeatable generator tree after) :
    ∃ again later, execute words after = (again, later) ∧ again.ending = report.ending ∧
      ((Request.ofWords tree words = .help ∧ later = after) ∨
        ∃ invocation, Request.ofWords tree words = .invoke invocation ∧
          invocation.LeavesAgain tree after later) := by
  rcases execute_cases runs succeeds with
    ⟨asks, rfl, rfl⟩ | ⟨invocation, records, line, asks, run, rfl⟩
  · exact ⟨_, _, runs, rfl, .inl ⟨asks, rfl⟩⟩
  · obtain ⟨arguments, read, help, valid⟩ := Request.ofWords_eq_invoke.1 asks
    obtain ⟨first, second, described⟩ := Invocation.ofArguments_eq_ok.1 valid
    obtain ⟨place, directory, placed⟩ := described.exists_isPlaced sound
    obtain ⟨⟨sameDirectory, placedAgain, isDirectory⟩, more, later, runAgain, leaves⟩ :=
      invocation.run_again sound placed run fun generator => repeatable invocation generator asks
    have asksAgain : Request.ofWords after words = .invoke invocation := by
      refine Request.ofWords_again sameDirectory asks ?_ ?_ ?_
      · rw [placedAgain.path.lookup?]
        exact placedAgain.path.stands
      · intro path given
        obtain ⟨place, leads⟩ := placedAgain.configuration path given
        rw [leads.lookup?]
        exact leads.stands
      · intro bytes isFile
        rw [FileTree.isDirectory, isFile] at isDirectory
        cases isDirectory
    refine ⟨⟨invocation.shownLines more, .done line⟩, later, ?_, rfl,
      .inr ⟨invocation, asks, leaves⟩⟩
    unfold execute
    rw [asksAgain]
    simp only [runAgain]

/-- A schema that includes a document, beside a file that is no document. -/
def referringTree (location : String) : FileTree where
  entries := [
    (["in"], .directory),
    (["in", "a.xsd"], Loader.textFile (
      "<schema xmlns='http://www.w3.org/2001/XMLSchema'><complexType name='Arch'/>" ++
      "<include schemaLocation='" ++ location ++ "'/></schema>")),
    (["in", "b.xsd"], Loader.textFile "<schema")]
  workingDirectory := []

def referringWords : List String := ["in/a.xsd", "out"]

def referringInvocation : Invocation where
  targetNamespace := none
  recurse := false
  clean := false
  pascalCase := false
  nullable := false
  configuration := none
  verbosity := 0
  path := .ofLocation ["in", "a.xsd"]
  output := .ofLocation ["out"]

theorem referringInvocation_cases {location : String} {invocation : Invocation}
    {generator : Generator}
    (asked : Request.ofWords (referringTree location) referringWords =
      .invoke referringInvocation)
    (asks : Request.ofWords (referringTree location) referringWords = .invoke invocation)
    (made : invocation.generatorOf (referringTree location) = .ok generator) :
    invocation = referringInvocation ∧
      ∃ line, generator = .new referringInvocation.path {} line := by
  obtain rfl := Request.invoke.inj (asked.symm.trans asks)
  obtain ⟨configuration, line, configured, -, rfl⟩ := Invocation.generatorOf_eq_ok.1 made
  cases configured
  exact ⟨rfl, line, rfl⟩

/-- The output is apart from what is read if the schema is all that is loaded. -/
theorem isApart_referringInvocation {location line : String}
    (visited : (loading (referringTree location)
      (.new referringInvocation.path {} line)).2.visited = [referringInvocation.path]) :
    referringInvocation.IsApart (.new referringInvocation.path {} line)
      (referringTree location) where
  outside := by decide
  documents source member := by
    rw [visited] at member
    obtain rfl := List.mem_singleton.1 member
    decide
  configuration _ given := by cases given

theorem execute_again_referringTree :
    (execute referringWords (referringTree "gone.xsd")).1.ending =
        .done "Generated 1 file(s) in /out" ∧
      ∃ again later, execute referringWords
          (execute referringWords (referringTree "gone.xsd")).2 = (again, later) ∧
        again.ending = .done "Generated 1 file(s) in /out" ∧
        referringInvocation.LeavesAgain (referringTree "gone.xsd")
          (execute referringWords (referringTree "gone.xsd")).2 later := by
  obtain ⟨asked, ends, loaded, passedOver⟩ :
      Request.ofWords (referringTree "gone.xsd") referringWords = .invoke referringInvocation ∧
        (execute referringWords (referringTree "gone.xsd")).1.ending =
          .done "Generated 1 file(s) in /out" ∧
        (Loader.load (referringTree "gone.xsd") referringInvocation.path.toString
          ({} : Configuration).recurse.isTrue .empty).2.visited = [referringInvocation.path] ∧
        ∀ directive ∈ directivesOf (referringTree "gone.xsd") referringInvocation.path,
          ∀ location ∈ directive.location,
            resolveLocation (execute referringWords (referringTree "gone.xsd")).2 location
              referringInvocation.path =
                .error (.missingDocument location referringInvocation.path) := by
    simp only [referringTree, Loader.textFile, String.toList_append, String.reduceToList]
    decide +kernel
  have visited : ∀ line, (loading (referringTree "gone.xsd")
      (.new referringInvocation.path {} line)).2.visited = [referringInvocation.path] :=
    fun line => by rw [Generator.loading_new]; exact loaded
  have sound : (referringTree "gone.xsd").WellFormed := by decide
  have runs : execute referringWords (referringTree "gone.xsd") = (_, _) := (Prod.eta _).symm
  obtain ⟨again, later, runsAgain, same, leaves⟩ := execute_again sound runs (by rw [ends]; rfl)
    (fun invocation generator asks made => by
      obtain ⟨rfl, line, rfl⟩ := referringInvocation_cases asked asks made
      refine { isApart_referringInvocation (visited line) with
        undivided := fun settings given => ?_
        passedOver := fun source member directive inside location given _ => ?_
        targetNamespace := fun _ given => by cases given }
      · cases given
        decide
      · rw [visited] at member
        obtain rfl := List.mem_singleton.1 member
        exact passedOver directive inside location given)
  refine ⟨ends, again, later, runsAgain, same.trans ends, ?_⟩
  rcases leaves with ⟨asks, -⟩ | ⟨invocation, asks, leaves⟩
  · rw [asked] at asks
    cases asks
  · obtain rfl := Request.invoke.inj (asked.symm.trans asks)
    exact leaves

/--
A run without an error whose output is apart from all that it reads can be repeated,
and leaves exactly the same files then.
-/
def RepeatsExactly (words : List String) (tree : FileTree) : Prop :=
  (execute words tree).1.ending.status = 0 →
  (∀ invocation generator, Request.ofWords tree words = .invoke invocation →
    invocation.generatorOf tree = .ok generator → invocation.IsApart generator tree) →
  (execute words (execute words tree).2).1.ending.status = 0 ∧
    ∀ place, FileTree.entry? (execute words (execute words tree).2).2 place =
      FileTree.entry? (execute words tree).2 place

/--
Not every such run can be repeated.  A reference through the output is passed over as
long as there is no output, and leads to a file that is no document afterwards.
-/
theorem not_repeatsExactly_referringTree :
    (referringTree "../out/../in/b.xsd").WellFormed ∧
      ¬ RepeatsExactly referringWords (referringTree "../out/../in/b.xsd") := by
  obtain ⟨asked, first, second, loaded⟩ :
      Request.ofWords (referringTree "../out/../in/b.xsd") referringWords =
          .invoke referringInvocation ∧
        (execute referringWords (referringTree "../out/../in/b.xsd")).1.ending.status = 0 ∧
        (execute referringWords
          (execute referringWords (referringTree "../out/../in/b.xsd")).2).1.ending.status = 1 ∧
        (Loader.load (referringTree "../out/../in/b.xsd") referringInvocation.path.toString
          ({} : Configuration).recurse.isTrue .empty).2.visited = [referringInvocation.path] := by
    simp only [referringTree, Loader.textFile, String.toList_append, String.reduceToList]
    decide +kernel
  have visited : ∀ line, (loading (referringTree "../out/../in/b.xsd")
      (.new referringInvocation.path {} line)).2.visited = [referringInvocation.path] :=
    fun line => by rw [Generator.loading_new]; exact loaded
  refine ⟨by decide, fun repeated => ?_⟩
  obtain ⟨again, -⟩ := repeated first fun invocation generator asks made => by
    obtain ⟨rfl, line, rfl⟩ := referringInvocation_cases asked asks made
    exact isApart_referringInvocation (visited line)
  rw [second] at again
  cases again

end SchemaBinding.CommandLine
