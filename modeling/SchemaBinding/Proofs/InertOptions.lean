import SchemaBinding.CommandLine.Program
import SchemaBinding.Proofs.CommandLines
import SchemaBinding.Proofs.Comments

/-!
# Inert options

Three options change nothing that the program does but the command line that it
records: those for names in Pascal case, for nullable fields and for more records.
-/

namespace SchemaBinding.CommandLine

open CSharp (DiffersInComment)
open Generator (obtainModel finish generate_eq_finish fst_obtainModel_new alike_finish)

/-- The forms of the options that change nothing but the recorded command line. -/
def inertForms : List String :=
  ["--pascal-case", "--nullable", "--verbose", "-v"]

def inertNames : List String :=
  ["pascal_case", "nullable", "verbose"]

namespace Arguments

/-- Each inert form is read as one flag. -/
theorem exists_inert_readWord? {word : String} (inert : word ∈ inertForms) :
    word ≠ "--" ∧ isOptionWord word = true ∧ ∃ name ∈ inertNames,
      readWord? (parameters ++ [helpParameter]) word = some ⟨[⟨name, none⟩], none⟩ := by
  simp only [inertForms, List.mem_cons, List.not_mem_nil, or_false] at inert
  rw [parameters_eq]
  rcases inert with rfl | rfl | rfl | rfl
  · exact ⟨by decide, by decide +kernel, "pascal_case", by decide, by decide⟩
  · exact ⟨by decide, by decide +kernel, "nullable", by decide, by decide⟩
  · exact ⟨by decide, by decide +kernel, "verbose", by decide, by decide⟩
  · exact ⟨by decide, by decide +kernel, "verbose", by decide, by decide +kernel⟩

/-- Words of inert options are read as these options in front of what the other words say. -/
theorem exists_read?_append {inert : List String} (flags : ∀ word ∈ inert, word ∈ inertForms)
    (words : List String) :
    ∃ given : List Given, (∀ option ∈ given, option.name ∈ inertNames) ∧
      read? (parameters ++ [helpParameter]) (inert ++ words) =
        prepend given <$> read? (parameters ++ [helpParameter]) words := by
  induction inert with
  | nil =>
      refine ⟨[], fun _ member => absurd member List.not_mem_nil, ?_⟩
      exact (LawfulFunctor.id_map _).symm
  | cons word rest ih =>
      obtain ⟨given, named, read⟩ :=
        ih fun other member => flags other (List.mem_cons_of_mem _ member)
      obtain ⟨different, isOption, name, isInert, one⟩ :=
        exists_inert_readWord? (flags word List.mem_cons_self)
      refine ⟨⟨name, none⟩ :: given, List.forall_mem_cons.2 ⟨isInert, named⟩, ?_⟩
      rw [List.cons_append, read?, readFrom?, if_neg (by simpa using different), if_pos isOption,
        one]
      rw [read?] at read
      dsimp only
      rw [read, Functor.map_map]
      rfl

section Prepend

variable {given : List Given} {name : String}
variable (apart : ∀ option ∈ given, option.name ≠ name) (arguments : Arguments)
include apart

theorem value?_prepend : (prepend given arguments).value? name = arguments.value? name := by
  have nothing : given.reverse.find? (fun option => option.name == name) = none := by
    rw [List.find?_eq_none]
    intro option member
    simpa using apart option (List.mem_reverse.1 member)
  rw [value?, value?, prepend, List.reverse_append, List.find?_append, nothing, Option.or_none]

theorem count_prepend : (prepend given arguments).count name = arguments.count name := by
  have nothing : given.filter (fun option => option.name == name) = [] := by
    rw [List.filter_eq_nil_iff]
    intro option member
    simpa using apart option member
  rw [count, count, prepend, List.filter_append, nothing, List.nil_append]

theorem has_prepend : (prepend given arguments).has name = arguments.has name := by
  rw [has, has, count_prepend apart]

end Prepend

def letters : List String → Nat
  | [] => 0
  | first :: rest => first.length + letters rest

theorem letters_append (words others : List String) :
    letters (words ++ others) = letters words + letters others := by
  induction words with
  | nil => exact (Nat.zero_add _).symm
  | cons first rest ih => rw [List.cons_append, letters, letters, ih, Nat.add_assoc]

/-- How many options a word gives, with the one whose value comes next. -/
def Word.size (word : Word) : Nat :=
  word.given.length + word.awaiting.toList.length

theorem size_readLetters? {options : List Parameter} {text : List Char} {word : Word}
    (read : readLetters? options text = some word) : Word.size word ≤ text.length := by
  induction text generalizing word with
  | nil =>
      cases read
      exact Nat.le_refl _
  | cons letter rest ih =>
      unfold readLetters? at read
      obtain ⟨parameter, _, read⟩ := Option.bind_eq_some_iff.1 read
      split at read
      · split at read
        · cases read
          simp [Word.size]
        · cases read
          simp [Word.size]
      · obtain ⟨more, later, read⟩ := Option.bind_eq_some_iff.1 read
        cases read
        have fewer := ih later
        simp only [Word.size, List.length_cons] at fewer ⊢
        omega

theorem size_readLong? {parameter : Parameter} {value : Option (List Char)} {word : Word}
    (read : readLong? parameter value = some word) : Word.size word ≤ 1 := by
  unfold readLong? at read
  split at read <;> cases read <;> exact Nat.le_refl _

/-- A word gives no more options than it has letters. -/
theorem size_readWord? {options : List Parameter} {text : String} {word : Word}
    (isOption : isOptionWord text = true) (read : readWord? options text = some word) :
    Word.size word ≤ text.length := by
  have written : 1 ≤ text.length := by
    rw [Nat.one_le_iff_ne_zero, ← String.length_toList, ne_eq, List.length_eq_zero_iff]
    intro none
    obtain rfl : text = "" := String.toList_inj.1 none
    revert isOption
    decide
  unfold readWord? at read
  dsimp only at read
  split at read
  · exact Nat.le_trans (size_readLong? read) written
  · split at read
    · cases read
    · refine Nat.le_trans (size_readLetters? read) ?_
      rw [List.length_drop, String.length_toList]
      exact Nat.sub_le _ _

/-- No more options are given than there are letters in the words. -/
theorem length_given_le {options : List Parameter} {words : List String}
    {awaiting : Option String} {arguments : Arguments}
    (read : readFrom? options awaiting words = some arguments) :
    arguments.given.length ≤ letters words + awaiting.toList.length := by
  induction words generalizing awaiting arguments with
  | nil =>
      cases awaiting with
      | none =>
          cases read
          exact Nat.zero_le _
      | some name => cases read
  | cons first rest ih =>
      have total : letters (first :: rest) = first.length + letters rest := rfl
      cases awaiting with
      | some name =>
          rw [readFrom?] at read
          obtain ⟨more, later, rfl⟩ := Option.map_eq_some_iff.1 read
          have fewer := ih later
          simp only [prepend, List.length_append, List.length_singleton, Option.toList_some,
            Option.toList_none, List.length_nil] at fewer ⊢
          omega
      | none =>
          rw [readFrom?] at read
          split at read
          · cases read
            exact Nat.zero_le _
          · split at read
            · next isOption =>
                split at read
                · next word one =>
                    obtain ⟨more, later, rfl⟩ := Option.map_eq_some_iff.1 read
                    have fewer := ih later
                    have small := size_readWord? isOption one
                    simp only [Word.size] at small
                    simp only [prepend, List.length_append, Option.toList_none,
                      List.length_nil] at fewer ⊢
                    omega
                · cases read
            · obtain ⟨more, later, rfl⟩ := Option.map_eq_some_iff.1 read
              have fewer := ih later
              simp only [addFirst, Option.toList_none, List.length_nil] at fewer ⊢
              omega

theorem count_le_letters {words : List String} {arguments : Arguments}
    (read : read? (parameters ++ [helpParameter]) words = some arguments) (name : String) :
    arguments.count name ≤ letters words :=
  Nat.le_trans (List.length_filter_le _ _) (length_given_le read)

end Arguments

namespace Invocation

/-- Two invocations that differ in nothing but inert options. -/
def AlikeButInert (invocation other : Invocation) : Prop :=
  ∃ pascalCase nullable verbosity, other = { invocation with pascalCase, nullable, verbosity }

theorem ofArguments_prepend {given : List Given}
    (inert : ∀ option ∈ given, option.name ∈ inertNames) (tree : FileTree)
    (arguments : Arguments) :
    ofArguments tree (arguments.prepend given) =
      (fun invocation => { invocation with
        pascalCase := (arguments.prepend given).has "pascal_case"
        nullable := (arguments.prepend given).has "nullable"
        verbosity := (arguments.prepend given).count "verbose" }) <$>
          ofArguments tree arguments := by
  have apart : ∀ {name : String}, name ∉ inertNames → ∀ option ∈ given, option.name ≠ name :=
    fun other option member same => other (same ▸ inert option member)
  have recurse := Arguments.has_prepend (apart (by decide : "recurse" ∉ inertNames)) arguments
  have clean := Arguments.has_prepend (apart (by decide : "clean" ∉ inertNames)) arguments
  have config := Arguments.value?_prepend (apart (by decide : "config" ∉ inertNames)) arguments
  have name := Arguments.value?_prepend (apart (by decide : "namespace" ∉ inertNames)) arguments
  unfold ofArguments
  rw [recurse, clean, config, name]
  cases configuration? tree (arguments.value? "config") with
  | error request => rfl
  | ok configuration =>
      have same : (arguments.prepend given).positional = arguments.positional := rfl
      rw [same]
      cases arguments.positional with
      | nil => rfl
      | cons path rest =>
          cases found : existing tree path with
          | error request =>
              simp only [found, bind, Except.bind]
              rfl
          | ok path =>
              cases rest with
              | nil =>
                  simp only [found, bind, Except.bind]
                  rfl
              | cons output excess =>
                  cases place : outputPath tree output with
                  | error request =>
                      simp only [found, place, bind, Except.bind]
                      rfl
                  | ok output =>
                      simp only [found, place, bind, Except.bind]
                      cases excess <;> rfl

/-- The verbosity of an invocation is how often its option is given. -/
theorem verbosity_eq {tree : FileTree} {arguments : Arguments} {invocation : Invocation}
    (valid : ofArguments tree arguments = .ok invocation) :
    invocation.verbosity = arguments.count "verbose" := by
  have none : ∀ option ∈ ([] : List Given), option.name ∈ inertNames :=
    fun _ member => absurd member List.not_mem_nil
  have same : arguments.prepend [] = arguments := rfl
  have again := ofArguments_prepend none tree arguments
  rw [same, valid] at again
  exact congrArg verbosity (Except.ok.inj again)

end Invocation

/-- Inert options change nothing in whether a command line can be put together. -/
theorem failAlike_reconstruct (tree : FileTree) {invocation other : Invocation}
    (alike : invocation.AlikeButInert other) (few : (invocation.verbosity : Int) ≤ mostLetters)
    (alsoFew : (other.verbosity : Int) ≤ mostLetters) :
    FailAlike (reconstruct tree parameters invocation.values)
      (reconstruct tree parameters other.values) := by
  obtain ⟨pascalCase, nullable, verbosity, rfl⟩ := alike
  unfold reconstruct
  refine FailAlike.bind (failAlike_wordsOf tree ?_) fun _ _ => rfl
  rw [parameters_eq]
  simp only [List.forall_mem_cons]
  refine ⟨failAlike_of_entry tree rfl, failAlike_of_entry tree rfl, failAlike_of_entry tree rfl,
    failAlike_of_ok ?_ ?_, failAlike_of_ok ?_ ?_, failAlike_of_entry tree rfl,
    failAlike_of_ok ?_ ?_, failAlike_of_entry tree rfl, failAlike_of_entry tree rfl,
    fun _ member => absurd member List.not_mem_nil⟩
  · exact exists_wordsForParameter_flag tree rfl rfl
  · exact exists_wordsForParameter_flag tree rfl rfl
  · exact exists_wordsForParameter_flag tree rfl rfl
  · exact exists_wordsForParameter_flag tree rfl rfl
  · exact exists_wordsForParameter_count tree rfl (by rfl) rfl few
  · exact exists_wordsForParameter_count tree rfl (by rfl) rfl alsoFew

namespace Invocation

/--
Two trees differ in nothing but the comments of files, where one holds the command
line that is put together for one invocation, and the other one that for the other.
-/
def DiffersInLine (tree : FileTree) (invocation other : Invocation)
    (left otherLeft : FileTree) : Prop :=
  ∃ configuration line otherLine,
    invocation.configurationOf tree = .ok configuration ∧
      reconstruct tree parameters invocation.values = .ok line ∧
      reconstruct tree parameters other.values = .ok otherLine ∧
      left.Alike (DiffersInComment configuration line otherLine) otherLeft

variable {invocation other : Invocation} (alike : invocation.AlikeButInert other)
include alike

theorem AlikeButInert.configurationOf_cases (tree : FileTree) :
    (∃ failure, invocation.configurationOf tree = .error failure ∧
      other.configurationOf tree = .error failure) ∨
    ∃ configuration otherConfiguration, invocation.configurationOf tree = .ok configuration ∧
      other.configurationOf tree = .ok otherConfiguration ∧
      configuration.AlikeButInert otherConfiguration := by
  obtain ⟨pascalCase, nullable, verbosity, rfl⟩ := alike
  unfold configurationOf
  cases invocation.configuration with
  | none => exact .inr ⟨_, _, rfl, rfl, _, _, rfl⟩
  | some path =>
      cases read : readConfiguration tree path with
      | error failure => exact .inl ⟨failure, by simp only [read]; rfl, by simp only [read]; rfl⟩
      | ok configuration =>
          exact .inr ⟨_, _, by simp only [read]; rfl, by simp only [read]; rfl, _, _, rfl⟩

/-- Both invocations fail for one reason, or their generators differ in inert settings. -/
theorem AlikeButInert.generatorOf_cases (tree : FileTree)
    (few : (invocation.verbosity : Int) ≤ mostLetters)
    (alsoFew : (other.verbosity : Int) ≤ mostLetters) :
    (∃ failure, invocation.generatorOf tree = .error failure ∧
      other.generatorOf tree = .error failure) ∨
    ∃ configuration otherConfiguration line otherLine,
      invocation.configurationOf tree = .ok configuration ∧
      configuration.AlikeButInert otherConfiguration ∧
      reconstruct tree parameters invocation.values = .ok line ∧
      reconstruct tree parameters other.values = .ok otherLine ∧
      invocation.generatorOf tree = .ok (.new invocation.path configuration line) ∧
      other.generatorOf tree = .ok (.new invocation.path otherConfiguration otherLine) := by
  have samePath : other.path = invocation.path := by
    obtain ⟨_, _, _, rfl⟩ := alike
    rfl
  have lines := failAlike_reconstruct tree alike few alsoFew
  unfold generatorOf
  rcases alike.configurationOf_cases tree with ⟨failure, fails, alsoFails⟩ |
    ⟨configuration, otherConfiguration, read, alsoRead, same⟩
  · rw [fails, alsoFails]
    exact .inl ⟨failure, rfl, rfl⟩
  · rw [read, alsoRead]
    rcases lines.cases with ⟨failure, told, alsoTold⟩ | ⟨line, otherLine, told, alsoTold⟩
    · rw [told, alsoTold]
      exact .inl ⟨failure, rfl, rfl⟩
    · rw [told, alsoTold]
      exact .inr ⟨configuration, otherConfiguration, line, otherLine, rfl, same, rfl, rfl, rfl,
        by rw [samePath]; rfl⟩

omit alike in
/-- A run without a generator leaves the tree as it is. -/
theorem run_of_generatorless {tree : FileTree} {failure : Failure}
    (fails : invocation.generatorOf tree = .error failure) :
    invocation.run tree = (Run.fail failure, tree) := by
  unfold Invocation.run
  rw [fails]

omit alike in
/-- A run with a generator ends as its generation does. -/
theorem run_of_generator {tree : FileTree} {configuration : Configuration} {line : String}
    (generator : invocation.generatorOf tree =
      .ok (.new invocation.path configuration line)) :
    ((invocation.run tree).1.outcome, (invocation.run tree).2) =
      ((finish configuration line invocation.output.toString
          (obtainModel tree (.new invocation.path configuration line)).1 tree).1.outcome.map
            (fun written => s!"Generated {written.length} file(s) in {invocation.output.toString}"),
        (finish configuration line invocation.output.toString
          (obtainModel tree (.new invocation.path configuration line)).1 tree).2) := by
  have ends := generate_eq_finish (.new invocation.path configuration line)
    invocation.output.toString tree
  have settings : (Generator.new invocation.path configuration line).configuration =
    configuration := rfl
  have told : (Generator.new invocation.path configuration line).commandLine = line := rfl
  rw [settings, told] at ends
  rw [← ends]
  unfold Invocation.run
  rw [generator]

/-- Runs whose generators differ in inert settings end alike, and their trees are alike. -/
theorem AlikeButInert.run_of_generators {tree : FileTree}
    {configuration otherConfiguration : Configuration} {line otherLine : String}
    (same : configuration.AlikeButInert otherConfiguration)
    (generator : invocation.generatorOf tree = .ok (.new invocation.path configuration line))
    (otherGenerator : other.generatorOf tree =
      .ok (.new invocation.path otherConfiguration otherLine)) :
    (other.run tree).1.outcome = (invocation.run tree).1.outcome ∧
      (invocation.run tree).2.Alike
        (DiffersInComment configuration line otherLine) (other.run tree).2 := by
  have samePlaces : other.output = invocation.output ∧ other.path = invocation.path := by
    obtain ⟨_, _, _, rfl⟩ := alike
    exact ⟨rfl, rfl⟩
  have recurse : otherConfiguration.recurse = configuration.recurse := by
    obtain ⟨_, _, rfl⟩ := same
    rfl
  obtain ⟨ends, alikeTrees⟩ := alike_finish same line otherLine invocation.output.toString
    (obtainModel tree (.new invocation.path configuration line)).1 tree tree
    (FileTree.alike_refl (fun _ => .inl rfl) tree)
  rw [← samePlaces.2] at otherGenerator
  have first := run_of_generator generator
  have second := run_of_generator otherGenerator
  rw [samePlaces.1, samePlaces.2,
    fst_obtainModel_new tree invocation.path line otherLine recurse] at second
  obtain ⟨outcome, left⟩ := Prod.mk.inj first
  obtain ⟨otherOutcome, otherLeft⟩ := Prod.mk.inj second
  rw [outcome, left, otherOutcome, otherLeft]
  refine ⟨?_, alikeTrees⟩
  generalize (finish configuration line invocation.output.toString
    (obtainModel tree (.new invocation.path configuration line)).1 tree).1 = run at ends ⊢
  generalize (finish otherConfiguration otherLine invocation.output.toString
    (obtainModel tree (.new invocation.path configuration line)).1 tree).1 = otherRun at ends ⊢
  cases ends with
  | returns same => rw [same]
  | fails => rfl

/-- Alike invocations end alike, and their trees differ in nothing but their command lines. -/
theorem AlikeButInert.run (tree : FileTree) (few : (invocation.verbosity : Int) ≤ mostLetters)
    (alsoFew : (other.verbosity : Int) ≤ mostLetters) :
    (other.run tree).1.outcome = (invocation.run tree).1.outcome ∧
      ((other.run tree).2 = (invocation.run tree).2 ∨
        DiffersInLine tree invocation other (invocation.run tree).2 (other.run tree).2) := by
  rcases alike.generatorOf_cases tree few alsoFew with ⟨failure, fails, alsoFails⟩ |
    ⟨configuration, otherConfiguration, line, otherLine, read, same, told, alsoTold, generator,
      otherGenerator⟩
  · rw [run_of_generatorless fails, run_of_generatorless alsoFails]
    exact ⟨rfl, .inl rfl⟩
  · obtain ⟨ends, trees⟩ := alike.run_of_generators same generator otherGenerator
    exact ⟨ends, .inr ⟨configuration, line, otherLine, read, told, alsoTold, trees⟩⟩

end Invocation

/-- How an outcome of an invocation ends a run. -/
theorem execute_of_invoke {words : List String} {tree : FileTree} {invocation : Invocation}
    (asks : Request.ofWords tree words = .invoke invocation) :
    (execute words tree).1.ending =
        (match (invocation.run tree).1.outcome with
          | .ok line => .done line
          | .error failure => .failed failure) ∧
      (execute words tree).2 = (invocation.run tree).2 := by
  unfold execute
  rw [asks]
  exact ⟨rfl, rfl⟩

/-- The same is asked for after words of inert options, but for what these options say. -/
theorem Request.ofWords_append_cases {inert words : List String}
    (flags : ∀ word ∈ inert, word ∈ inertForms) (tree : FileTree)
    (kept : (Arguments.letters (inert ++ words) : Int) ≤ mostLetters) :
    (∃ invocation other, Request.ofWords tree words = .invoke invocation ∧
      Request.ofWords tree (inert ++ words) = .invoke other ∧
      invocation.AlikeButInert other ∧ (invocation.verbosity : Int) ≤ mostLetters ∧
      (other.verbosity : Int) ≤ mostLetters) ∨
    Request.ofWords tree (inert ++ words) = Request.ofWords tree words := by
  obtain ⟨given, named, read⟩ := Arguments.exists_read?_append flags words
  unfold Request.ofWords
  rw [read]
  cases told : Arguments.read? (parameters ++ [helpParameter]) words with
  | none => exact .inr rfl
  | some arguments =>
      rw [told] at read
      have apart : ∀ option ∈ given, option.name ≠ "help" := fun option member same =>
        absurd (same ▸ named option member) (by decide)
      simp only [Option.map_eq_map, Option.map_some, Arguments.has_prepend apart,
        Invocation.ofArguments_prepend named]
      by_cases help : arguments.has "help" = true
      · rw [if_pos help]
        exact .inr (if_pos help)
      · rw [if_neg help, if_neg help]
        cases valid : Invocation.ofArguments tree arguments with
        | error request => exact .inr rfl
        | ok invocation =>
            refine .inl ⟨invocation, _, rfl, rfl, ⟨_, _, _, rfl⟩, ?_, ?_⟩
            · have few := Arguments.count_le_letters told "verbose"
              rw [Invocation.verbosity_eq valid]
              rw [Arguments.letters_append] at kept
              omega
            · have few := Arguments.count_le_letters read "verbose"
              exact Int.le_trans (Int.ofNat_le.2 few) kept

/--
Words of inert options change neither how a run ends nor what it does to the files,
but for the command line in the comment of each file; without comments they change
nothing.  The words are as few as can be kept at once.
-/
theorem execute_inert {inert words : List String} (flags : ∀ word ∈ inert, word ∈ inertForms)
    (tree : FileTree) (kept : (Arguments.letters (inert ++ words) : Int) ≤ mostLetters) :
    (execute (inert ++ words) tree).1.ending = (execute words tree).1.ending ∧
      ((execute (inert ++ words) tree).2 = (execute words tree).2 ∨
        ∃ invocation other, Request.ofWords tree words = .invoke invocation ∧
          Request.ofWords tree (inert ++ words) = .invoke other ∧
          invocation.DiffersInLine tree other (execute words tree).2
            (execute (inert ++ words) tree).2) ∧
      ∀ invocation configuration, Request.ofWords tree words = .invoke invocation →
        invocation.configurationOf tree = .ok configuration →
        configuration.addGenerationComment.isTrue = false →
        (execute (inert ++ words) tree).2 = (execute words tree).2 := by
  rcases Request.ofWords_append_cases flags tree kept with
    ⟨invocation, other, asks, alsoAsks, alike, few, alsoFew⟩ | same
  · obtain ⟨ends, left⟩ := execute_of_invoke asks
    obtain ⟨otherEnds, otherLeft⟩ := execute_of_invoke alsoAsks
    obtain ⟨outcome, trees⟩ := alike.run tree few alsoFew
    rw [ends, left, otherEnds, otherLeft, outcome]
    refine ⟨rfl, trees.imp_right fun differ => ⟨invocation, other, asks, alsoAsks, differ⟩, ?_⟩
    intro given configuration again read off
    obtain rfl := Request.invoke.inj (asks.symm.trans again)
    rcases trees with equal | ⟨_, _, _, configured, -, -, differ⟩
    · exact equal
    · obtain rfl := Except.ok.inj (configured.symm.trans read)
      exact (differ.mono fun _ _ differs => differs.eq off).eq.symm
  · have equal : execute (inert ++ words) tree = execute words tree := by
      unfold execute
      rw [same]
    rw [equal]
    exact ⟨rfl, .inl rfl, fun _ _ _ _ _ => rfl⟩

def lampTree : FileTree where
  entries := [
    (["a.xsd"], Loader.textFile
      "<schema xmlns='http://www.w3.org/2001/XMLSchema'><complexType name='Lamp'/></schema>")]
  workingDirectory := []

def lampInvocation : Invocation where
  targetNamespace := none
  recurse := false
  clean := false
  pascalCase := false
  nullable := false
  configuration := none
  verbosity := 0
  path := .ofLocation ["a.xsd"]
  output := .ofLocation ["out"]

theorem execute_inert_lampTree :
    (execute ["-v", "--nullable", "a.xsd", "out"] lampTree).1.ending =
        .done "Generated 1 file(s) in /out" ∧
      (execute ["a.xsd", "out"] lampTree).2.Alike
        (DiffersInComment {} "xsd_to_code a.xsd /out" "xsd_to_code a.xsd /out --nullable -v")
        (execute ["-v", "--nullable", "a.xsd", "out"] lampTree).2 := by
  have ends : (execute ["a.xsd", "out"] lampTree).1.ending =
      .done "Generated 1 file(s) in /out" := by
    simp only [lampTree, Loader.textFile, String.reduceToList]
    decide +kernel
  obtain ⟨same, trees, -⟩ := @execute_inert ["-v", "--nullable"]
    ["a.xsd", "out"] (by decide) lampTree (by decide)
  refine ⟨same.trans ends, ?_⟩
  rcases trees with equal | ⟨invocation, other, asks, alsoAsks, configuration, line, otherLine,
    configured, told, alsoTold, differ⟩
  · rw [List.cons_append, List.cons_append, List.nil_append] at equal
    rw [equal]
    exact FileTree.alike_refl (fun _ => .inl rfl) _
  · have asked : Request.ofWords lampTree ["a.xsd", "out"] = .invoke lampInvocation ∧
        Request.ofWords lampTree ["-v", "--nullable", "a.xsd", "out"] =
          .invoke { lampInvocation with nullable := true, verbosity := 1 } := by decide +kernel
    have lines : reconstruct lampTree parameters lampInvocation.values =
          .ok "xsd_to_code a.xsd /out" ∧
        reconstruct lampTree parameters
            { lampInvocation with nullable := true, verbosity := 1 : Invocation }.values =
          .ok "xsd_to_code a.xsd /out --nullable -v" := by decide +kernel
    obtain rfl := Request.invoke.inj (asked.1.symm.trans asks)
    obtain rfl := Request.invoke.inj (asked.2.symm.trans alsoAsks)
    obtain rfl := Except.ok.inj (lines.1.symm.trans told)
    obtain rfl := Except.ok.inj (lines.2.symm.trans alsoTold)
    cases configured
    exact differ

end SchemaBinding.CommandLine
