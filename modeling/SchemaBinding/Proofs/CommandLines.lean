import SchemaBinding.CommandLine.Invocation
import SchemaBinding.CommandLine.Reconstruction
import SchemaBinding.Proofs.Assurance

/-!
# Recorded command lines

The command line of a run is put together parameter by parameter, and the files
matter only where a text is looked up as a path.
-/

namespace SchemaBinding.CommandLine

section Reconstruct

variable {α β : Type}

/-- Two computations fail for one reason, or both succeed. -/
def FailAlike (result : Except Failure α) (other : Except Failure β) : Prop :=
  result.map (fun _ => ()) = other.map (fun _ => ())

theorem failAlike_of_ok {result : Except Failure α} {other : Except Failure β}
    (succeeds : ∃ value, result = .ok value) (alsoSucceeds : ∃ value, other = .ok value) :
    FailAlike result other := by
  obtain ⟨value, rfl⟩ := succeeds
  obtain ⟨otherValue, rfl⟩ := alsoSucceeds
  rfl

theorem FailAlike.cases {result : Except Failure α} {other : Except Failure β}
    (alike : FailAlike result other) :
    (∃ failure, result = .error failure ∧ other = .error failure) ∨
      ∃ value otherValue, result = .ok value ∧ other = .ok otherValue := by
  cases result with
  | error failure =>
      cases other with
      | error otherFailure =>
          cases alike
          exact .inl ⟨failure, rfl, rfl⟩
      | ok value => cases alike
  | ok value =>
      cases other with
      | error failure => cases alike
      | ok otherValue => exact .inr ⟨value, otherValue, rfl, rfl⟩

theorem FailAlike.bind {γ δ : Type} {result : Except Failure α} {other : Except Failure β}
    (alike : FailAlike result other) {next : α → Except Failure γ}
    {otherNext : β → Except Failure δ}
    (step : ∀ value otherValue, FailAlike (next value) (otherNext otherValue)) :
    FailAlike (result >>= next) (other >>= otherNext) := by
  rcases alike.cases with ⟨failure, rfl, rfl⟩ | ⟨value, otherValue, rfl, rfl⟩
  · rfl
  · exact step value otherValue

variable (tree : FileTree)

def wordsForParameter (values : List (Json.Key × Json.Value)) (parameter : Parameter) :
    Except Failure Words :=
  match valueOf? values parameter with
  | none => return Words.none
  | some value => do wordsFor parameter value (← shownValue tree value)

theorem wordsOf_cons (values : List (Json.Key × Json.Value)) (parameter : Parameter)
    (rest : List Parameter) :
    wordsOf tree values (parameter :: rest) = (do
      let words ← wordsForParameter tree values parameter
      let others ← wordsOf tree values rest
      return words.append others) := rfl

/-- Command lines are put together alike if the words for each parameter are. -/
theorem failAlike_wordsOf {values others : List (Json.Key × Json.Value)}
    {parameters : List Parameter}
    (each : ∀ parameter ∈ parameters,
      FailAlike (wordsForParameter tree values parameter)
        (wordsForParameter tree others parameter)) :
    FailAlike (wordsOf tree values parameters) (wordsOf tree others parameters) := by
  induction parameters with
  | nil => rfl
  | cons parameter rest ih =>
      rw [wordsOf_cons, wordsOf_cons]
      refine (each parameter List.mem_cons_self).bind fun _ _ => ?_
      refine FailAlike.bind ?_ fun _ _ => rfl
      exact ih fun other member => each other (List.mem_cons_of_mem _ member)

/-- The words for a flag that is turned on or not are always found. -/
theorem exists_wordsForParameter_flag {values : List (Json.Key × Json.Value)}
    {parameter : Parameter} (isFlag : parameter.kind = .flag) {value : Bool}
    (given : Json.Value.entry? parameter.name values = some (.boolean value)) :
    ∃ words, wordsForParameter tree values parameter = .ok words := by
  unfold wordsForParameter valueOf?
  rw [given]
  cases value with
  | false => exact ⟨Words.none, rfl⟩
  | true =>
      show ∃ words, wordsFor parameter (.boolean true) _ = .ok words
      unfold wordsFor
      rw [isFlag]
      split
      · exact ⟨_, rfl⟩
      · split
        · exact ⟨_, rfl⟩
        · exact ⟨_, rfl⟩

theorem exists_repeated {form : String} {letter : Char} {rest : List Char}
    (spelled : form.toList.dropWhile (· == '-') = letter :: rest) {count : Nat}
    (few : (count : Int) ≤ mostLetters) :
    ∃ word, repeated form (.integer count) = .ok word := by
  have below : mostLetters < countLimit := by decide
  have above : -countLimit ≤ 0 := by decide
  unfold repeated
  rw [spelled]
  show ∃ word, repeatedLetter letter count = .ok word
  unfold repeatedLetter
  rw [if_neg, if_neg (by omega)]
  · exact ⟨_, rfl⟩
  · simp only [Bool.or_eq_true, decide_eq_true_eq, not_or]
    omega

/-- The words for a count are found unless they would have too many letters. -/
theorem exists_wordsForParameter_count {values : List (Json.Key × Json.Value)}
    {parameter : Parameter} (isCount : parameter.kind = .count) {letter : Char}
    {rest : List Char}
    (form : parameter.shownForm.toList.dropWhile (· == '-') = letter :: rest) {count : Nat}
    (given : Json.Value.entry? parameter.name values = some (.integer count))
    (few : (count : Int) ≤ mostLetters) :
    ∃ words, wordsForParameter tree values parameter = .ok words := by
  unfold wordsForParameter valueOf?
  rw [given]
  by_cases zero : (Json.Value.integer count).isTrue = true
  · rw [Option.filter_some, if_pos zero]
    show ∃ words, wordsFor parameter (.integer count) _ = .ok words
    unfold wordsFor
    rw [isCount]
    split
    · exact ⟨_, rfl⟩
    · split
      · exact ⟨_, rfl⟩
      · obtain ⟨word, repeats⟩ := exists_repeated form few
        simp only [repeats]
        exact ⟨_, rfl⟩
  · rw [Option.filter_some, if_neg zero]
    exact ⟨Words.none, rfl⟩

theorem failAlike_of_entry {values others : List (Json.Key × Json.Value)} {parameter : Parameter}
    (same : Json.Value.entry? parameter.name values = Json.Value.entry? parameter.name others) :
    FailAlike (wordsForParameter tree values parameter)
      (wordsForParameter tree others parameter) := by
  rw [FailAlike, wordsForParameter, wordsForParameter, valueOf?, valueOf?, same]

end Reconstruct

section Trees

variable {tree after : FileTree} {values : List (Json.Key × Json.Value)}

theorem wordsOf_eq_ok {parameters : List Parameter} :
    (∃ words, wordsOf tree values parameters = .ok words) ↔
      ∀ parameter ∈ parameters, ∃ words, wordsForParameter tree values parameter = .ok words := by
  induction parameters with
  | nil => exact ⟨fun _ _ member => absurd member List.not_mem_nil, fun _ => ⟨Words.none, rfl⟩⟩
  | cons parameter rest ih =>
      rw [List.forall_mem_cons, ← ih, wordsOf_cons]
      cases wordsForParameter tree values parameter with
      | error failure =>
          refine iff_of_false (fun ⟨words, found⟩ => ?_) (fun ⟨⟨words, found⟩, _⟩ => ?_)
          · cases found
          · cases found
      | ok words =>
          cases wordsOf tree values rest with
          | error failure =>
              refine iff_of_false (fun ⟨words, found⟩ => ?_) (fun ⟨_, words, found⟩ => ?_)
              · cases found
              · cases found
          | ok others => exact iff_of_true ⟨_, rfl⟩ ⟨⟨_, rfl⟩, _, rfl⟩

theorem wordsOf_congr {parameters : List Parameter}
    (same : ∀ parameter ∈ parameters,
      wordsForParameter after values parameter = wordsForParameter tree values parameter) :
    wordsOf after values parameters = wordsOf tree values parameters := by
  induction parameters with
  | nil => rfl
  | cons parameter rest ih =>
      rw [wordsOf_cons, wordsOf_cons, same parameter List.mem_cons_self,
        ih fun other member => same other (List.mem_cons_of_mem _ member)]

/-- The words for a parameter are the same if its text leads somewhere in both trees, or in none. -/
theorem wordsForParameter_congr {parameter : Parameter} {value : Json.Value}
    (given : Json.Value.entry? parameter.name values = some value)
    (same : ∀ text, value = .text text →
      after.pathExists (.ofString text) = tree.pathExists (.ofString text)) :
    wordsForParameter after values parameter = wordsForParameter tree values parameter := by
  have shown : shownValue after value = shownValue tree value := by
    cases value with
    | text text => rw [shownValue, shownValue, same text rfl]
    | _ => rfl
  unfold wordsForParameter valueOf?
  rw [given]
  by_cases kept : value.isTrue = true
  · rw [Option.filter_some, if_pos kept]
    dsimp only
    rw [shown]
  · rw [Option.filter_some, if_neg kept]

/-- The words for a text are found if it can be looked up as a path. -/
theorem exists_wordsForParameter_text {parameter : Parameter}
    (isText : parameter.kind = .argument ∨ parameter.kind = .option) {text? : Option String}
    (given : Json.Value.entry? parameter.name values =
      some ((text?.map Json.Value.text).getD .null))
    (found : ∀ text, text? = some text → ∃ known, tree.pathExists (.ofString text) = .ok known) :
    ∃ words, wordsForParameter tree values parameter = .ok words := by
  unfold wordsForParameter valueOf?
  rw [given]
  cases text? with
  | none => exact ⟨Words.none, rfl⟩
  | some text =>
      obtain ⟨known, leads⟩ := found text rfl
      obtain ⟨shown, isShown⟩ : ∃ shown, shownValue tree (.text text) = .ok shown := by
        rw [shownValue, leads]
        cases known <;> exact ⟨_, rfl⟩
      by_cases kept : (Json.Value.text text).isTrue = true
      · rw [Option.map_some, Option.getD_some, Option.filter_some, if_pos kept]
        dsimp only
        rw [isShown]
        show ∃ words, wordsFor parameter (.text text) shown = .ok words
        unfold wordsFor
        rcases isText with isArgument | isOption
        · exact ⟨_, if_pos isArgument⟩
        · rw [isOption, if_neg (by decide)]
          split <;> exact ⟨_, rfl⟩
      · rw [Option.map_some, Option.getD_some, Option.filter_some, if_neg kept]
        exact ⟨Words.none, rfl⟩

/--
What an invocation looks up as paths, besides its output, can be looked up in a second
tree, and the schemas and the configuration are found there as before.
-/
structure Invocation.ShownAlike (tree after : FileTree) (invocation : Invocation) : Prop where
  targetNamespace : ∀ name, invocation.targetNamespace = some name →
    ∃ known, after.pathExists (.ofString name) = .ok known
  configuration : ∀ path, invocation.configuration = some path →
    after.pathExists (.ofString path.toString) = tree.pathExists (.ofString path.toString)
  path : after.pathExists (.ofString invocation.path.toString) =
    tree.pathExists (.ofString invocation.path.toString)

theorem eq_some_of_getD_text {text? : Option String} {text : String}
    (given : (text?.map Json.Value.text).getD .null = .text text) : text? = some text := by
  cases text? with
  | none => cases given
  | some other => exact congrArg some (Json.Value.text.inj given)

/-- The words for every parameter but two are the same in both trees. -/
theorem Invocation.ShownAlike.wordsForParameter_eq {invocation : Invocation}
    (alike : invocation.ShownAlike tree after) :
    ∀ parameter ∈ parameters, parameter.name ≠ "namespace" → parameter.name ≠ "output" →
      wordsForParameter after invocation.values parameter =
        wordsForParameter tree invocation.values parameter := by
  rw [parameters_eq]
  simp only [List.forall_mem_cons]
  refine ⟨fun different _ => absurd rfl different,
    fun _ _ => wordsForParameter_congr rfl (fun _ given => (nomatch given)),
    fun _ _ => wordsForParameter_congr rfl (fun _ given => (nomatch given)),
    fun _ _ => wordsForParameter_congr rfl (fun _ given => (nomatch given)),
    fun _ _ => wordsForParameter_congr rfl (fun _ given => (nomatch given)),
    fun _ _ => wordsForParameter_congr rfl fun text given => ?_,
    fun _ _ => wordsForParameter_congr rfl (fun _ given => (nomatch given)),
    fun _ _ => wordsForParameter_congr rfl fun text given => ?_,
    fun _ different => absurd rfl different,
    fun _ member => absurd member List.not_mem_nil⟩
  · obtain ⟨path, isGiven, rfl⟩ := Option.map_eq_some_iff.1 (eq_some_of_getD_text given)
    exact alike.configuration path isGiven
  · obtain rfl := Json.Value.text.inj given
    exact alike.path

theorem entry?_values_namespace (invocation : Invocation) {parameter : Parameter}
    (named : parameter.name = "namespace") :
    Json.Value.entry? parameter.name invocation.values =
      some ((invocation.targetNamespace.map Json.Value.text).getD .null) := by
  rw [named]
  rfl

theorem entry?_values_output (invocation : Invocation) {parameter : Parameter}
    (named : parameter.name = "output") :
    Json.Value.entry? parameter.name invocation.values =
      some (((some invocation.output.toString).map Json.Value.text).getD .null) := by
  rw [named]
  rfl

/-- The parameters whose values are texts take arguments or options. -/
theorem kind_of_named : ∀ parameter ∈ parameters,
    parameter.name = "namespace" ∨ parameter.name = "output" →
      parameter.kind = .argument ∨ parameter.kind = .option := by
  rw [parameters_eq]
  decide

theorem reconstruct_eq_ok {invocation : Invocation} {line : String} :
    reconstruct tree parameters invocation.values = .ok line ↔
      ∃ words, wordsOf tree invocation.values parameters = .ok words ∧
        line = String.intercalate " " (programName :: words.toList) := by
  have unfolded : reconstruct tree parameters invocation.values = (do
      let words ← wordsOf tree invocation.values parameters
      return String.intercalate " " (programName :: words.toList)) := rfl
  rw [unfolded, except_bind_eq_ok]
  refine exists_congr fun words => and_congr_right fun _ => ?_
  exact ⟨fun same => (Except.ok.inj same).symm, fun same => congrArg Except.ok same.symm⟩

/--
A command line is put together again once the output is there, and it is the same
one if the output was there before and the namespace is shown as before.
-/
theorem reconstruct_again {invocation : Invocation} (alike : invocation.ShownAlike tree after)
    (made : after.pathExists (.ofString invocation.output.toString) = .ok true) {line : String}
    (told : reconstruct tree parameters invocation.values = .ok line) :
    ∃ again, reconstruct after parameters invocation.values = .ok again ∧
      (tree.pathExists (.ofString invocation.output.toString) = .ok true →
        (∀ name, invocation.targetNamespace = some name →
          after.pathExists (.ofString name) = tree.pathExists (.ofString name)) →
        again = line) := by
  have same := alike.wordsForParameter_eq
  obtain ⟨words, found, rfl⟩ := reconstruct_eq_ok.1 told
  obtain ⟨others, again⟩ : ∃ others, wordsOf after invocation.values parameters = .ok others := by
    refine wordsOf_eq_ok.2 fun parameter member => ?_
    by_cases isNamespace : parameter.name = "namespace"
    · exact exists_wordsForParameter_text (kind_of_named parameter member (.inl isNamespace))
        (entry?_values_namespace invocation isNamespace) alike.targetNamespace
    · by_cases isOutput : parameter.name = "output"
      · refine exists_wordsForParameter_text (kind_of_named parameter member (.inr isOutput))
          (entry?_values_output invocation isOutput) ?_
        rintro _ ⟨⟩
        exact ⟨true, made⟩
      · rw [same parameter member isNamespace isOutput]
        exact wordsOf_eq_ok.1 ⟨words, found⟩ parameter member
  refine ⟨_, reconstruct_eq_ok.2 ⟨others, again, rfl⟩, fun known shown => ?_⟩
  have equal : wordsOf after invocation.values parameters =
      wordsOf tree invocation.values parameters := by
    refine wordsOf_congr fun parameter member => ?_
    by_cases isNamespace : parameter.name = "namespace"
    · refine wordsForParameter_congr (entry?_values_namespace invocation isNamespace) ?_
      exact fun text given => shown text (eq_some_of_getD_text given)
    · by_cases isOutput : parameter.name = "output"
      · refine wordsForParameter_congr (entry?_values_output invocation isOutput) ?_
        intro text isText
        obtain rfl := Json.Value.text.inj isText
        rw [made, known]
      · exact same parameter member isNamespace isOutput
  rw [again, found] at equal
  rw [Except.ok.inj equal]

end Trees

end SchemaBinding.CommandLine
