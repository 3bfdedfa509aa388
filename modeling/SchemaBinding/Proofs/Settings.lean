import SchemaBinding.Configuration

/-!
# Settings that are read from a record

Keys that are no options are passed over, whatever their values are, so that what a record
is read as and the record that describes it do not depend on them.  That holds for all keys
but the four that a configuration reserves for itself.
-/

namespace SchemaBinding.Configuration

open Json

def options : List String :=
  ["target_namespace", "recurse", "clean_output", "pascal_case", "nullable",
    "add_generation_comment", "csharp_additional_usings", "output"]

/-- The keys that a configuration keeps for itself. -/
def reserved : List String :=
  ["to_dict", "__dict__", "__class__", "__weakref__"]

/-- A key that is neither that of a setting nor reserved. -/
structure IsIdle (key : Key) : Prop where
  not_option : ∀ name ∈ options, key ≠ .plain name
  not_reserved : ∀ name ∈ reserved, key ≠ .plain name

/-- The key of an entry is not reserved, and output settings are a record. -/
structure IsReadable (entry : Key × Value) : Prop where
  not_reserved : ∀ name ∈ reserved, entry.1 ≠ .plain name
  output : entry.1 = .plain "output" → ∃ settings, entry.2 = .record settings

structure IsComplete (configuration : Configuration) : Prop where
  isListable : configuration.isListable = true
  usings : ∃ usings, configuration.additionalUsings = some usings
  output : ∃ settings, configuration.output = some settings

variable {configuration after : Configuration} {entries : List (Key × Value)} {key : Key}

theorem assign_of_isIdle {name : String} (idle : IsIdle (.plain name)) (value : Value) :
    configuration.assign name value = .ok configuration := by
  have apart : ∀ other ∈ options ++ reserved, name ≠ other := by
    intro other member same
    rcases List.mem_append.1 member with isOption | isReserved
    · exact idle.not_option other isOption (congrArg Key.plain same)
    · exact idle.not_reserved other isReserved (congrArg Key.plain same)
  unfold assign
  split
  case h_13 => rfl
  all_goals exact absurd rfl (apart _ (by decide))

/-- An idle key is passed over, whatever its value is. -/
theorem readEntry_of_isIdle (idle : IsIdle key) (value : Value) :
    configuration.readEntry (key, value) = .ok configuration := by
  cases key with
  | broken codes => rfl
  | plain name =>
      have noOutput : name ≠ "output" := fun same =>
        idle.not_option "output" (by decide) (congrArg Key.plain same)
      have noUsings : name ≠ "csharp_additional_usings" := fun same =>
        idle.not_option "csharp_additional_usings" (by decide) (congrArg Key.plain same)
      unfold readEntry
      split
      · next same =>
          cases same
          exact absurd rfl noOutput
      · next same =>
          cases same
          exact absurd rfl noUsings
      · next same =>
          cases same
          exact assign_of_isIdle idle value
      · next same => cases same

/-- What is read does not depend on idle keys. -/
theorem ofValue_insert (idle : IsIdle key) (before later : List (Key × Value)) (value : Value) :
    ofValue (.record (before ++ (key, value) :: later)) = ofValue (.record (before ++ later)) := by
  have passed : ∀ configuration : Configuration,
      List.foldlM readEntry configuration ((key, value) :: later) =
        List.foldlM readEntry configuration later := by
    intro configuration
    rw [List.foldlM_cons, readEntry_of_isIdle idle]
    rfl
  show List.foldlM readEntry {} (before ++ (key, value) :: later) =
    List.foldlM readEntry {} (before ++ later)
  rw [List.foldlM_append, List.foldlM_append]
  exact congrArg _ (funext passed)

/-- A value that is assigned to a key that is not reserved keeps a configuration complete. -/
theorem exists_assign (complete : configuration.IsComplete) {name : String}
    (free : name ∉ reserved) (noOutput : name ≠ "output") (value : Value) :
    ∃ after, configuration.assign name value = .ok after ∧ after.IsComplete := by
  obtain ⟨isListable, ⟨usings, given⟩, settings, put⟩ := complete
  have apart : ∀ other ∈ reserved, name ≠ other := fun other member same => free (same ▸ member)
  unfold assign
  split
  case h_7 => exact ⟨_, rfl, isListable, ⟨value, rfl⟩, settings, put⟩
  case h_8 => exact absurd rfl noOutput
  case h_9 | h_10 | h_11 | h_12 => exact absurd rfl (apart _ (by decide))
  all_goals exact ⟨_, rfl, isListable, ⟨usings, given⟩, settings, put⟩

/-- An entry that can be read keeps a configuration complete. -/
theorem exists_readEntry (complete : configuration.IsComplete) {entry : Key × Value}
    (readable : IsReadable entry) :
    ∃ after, configuration.readEntry entry = .ok after ∧ after.IsComplete := by
  obtain ⟨key, value⟩ := entry
  cases key with
  | broken codes => exact ⟨configuration, rfl, complete⟩
  | plain name =>
      have free : name ∉ reserved := fun member => readable.not_reserved name member rfl
      by_cases isOutput : name = "output"
      · subst isOutput
        obtain ⟨settings, rfl⟩ := readable.output rfl
        exact ⟨_, rfl, complete.isListable, complete.usings, .ofRecord settings, rfl⟩
      · have assigns := exists_assign complete free isOutput value
        obtain ⟨usings, given⟩ := complete.usings
        unfold readEntry
        split
        · next same =>
            cases same
            exact absurd rfl isOutput
        · next same =>
            cases same
            rw [if_pos (by rw [given]; rfl)]
            exact assigns
        · next same =>
            cases same
            exact assigns
        · next same => cases same

/-- Entries that can be read are read, one after the other. -/
theorem exists_foldlM_readEntry (complete : configuration.IsComplete)
    (readable : ∀ entry ∈ entries, IsReadable entry) :
    ∃ after, entries.foldlM readEntry configuration = .ok after ∧ after.IsComplete := by
  induction entries generalizing configuration with
  | nil => exact ⟨configuration, rfl, complete⟩
  | cons entry rest ih =>
      obtain ⟨readableFirst, readableRest⟩ := List.forall_mem_cons.1 readable
      obtain ⟨next, read, completeNext⟩ := exists_readEntry complete readableFirst
      obtain ⟨after, readRest, completeAfter⟩ := ih completeNext readableRest
      refine ⟨after, ?_, completeAfter⟩
      rw [List.foldlM_cons, read]
      exact readRest

/-- A complete configuration is read back from the record that describes it. -/
theorem IsComplete.exists_toRecord (complete : configuration.IsComplete) :
    ∃ record, configuration.toRecord = .ok record ∧ ofValue record = .ok configuration := by
  obtain ⟨targetNamespace, recurse, cleanOutput, pascalCase, nullable, addGenerationComment,
    additionalUsings, output, isListable⟩ := configuration
  obtain ⟨listable, ⟨usings, given⟩, settings, put⟩ := complete
  dsimp only at listable given put
  subst listable given put
  exact ⟨_, rfl, rfl⟩

/-- A key can be left out of every record in which it stands. -/
def IsInert (key : Key) : Prop :=
  ∀ before value later,
    (ofValue (.record (before ++ (key, value) :: later)) >>= toRecord) =
      (ofValue (.record (before ++ later)) >>= toRecord)

theorem isInert_of_isIdle (idle : IsIdle key) : IsInert key := by
  intro before value later
  rw [ofValue_insert idle]

/-- There is a value with which a reserved key makes a record unreadable. -/
theorem not_isInert {name : String} (isReserved : name ∈ reserved) : ¬ IsInert (.plain name) := by
  intro inert
  have alone := inert [] .null []
  obtain ⟨record, described⟩ : ∃ record, (ofValue (.record []) >>= toRecord) = .ok record :=
    ⟨_, rfl⟩
  rw [List.nil_append, List.nil_append, described] at alone
  simp only [reserved, List.mem_cons, List.not_mem_nil, or_false] at isReserved
  rcases isReserved with rfl | rfl | rfl | rfl <;> cases alone

/-- What is read from a record, whatever else stands in it. -/
structure ReadsSettings (entries : List (Key × Value)) : Prop where
  /-- The configuration is read back from the record that describes it. -/
  readsBack : (∀ entry ∈ entries, IsReadable entry) → ∃ configuration record,
    ofValue (.record entries) = .ok configuration ∧ configuration.toRecord = .ok record ∧
      ofValue record = .ok configuration
  /-- An idle key can be left out, wherever it stands and whatever its value is. -/
  passesOver : ∀ before key value later, entries = before ++ (key, value) :: later → IsIdle key →
    ofValue (.record entries) = ofValue (.record (before ++ later))
  /-- Besides the options only the reserved keys cannot be left out. -/
  isInert_iff : ∀ key, (∀ name ∈ options, key ≠ .plain name) →
    (IsInert key ↔ ∀ name ∈ reserved, key ≠ .plain name)

/--
Every record without reserved keys in which the output settings are a record is read, and
what is read depends on the options and the reserved keys only.
-/
theorem readsSettings (entries : List (Key × Value)) : ReadsSettings entries where
  readsBack readable := by
    have start : IsComplete {} := ⟨rfl, ⟨_, rfl⟩, _, rfl⟩
    obtain ⟨configuration, read, complete⟩ := exists_foldlM_readEntry start readable
    obtain ⟨record, described, readAgain⟩ := complete.exists_toRecord
    exact ⟨configuration, record, read, described, readAgain⟩
  passesOver := by
    rintro before key value later rfl idle
    exact ofValue_insert idle before later value
  isInert_iff key noOption := by
    constructor
    · rintro inert name isReserved rfl
      exact not_isInert isReserved inert
    · exact fun unreserved => isInert_of_isIdle ⟨noOption, unreserved⟩

/-- A reserved key is no option, but with it a configuration cannot be described any more. -/
theorem toRecord_of_reserved :
    "to_dict" ∉ options ∧
      (∃ configuration, ofValue (.record [(.plain "to_dict", .integer 1)]) = .ok configuration ∧
        configuration.toRecord = .error .wrongKind) ∧
      ∃ configuration record, ofValue (.record []) = .ok configuration ∧
        configuration.toRecord = .ok record :=
  ⟨by decide, ⟨_, rfl, rfl⟩, _, _, rfl, rfl⟩

end SchemaBinding.Configuration
