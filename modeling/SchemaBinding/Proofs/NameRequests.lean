import SchemaBinding.Proofs.FreshNames

/-!
# Names requested one after the other

Each request tries candidate after candidate, and the first one that is free is in
use from then on.  No search goes on for ever, whatever names are in use, and an
answer may well be what a later request asks for.
-/

namespace SchemaBinding

namespace Text.Identifier

section FirstFree

variable {name chosen : String} {used others : List String}

/-- Which names are in use matters, and not in which order. -/
theorem IsFirstFree.congr (first : IsFirstFree name used chosen)
    (same : ∀ other, other ∈ used ↔ other ∈ others) : IsFirstFree name others chosen := by
  obtain ⟨index, equal, free, taken⟩ := first
  refine ⟨index, equal, fun member => free ((same chosen).2 member), fun earlier below => ?_⟩
  exact (same _).1 (taken earlier below)

/-- A name gets no number exactly if it is not in use. -/
theorem IsFirstFree.eq_iff (first : IsFirstFree name used chosen) :
    chosen = name ↔ name ∉ used := by
  obtain ⟨index, rfl, free, taken⟩ := first
  constructor
  · intro plain
    rw [plain] at free
    exact free
  · intro unused
    cases index with
    | zero => rfl
    | succ index => exact absurd (taken 0 (Nat.succ_pos index)) unused

/-- A name in use gets the smallest number with which it is not in use. -/
theorem IsFirstFree.exists_number (first : IsFirstFree name used chosen) (known : name ∈ used) :
    ∃ number, 0 < number ∧ chosen = name ++ toString number ∧
      ∀ smaller, 0 < smaller → smaller < number → name ++ toString smaller ∈ used := by
  obtain ⟨index, rfl, free, taken⟩ := first
  cases index with
  | zero => exact absurd known free
  | succ index =>
      refine ⟨index + 1, Nat.succ_pos index, rfl, fun smaller positive below => ?_⟩
      obtain ⟨before, rfl⟩ := Nat.exists_eq_succ_of_ne_zero (Nat.ne_of_gt positive)
      exact taken (before + 1) below

end FirstFree

end Text.Identifier

/-- A plain name, or with the smallest number that makes it differ from the earlier names. -/
structure Naming.IsNumbered (plain : String) (earlier : List String) (name : String) : Prop where
  free : name ∉ earlier
  plain_iff : name = plain ↔ plain ∉ earlier
  numbered : plain ∈ earlier → ∃ number, 0 < number ∧ name = plain ++ toString number ∧
    ∀ smaller, 0 < smaller → smaller < number → plain ++ toString smaller ∈ earlier

namespace Text.Identifier

theorem IsFirstFree.isNumbered {name chosen : String} {used : List String}
    (first : IsFirstFree name used chosen) : Naming.IsNumbered name used chosen :=
  ⟨first.not_mem, first.eq_iff, first.exists_number⟩

section Search

variable (name : String) (used : List String)

/-- A search tries a candidate; a free one ends it, and after one in use it tries the next. -/
inductive Search : Nat → String → Prop where
  | free {index : Nat} (free : candidate name index ∉ used) : Search index (candidate name index)
  | taken {index : Nat} {chosen : String} (taken : candidate name index ∈ used)
      (next : Search (index + 1) chosen) : Search index chosen

variable {name used}

/-- A search ends in one way only. -/
theorem Search.functional {index : Nat} {chosen other : String}
    (search : Search name used index chosen) (again : Search name used index other) :
    chosen = other := by
  induction search with
  | free free =>
      cases again with
      | free _ => rfl
      | taken taken _ => exact absurd taken free
  | taken taken _ ih =>
      cases again with
      | free free => exact absurd taken free
      | taken _ next => exact ih next

/-- A search passes the candidates in use and ends at the free one behind them. -/
theorem Search.of_taken {index count : Nat} (free : candidate name (index + count) ∉ used)
    (taken : ∀ step < count, candidate name (index + step) ∈ used) :
    Search name used index (candidate name (index + count)) := by
  induction count generalizing index with
  | zero => exact .free free
  | succ count ih =>
      rw [← Nat.add_assoc, Nat.add_right_comm] at free ⊢
      refine .taken (taken 0 (Nat.succ_pos count)) (ih free fun step below => ?_)
      rw [Nat.add_right_comm, Nat.add_assoc]
      exact taken (step + 1) (Nat.succ_lt_succ below)

variable (name used) in
/-- Whatever finitely many names are in use, the search ends. -/
theorem search_unique : Search name used 0 (unique name used) := by
  obtain ⟨last, equal, free, taken⟩ := isFirstFree_unique name used
  rw [equal, ← Nat.zero_add last] at free ⊢
  refine .of_taken free fun step below => ?_
  rw [Nat.zero_add]
  exact taken step below

end Search

/-- Searches for names, one after the other: what each one finds is in use from then on. -/
inductive Requests : List String → List String → List String → List String → Prop where
  | done (used : List String) : Requests used [] [] used
  | next {used names answers last : List String} {name chosen : String}
      (search : Search name used 0 chosen)
      (rest : Requests (chosen :: used) names answers last) :
      Requests used (name :: names) (chosen :: answers) last

/-- The answers to requests made one after the other, and the names in use in the end. -/
def uniqueEach (used : List String) : List String → List String × List String
  | [] => ([], used)
  | name :: rest =>
      let chosen := unique name used
      let (answers, last) := uniqueEach (chosen :: used) rest
      (chosen :: answers, last)

theorem requests_uniqueEach (used names : List String) :
    Requests used names (uniqueEach used names).1 (uniqueEach used names).2 := by
  induction names generalizing used with
  | nil => exact .done used
  | cons name rest ih => exact .next (search_unique name used) (ih _)

theorem Requests.functional {used names answers last others final : List String}
    (requests : Requests used names answers last) (again : Requests used names others final) :
    answers = others ∧ last = final := by
  induction requests generalizing others with
  | done used =>
      cases again
      exact ⟨rfl, rfl⟩
  | next search _ ih =>
      cases again with
      | next searchAgain rest =>
          obtain rfl := search.functional searchAgain
          obtain ⟨rfl, rfl⟩ := ih rest
          exact ⟨rfl, rfl⟩

/-- The names in use grow by the answers. -/
theorem last_uniqueEach (used names : List String) :
    (uniqueEach used names).2 = (uniqueEach used names).1.reverse ++ used := by
  induction names generalizing used with
  | nil => rfl
  | cons name rest ih =>
      rw [uniqueEach]
      dsimp only
      rw [ih, List.reverse_cons, List.append_assoc, List.singleton_append]

theorem length_uniqueEach (used names : List String) :
    (uniqueEach used names).1.length = names.length := by
  induction names generalizing used with
  | nil => rfl
  | cons name rest ih => exact congrArg (· + 1) (ih _)

/-- The answers are in use neither before nor by one another. -/
theorem uniqueEach_apart (used names : List String) :
    (uniqueEach used names).1.Nodup ∧
      ∀ answer ∈ (uniqueEach used names).1, answer ∉ used := by
  induction names generalizing used with
  | nil => exact ⟨.nil, fun _ member => absurd member List.not_mem_nil⟩
  | cons name rest ih =>
      obtain ⟨distinct, unused⟩ := ih (unique name used :: used)
      constructor
      · exact List.nodup_cons.2 ⟨fun member => unused _ member List.mem_cons_self, distinct⟩
      · intro answer among
        rcases List.mem_cons.1 among with rfl | later
        · exact unique_not_mem name used
        · exact fun known => unused answer later (List.mem_cons_of_mem _ known)

/-- Each answer is the first candidate that the answers before it have left free. -/
theorem isFirstFree_of_uniqueEach {used names before after : List String} {answer : String}
    (split : (uniqueEach used names).1 = before ++ answer :: after) :
    ∃ name, names[before.length]? = some name ∧ IsFirstFree name (before ++ used) answer := by
  induction before generalizing used names with
  | nil =>
      cases names with
      | nil => cases split
      | cons name rest =>
          obtain ⟨rfl, -⟩ := List.cons.inj split
          exact ⟨name, rfl, isFirstFree_unique name used⟩
  | cons first others ih =>
      cases names with
      | nil => cases split
      | cons name rest =>
          obtain ⟨rfl, later⟩ := List.cons.inj split
          obtain ⟨other, asked, free⟩ := ih later
          refine ⟨other, asked, free.congr fun known => ?_⟩
          simp [or_left_comm]

/-- An answer may be what the next request asks for. -/
example : (uniqueEach ["a"] ["a", "a1", "a"]).1 = ["a1", "a11", "a2"] := by decide

/-- Requests for names are answered, each with a name that is new. -/
structure IsAnswered (used names answers last : List String) : Prop where
  /-- All searches end, with these answers and no others. -/
  requests_iff : ∀ others final,
    Requests used names others final ↔ others = answers ∧ final = last
  length_eq : answers.length = names.length
  /-- Each answer is the name asked for, with the smallest number that makes it new. -/
  numbered : ∀ before answer after, answers = before ++ answer :: after →
    ∃ name, names[before.length]? = some name ∧ Naming.IsNumbered name (before ++ used) answer
  grown : last = answers.reverse ++ used
  distinct : answers.Nodup
  apart : ∀ answer ∈ answers, answer ∉ used

/-- Whatever names are in use and whichever are asked for, each request has its answer. -/
theorem uniqueEach_isAnswered (used names : List String) :
    IsAnswered used names (uniqueEach used names).1 (uniqueEach used names).2 where
  requests_iff others final := by
    constructor
    · exact fun requests => requests.functional (requests_uniqueEach used names)
    · rintro ⟨rfl, rfl⟩
      exact requests_uniqueEach used names
  length_eq := length_uniqueEach used names
  numbered before answer after split := by
    obtain ⟨name, asked, first⟩ := isFirstFree_of_uniqueEach split
    exact ⟨name, asked, first.isNumbered⟩
  grown := last_uniqueEach used names
  distinct := (uniqueEach_apart used names).1
  apart := (uniqueEach_apart used names).2

end Text.Identifier

end SchemaBinding
