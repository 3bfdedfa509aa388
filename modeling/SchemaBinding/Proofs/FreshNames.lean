import Mathlib.Data.List.Perm.Subperm
import SchemaBinding.Proofs.FieldTypes

/-!
# Fresh names

A name that is in use is followed by a number.  Different numbers give different
names, so among more candidates than there are names in use one is free, and the
first free one is chosen.
-/

namespace SchemaBinding

namespace Text.Identifier

theorem candidate_injective (name : String) : Function.Injective (candidate name) := by
  have numbered : ∀ index, (candidate name (index + 1)).toList =
      name.toList ++ Nat.toDigits 10 (index + 1) := by
    intro index
    rw [candidate, String.toList_append, Nat.toString_eq_repr, Nat.toList_repr]
  have bare : ∀ index, candidate name 0 ≠ candidate name (index + 1) := by
    intro index same
    have lists := congrArg String.toList same
    rw [numbered, candidate] at lists
    exact Nat.toDigits_ne_nil (List.self_eq_append_right.1 lists)
  intro first second same
  cases first with
  | zero =>
      cases second with
      | zero => rfl
      | succ second => exact absurd same (bare second)
  | succ first =>
      cases second with
      | zero => exact absurd same.symm (bare first)
      | succ second =>
          have lists := congrArg String.toList same
          rw [numbered, numbered] at lists
          have numbers := congrArg (Nat.ofDigitChars 10 · 0) (List.append_cancel_left lists)
          simpa only [Nat.ofDigitChars_toDigits (by decide : 1 < 10) (by decide)] using numbers

def IsFirstFree (name : String) (used : List String) (chosen : String) : Prop :=
  ∃ index, chosen = candidate name index ∧ chosen ∉ used ∧
    ∀ earlier < index, candidate name earlier ∈ used

/-- The search ends at a free candidate, or at the last one that it may come to. -/
theorem exists_firstFree (name : String) (used : List String) (fuel index : Nat)
    (before : ∀ earlier < index, candidate name earlier ∈ used) :
    ∃ last, firstFree name used fuel index = candidate name last ∧
      (∀ earlier < last, candidate name earlier ∈ used) ∧
      (candidate name last ∉ used ∨ last = index + fuel) := by
  induction fuel generalizing index with
  | zero => exact ⟨index, rfl, before, .inr rfl⟩
  | succ fuel ih =>
      rw [firstFree]
      split
      · next taken =>
          have through : ∀ earlier < index + 1, candidate name earlier ∈ used := by
            intro earlier below
            rcases Nat.lt_succ_iff_lt_or_eq.1 below with less | rfl
            · exact before earlier less
            · simpa using taken
          rw [← Nat.add_assoc, Nat.add_right_comm]
          exact ih (index + 1) through
      · next free => exact ⟨index, rfl, before, .inl (by simpa using free)⟩

/-- Not all of the candidates are in use that are one more than the names in use. -/
theorem exists_free_candidate (name : String) (used : List String) :
    ∃ index ≤ used.length, candidate name index ∉ used := by
  by_contra none
  have all : (List.range (used.length + 1)).map (candidate name) ⊆ used := by
    intro other member
    obtain ⟨index, below, rfl⟩ := List.mem_map.1 member
    by_contra free
    exact none ⟨index, Nat.lt_succ_iff.1 (List.mem_range.1 below), free⟩
  have different : ((List.range (used.length + 1)).map (candidate name)).Nodup :=
    List.nodup_range.map (candidate_injective name)
  have many := (List.subperm_of_subset different all).length_le
  rw [List.length_map, List.length_range] at many
  exact Nat.not_succ_le_self _ many

/-- The name that is made unique is the first free candidate. -/
theorem isFirstFree_unique (name : String) (used : List String) :
    IsFirstFree name used (unique name used) := by
  obtain ⟨last, equal, taken, stopped⟩ :=
    exists_firstFree name used used.length 0 (fun earlier below => absurd below (by omega))
  refine ⟨last, equal, ?_, taken⟩
  rw [unique, equal]
  rcases stopped with free | atEnd
  · exact free
  · obtain ⟨index, bound, free⟩ := exists_free_candidate name used
    obtain rfl : index = last := by
      by_contra different
      exact free (taken index (by omega))
    exact free

theorem IsFirstFree.not_mem {name chosen : String} {used : List String}
    (first : IsFirstFree name used chosen) : chosen ∉ used := by
  obtain ⟨_, _, free, _⟩ := first
  exact free

theorem unique_not_mem (name : String) (used : List String) : unique name used ∉ used :=
  (isFirstFree_unique name used).not_mem

end Text.Identifier

open Text

/-- A name goes on with further parts of identifiers. -/
theorem IsName.append {name suffix : String} (isName : IsName name)
    (parts : suffix.toList.all Identifier.isPart = true) : IsName (name ++ suffix) := by
  unfold IsName at isName ⊢
  rw [String.toList_append]
  cases chars : name.toList with
  | nil =>
      rw [chars] at isName
      cases isName
  | cons first rest =>
      rw [chars, Identifier.isIdentifier, Bool.and_eq_true] at isName
      rw [List.cons_append, Identifier.isIdentifier, List.all_append, isName.1, isName.2, parts]
      rfl

theorem isName_candidate {name : String} (isName : IsName name) (index : Nat) :
    IsName (Identifier.candidate name index) := by
  cases index with
  | zero => exact isName
  | succ index =>
      refine isName.append ?_
      rw [Nat.toString_eq_repr, Nat.toList_repr, List.all_eq_true]
      intro c member
      have digit : c.isDigit = true := Nat.isDigit_of_mem_toDigits (by decide) (by decide) member
      rw [Identifier.isPart, Char.isAlphanum, digit, Bool.or_true, Bool.true_or]

/-- A name stays one when it is made unique. -/
theorem isName_unique {name : String} (isName : IsName name) (used : List String) :
    IsName (Identifier.unique name used) := by
  obtain ⟨index, equal, _⟩ := Identifier.isFirstFree_unique name used
  rw [equal]
  exact isName_candidate isName index

namespace Naming

theorem isName_fieldName (particle : String) (used : List String) :
    IsName (fieldName particle used) :=
  isName_unique (isName_sanitize particle) used

theorem fieldName_not_mem (particle : String) (used : List String) :
    fieldName particle used ∉ used :=
  Identifier.unique_not_mem _ used

theorem isName_flagName {field : String} (isName : IsName field) (used : List String) :
    IsName (flagName field used) :=
  isName_unique (isName.append (by decide)) used

theorem flagName_not_mem (field : String) (used : List String) : flagName field used ∉ used :=
  Identifier.unique_not_mem _ used

end Naming

end SchemaBinding
