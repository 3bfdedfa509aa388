import Mathlib.Data.List.Induction

/-!
# Histories of calls

A history is a list of calls, the latest one at its end.  A call of it is one that
stands between earlier and later ones.
-/

namespace SchemaBinding

/-- A call of a longer history is the last one, or it is a call of the shorter history. -/
theorem concat_eq_append_cons_iff {κ : Type} {history earlier later : List κ} {last call : κ} :
    history ++ [last] = earlier ++ call :: later ↔
      (later = [] ∧ earlier = history ∧ call = last) ∨
        ∃ rest, later = rest ++ [last] ∧ history = earlier ++ call :: rest := by
  constructor
  · intro split
    rcases List.eq_nil_or_concat later with rfl | ⟨rest, final, rfl⟩
    · obtain ⟨rfl, equal⟩ := List.append_inj' split rfl
      exact .inl ⟨rfl, rfl, (List.singleton_inj.1 equal).symm⟩
    · rw [List.concat_eq_append, ← List.cons_append, ← List.append_assoc] at split
      obtain ⟨same, equal⟩ := List.append_inj' split rfl
      rw [List.concat_eq_append, List.singleton_inj.1 equal]
      exact .inr ⟨rest, rfl, same⟩
  · rintro (⟨rfl, rfl, rfl⟩ | ⟨rest, rfl, rfl⟩)
    · rfl
    · rw [List.append_assoc, List.cons_append]

section First

variable {κ α : Type} {computes : List κ → κ → Option α}

/-- A value is the first that a call computes, of what calls compute after earlier ones. -/
def IsFirst (computes : List κ → κ → Option α) (calls : List κ) (value : α) : Prop :=
  ∃ earlier call later, calls = earlier ++ call :: later ∧ computes earlier call = some value ∧
    ∀ before other rest, earlier = before ++ other :: rest → computes before other = none

variable (known : List κ → Option α)
  (step : ∀ calls call, known (calls ++ [call]) = (known calls).or (computes calls call))

include step

/-- A value that is known stays known. -/
theorem eq_some_append {calls : List κ} {value : α} (more : List κ)
    (given : known calls = some value) : known (calls ++ more) = some value := by
  induction more using List.reverseRecOn with
  | nil => rwa [List.append_nil]
  | append_singleton more call ih => rw [← List.append_assoc, step, ih, Option.some_or]

variable (start : known [] = none)

include start

theorem eq_none_iff_computes (calls : List κ) :
    known calls = none ↔
      ∀ before other rest, calls = before ++ other :: rest → computes before other = none := by
  induction calls using List.reverseRecOn with
  | nil =>
      refine iff_of_true start (fun before other rest split => ?_)
      simp at split
  | append_singleton calls call ih =>
      rw [step, Option.or_eq_none_iff, ih]
      constructor
      · rintro ⟨none, last⟩ before other rest split
        rcases concat_eq_append_cons_iff.1 split with ⟨-, rfl, rfl⟩ | ⟨others, -, inside⟩
        · exact last
        · exact none before other others inside
      · intro all
        refine ⟨fun before other rest split => ?_, all calls call [] rfl⟩
        exact all before other (rest ++ [call])
          (concat_eq_append_cons_iff.2 (.inr ⟨rest, rfl, split⟩))

/-- What is known is the first value that was computed, if each value is kept. -/
theorem eq_some_iff_isFirst (calls : List κ) (value : α) :
    known calls = some value ↔ IsFirst computes calls value := by
  constructor
  · intro given
    induction calls using List.reverseRecOn with
    | nil =>
        rw [start] at given
        cases given
    | append_singleton calls call ih =>
        rw [step] at given
        cases before : known calls with
        | some other =>
            rw [before, Option.some_or] at given
            obtain ⟨earlier, first, later, rfl, computed, none⟩ := ih (before.trans given)
            exact ⟨earlier, first, later ++ [call], by simp, computed, none⟩
        | none =>
            rw [before, Option.none_or] at given
            exact ⟨calls, call, [], rfl, given,
              (eq_none_iff_computes known step start calls).1 before⟩
  · rintro ⟨earlier, call, later, rfl, computed, none⟩
    have unknown := (eq_none_iff_computes known step start earlier).2 none
    have given : known (earlier ++ [call]) = some value := by
      rw [step, unknown, Option.none_or, computed]
    have kept := eq_some_append known step later given
    rwa [List.append_assoc, List.singleton_append] at kept

end First

end SchemaBinding
