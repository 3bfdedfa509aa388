/-!
# Division at a separator

A list divided at every occurrence of a separator has one more part than there
are separators, and joining the parts restores it.
-/

namespace SchemaBinding.Text

variable {α : Type} [DecidableEq α]

/-- The parts between the occurrences of a separator, empty ones included. -/
def splitAll (separator : α) : List α → List (List α)
  | [] => [[]]
  | c :: rest =>
      if c = separator then [] :: splitAll separator rest
      else
        match splitAll separator rest with
        | [] => [[c]]
        | part :: parts => (c :: part) :: parts

theorem splitAll_ne_nil (separator : α) (text : List α) : splitAll separator text ≠ [] := by
  cases text with
  | nil => simp [splitAll]
  | cons c rest =>
      unfold splitAll
      split
      · simp
      · split <;> simp

/-- Joining the parts restores the list. -/
theorem intercalate_splitAll (separator : α) (text : List α) :
    [separator].intercalate (splitAll separator text) = text := by
  induction text with
  | nil => rfl
  | cons c rest ih =>
      unfold splitAll
      split
      · next same =>
          subst same
          cases parts : splitAll c rest with
          | nil => exact absurd parts (splitAll_ne_nil c rest)
          | cons part others =>
              rw [parts] at ih
              simp [List.intercalate, List.intersperse] at ih ⊢
              exact ih
      · cases parts : splitAll separator rest with
        | nil => exact absurd parts (splitAll_ne_nil separator rest)
        | cons part others =>
            rw [parts] at ih
            cases others <;> simp_all [List.intercalate, List.intersperse]

/-- What stands before the first separator, and what stands after it if there is one. -/
def cutFirst (separator : α) (text : List α) : List α × Option (List α) :=
  let before := text.takeWhile (· ≠ separator)
  match text.drop before.length with
  | [] => (before, none)
  | _ :: after => (before, some after)

variable {separator : α} {text : List α}

theorem cutFirst_of_not_mem (absent : separator ∉ text) : cutFirst separator text = (text, none) := by
  have whole : text.takeWhile (· ≠ separator) = text := by
    induction text with
    | nil => rfl
    | cons c rest ih =>
        obtain ⟨different, later⟩ := not_or.1 (mt List.mem_cons.2 absent)
        rw [List.takeWhile_cons_of_pos (by simpa using Ne.symm different), ih later]
  unfold cutFirst
  dsimp only
  rw [whole, List.drop_length]

theorem cutFirst_append_cons (absent : separator ∉ text) (rest : List α) :
    cutFirst separator (text ++ separator :: rest) = (text, some rest) := by
  have before : (text ++ separator :: rest).takeWhile (· ≠ separator) = text := by
    induction text with
    | nil => simp
    | cons c others ih =>
        obtain ⟨different, later⟩ := not_or.1 (mt List.mem_cons.2 absent)
        rw [List.cons_append, List.takeWhile_cons_of_pos (by simpa using Ne.symm different),
          ih later]
  unfold cutFirst
  dsimp only
  rw [before, List.drop_left]

end SchemaBinding.Text
