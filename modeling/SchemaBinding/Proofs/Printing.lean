import SchemaBinding.CSharp.Source

/-!
# Reading printed text back

A printed form can be read back if no other value of its kind is printed the
same way, whatever text follows.  Literals end with the first quotation mark
that no backslash precedes, words end where a character is foreign to them, and
a list of blocks ends where neither a block nor an empty line begins.
-/

namespace SchemaBinding.CSharp

/--
What is shown of a value, and where its printed form ends, follows from any text
that begins with that form.
-/
def ReadsBack {α β : Type} (valid : α → Prop) (print : α → List Char) (shown : α → β) : Prop :=
  ∀ ⦃value other : α⦄, valid value → valid other → ∀ ⦃rest more : List Char⦄,
    print value ++ rest = print other ++ more → shown value = shown other ∧ rest = more

/-- Texts differ if they begin with texts neither of which begins with the other. -/
theorem append_ne_append {opening other : List Char}
    (apart : (opening.isPrefixOf other || other.isPrefixOf opening) = false)
    (rest more : List Char) : opening ++ rest ≠ other ++ more := by
  intro same
  have first : opening <+: other ++ more := ⟨rest, same⟩
  have second : other <+: other ++ more := ⟨more, rfl⟩
  rw [Bool.or_eq_false_iff] at apart
  rcases List.prefix_or_prefix_of_prefix first second with inside | inside
  · rw [List.isPrefixOf_iff_prefix.2 inside] at apart
    cases apart.1
  · rw [List.isPrefixOf_iff_prefix.2 inside] at apart
    cases apart.2

/-- The characters between quotation marks end with the first mark that is not escaped. -/
theorem escape_append_inj {text other rest more : List Char}
    (same : escape text ++ '"' :: rest = escape other ++ '"' :: more) :
    text = other ∧ rest = more := by
  induction text generalizing other with
  | nil =>
      cases other with
      | nil => exact ⟨rfl, (List.cons.inj same).2⟩
      | cons c tail =>
          rw [escape, escape] at same
          split at same
          · cases same
          · next plain =>
              obtain ⟨first, _⟩ := List.cons.inj same
              exact absurd (.inl first.symm) plain
  | cons c tail ih =>
      cases other with
      | nil =>
          rw [escape, escape] at same
          split at same
          · cases same
          · next plain =>
              obtain ⟨first, _⟩ := List.cons.inj same
              exact absurd (.inl first) plain
      | cons d otherTail =>
          rw [escape, escape] at same
          split at same
          · split at same
            · obtain ⟨rfl, tails⟩ := List.cons.inj (List.cons.inj same).2
              obtain ⟨rfl, ends⟩ := ih tails
              exact ⟨rfl, ends⟩
            · next plain =>
                obtain ⟨first, _⟩ := List.cons.inj same
                exact absurd (.inr first.symm) plain
          · next plain =>
              split at same
              · obtain ⟨first, _⟩ := List.cons.inj same
                exact absurd (.inr first) plain
              · obtain ⟨rfl, tails⟩ := List.cons.inj same
                obtain ⟨rfl, ends⟩ := ih tails
                exact ⟨rfl, ends⟩

theorem literal_append_inj {text other : String} {rest more : List Char}
    (same : (literal text).toList ++ rest = (literal other).toList ++ more) :
    text = other ∧ rest = more := by
  simp only [literal, String.toList_append, String.toList_ofList, List.append_assoc,
    List.append_cancel_left_eq] at same
  obtain ⟨equal, ends⟩ := escape_append_inj same
  exact ⟨String.toList_inj.1 equal, ends⟩

/-- Words end where a character is foreign to both of them. -/
theorem word_append_inj {isPart : Char → Bool} {word other : List Char}
    (inside : word.all isPart = true) (otherInside : other.all isPart = true)
    {c d : Char} (foreign : isPart c = false) (otherForeign : isPart d = false)
    {rest more : List Char} (same : word ++ c :: rest = other ++ d :: more) :
    word = other ∧ c :: rest = d :: more := by
  induction word generalizing other with
  | nil =>
      cases other with
      | nil => exact ⟨rfl, same⟩
      | cons first tail =>
          obtain ⟨rfl, _⟩ := List.cons.inj same
          rw [List.all_cons, foreign] at otherInside
          cases otherInside
  | cons first tail ih =>
      cases other with
      | nil =>
          obtain ⟨rfl, _⟩ := List.cons.inj same
          rw [List.all_cons, otherForeign] at inside
          cases inside
      | cons otherFirst otherTail =>
          obtain ⟨rfl, tails⟩ := List.cons.inj same
          rw [List.all_cons, Bool.and_eq_true] at inside otherInside
          obtain ⟨rfl, ends⟩ := ih inside.2 otherInside.2 tails
          exact ⟨rfl, ends⟩

/-- The characters of lines, each of them ended by a line break. -/
def charsOf (lines : List String) : List Char :=
  lines.flatMap (fun line => line.toList ++ ['\n'])

theorem toList_textOf (lines : List String) : (textOf lines).toList = charsOf lines := by
  rw [textOf, String.toList_join, List.flatMap_map]
  simp only [String.toList_append]
  rfl

theorem charsOf_nil : charsOf [] = [] := rfl

theorem charsOf_cons (line : String) (lines : List String) :
    charsOf (line :: lines) = line.toList ++ '\n' :: charsOf lines := by
  simp [charsOf]

theorem charsOf_append (lines others : List String) :
    charsOf (lines ++ others) = charsOf lines ++ charsOf others :=
  List.flatMap_append

def IsUnbroken (line : String) : Prop :=
  line.toList.all (· != '\n') = true

theorem line_append_inj {line other : String} (unbroken : IsUnbroken line)
    (otherUnbroken : IsUnbroken other) {rest more : List Char}
    (same : line.toList ++ '\n' :: rest = other.toList ++ '\n' :: more) :
    line = other ∧ rest = more := by
  obtain ⟨equal, ends⟩ := word_append_inj unbroken otherUnbroken rfl rfl same
  exact ⟨String.toList_inj.1 equal, (List.cons.inj ends).2⟩

/-- Lines that are not empty end before the first empty line. -/
theorem lines_append_inj {lines others : List String}
    (solid : ∀ line ∈ lines, IsUnbroken line ∧ line ≠ "")
    (otherSolid : ∀ line ∈ others, IsUnbroken line ∧ line ≠ "") {rest more : List Char}
    (same : charsOf lines ++ '\n' :: rest = charsOf others ++ '\n' :: more) :
    lines = others ∧ rest = more := by
  have empty : IsUnbroken "" := rfl
  induction lines generalizing others with
  | nil =>
      cases others with
      | nil => exact ⟨rfl, (List.cons.inj same).2⟩
      | cons other tail =>
          obtain ⟨unbroken, filled⟩ := otherSolid other List.mem_cons_self
          rw [charsOf_cons, List.append_assoc] at same
          exact absurd (line_append_inj empty unbroken same).1.symm filled
  | cons line tail ih =>
      obtain ⟨unbroken, filled⟩ := solid line List.mem_cons_self
      cases others with
      | nil =>
          rw [charsOf_cons, List.append_assoc] at same
          exact absurd (line_append_inj unbroken empty same).1 filled
      | cons other otherTail =>
          rw [charsOf_cons, charsOf_cons, List.append_assoc, List.append_assoc] at same
          obtain ⟨rfl, tails⟩ :=
            line_append_inj unbroken (otherSolid other List.mem_cons_self).1 same
          obtain ⟨rfl, ends⟩ := ih (fun line member => solid line (List.mem_cons_of_mem _ member))
            (fun line member => otherSolid line (List.mem_cons_of_mem _ member)) tails
          exact ⟨rfl, ends⟩

section Blocks

variable {α β : Type} {valid : α → Prop} {block : α → List String} {shown : α → β}

def followers (block : α → List String) (items : List α) : List String :=
  items.flatMap (fun item => "" :: block item)

theorem charsOf_followers_cons (item : α) (items : List α) :
    charsOf (followers block (item :: items)) =
      '\n' :: (charsOf (block item) ++ charsOf (followers block items)) := by
  rw [followers, List.flatMap_cons, List.cons_append, charsOf_cons, charsOf_append]
  rfl

theorem separated_cons (item : α) (items : List α) :
    separated ((item :: items).map block) = block item ++ followers block items := by
  induction items generalizing item with
  | nil => simp [separated, followers]
  | cons next rest ih =>
      have step := ih next
      simp only [separated, List.map_cons, List.intersperse_cons_cons, List.flatten_cons] at step ⊢
      rw [step]
      simp [followers]

def closing : List Char := charsOf ["    \x7d"]

/-- The blocks after a first one end before the closing line. -/
theorem followers_append_inj (reads : ReadsBack valid (fun item => charsOf (block item)) shown)
    {items others : List α} (each : ∀ item ∈ items, valid item)
    (otherEach : ∀ item ∈ others, valid item) {rest more : List Char}
    (same : charsOf (followers block items) ++ (closing ++ rest) =
      charsOf (followers block others) ++ (closing ++ more)) :
    items.map shown = others.map shown ∧ rest = more := by
  induction items generalizing others with
  | nil =>
      cases others with
      | nil => exact ⟨rfl, List.append_cancel_left same⟩
      | cons other tail =>
          rw [charsOf_followers_cons] at same
          cases same
  | cons item tail ih =>
      cases others with
      | nil =>
          rw [charsOf_followers_cons] at same
          cases same
      | cons other otherTail =>
          rw [charsOf_followers_cons, charsOf_followers_cons] at same
          simp only [List.cons_append, List.append_assoc, List.cons.injEq, true_and] at same
          obtain ⟨first, tails⟩ :=
            reads (each item List.mem_cons_self) (otherEach other List.mem_cons_self) same
          obtain ⟨later, ends⟩ := ih (fun item member => each item (List.mem_cons_of_mem _ member))
            (fun item member => otherEach item (List.mem_cons_of_mem _ member)) tails
          exact ⟨by rw [List.map_cons, List.map_cons, first, later], ends⟩

/-- Blocks that do not begin as the closing line does end before it. -/
theorem separated_append_inj (reads : ReadsBack valid (fun item => charsOf (block item)) shown)
    (apart : ∀ item rest more, charsOf (block item) ++ rest ≠ closing ++ more)
    {items others : List α} (each : ∀ item ∈ items, valid item)
    (otherEach : ∀ item ∈ others, valid item) {rest more : List Char}
    (same : charsOf (separated (items.map block)) ++ (closing ++ rest) =
      charsOf (separated (others.map block)) ++ (closing ++ more)) :
    items.map shown = others.map shown ∧ rest = more := by
  cases items with
  | nil =>
      cases others with
      | nil => exact ⟨rfl, List.append_cancel_left same⟩
      | cons other tail =>
          rw [separated_cons, charsOf_append, List.append_assoc] at same
          exact absurd same.symm (apart other _ _)
  | cons item tail =>
      cases others with
      | nil =>
          rw [separated_cons, charsOf_append, List.append_assoc] at same
          exact absurd same (apart item _ _)
      | cons other otherTail =>
          simp only [separated_cons, charsOf_append, List.append_assoc] at same
          obtain ⟨first, tails⟩ :=
            reads (each item List.mem_cons_self) (otherEach other List.mem_cons_self) same
          obtain ⟨later, ends⟩ := followers_append_inj reads
            (fun item member => each item (List.mem_cons_of_mem _ member))
            (fun item member => otherEach item (List.mem_cons_of_mem _ member)) tails
          exact ⟨by rw [List.map_cons, List.map_cons, first, later], ends⟩

end Blocks

end SchemaBinding.CSharp
